import FilterQuery.Proofs.Agreement.Subqueries
import FilterQuery.Proofs.Memory.Membership
import FilterQuery.Proofs.Memory.SortedFilters
import FilterQuery.Proofs.Request.Typing

/-!
# Filters on integers

JSON keeps an integer between `-(2 ^ 63)` and `2 ^ 64 - 1` exactly, and longs are compared exactly.
An integer that is no long meets any other as a double. So it may be taken for an integer that it is
not (`Blurred`), though never for one more than 2048 away; and in all other cases the order found is
the order of the integers (`compareFields_integer`). Each integer of JSON beyond the longs is taken
for some other one (`exists_blurred`).

The value of a request may be the text of an integer. It stands for what the integer is in JSON, so
a filter on such a value finds the same order as a subquery that selects the integer
(`compareField_integer`).
-/

namespace FilterQuery

namespace Memory

open Numeral (isLong isLong_iff)

/-! ### The order of two integers -/

/-- Two integers are taken for equal and are not: they are not both longs, and have one nearest
double. -/
def Blurred (i j : Int) : Prop :=
  i ≠ j ∧ ¬ (isLong i = true ∧ isLong j = true) ∧ (Binary64.ofInt i).agrees (.ofInt j) = true

instance (i j : Int) : Decidable (Blurred i j) :=
  inferInstanceAs (Decidable (_ ∧ _ ∧ _))

/-- The order that a filter finds of two integers. -/
def integerOrder (i j : Int) : Ordering :=
  if Blurred i j then .eq else compare i j

/-- **Two stored integers are in their exact order unless they are blurred.** -/
theorem compareFields_integer (i j : Int) :
    compareFields (.integer i) (.integer j) = some (integerOrder i j) := by
  by_cases hlongs : isLong i = true ∧ isLong j = true
  · have hexact : ¬ Blurred i j := fun h => h.2.1 hlongs
    rw [compareFields, if_pos (Bool.and_eq_true_iff.mpr hlongs), integerOrder, if_neg hexact]
  · rw [compareFields, if_neg (mt Bool.and_eq_true_iff.mp hlongs), integerOrder]
    split
    · next hblurred => exact beq_iff_eq.mp hblurred.2.2
    · next hexact =>
      rcases Binary64.compare?_ofInt_ofInt i j with heq | horder
      · have hsame : i = j := by
          by_contra hne
          exact hexact ⟨hne, hlongs, beq_iff_eq.mpr heq⟩
        rw [heq, Int.compare_eq_eq.mpr hsame]
      · exact horder

theorem integerOrder_eq_compare_iff {i j : Int} :
    integerOrder i j = compare i j ↔ ¬ Blurred i j := by
  unfold integerOrder
  split
  · next h =>
    rw [eq_comm, Int.compare_eq_eq]
    exact iff_of_false h.1 (not_not_intro h)
  · next h => exact iff_of_true rfl h

/-- Integers that JSON keeps are blurred only if they are near. -/
theorem natAbs_sub_le_of_blurred {i j : Int} (hi : Json.keepsInteger i = true)
    (hj : Json.keepsInteger j = true) (h : Blurred i j) : (i - j).natAbs ≤ 2048 := by
  rw [Json.keepsInteger_iff] at hi hj
  exact Binary64.natAbs_sub_le_of_agrees (by omega) (by omega) h.2.2

/-- **No integer beyond the longs is told apart from all others.** -/
theorem exists_blurred {i : Int} (hi : Json.keepsInteger i = true) (hlong : isLong i = false) :
    ∃ j, Json.keepsInteger j = true ∧ Blurred i j := by
  have hbeyond : 2 ^ 63 ≤ i ∧ i < 2 ^ 64 := by
    rw [Json.keepsInteger_iff] at hi
    rw [Bool.eq_false_iff, ne_eq, isLong_iff] at hlong
    omega
  obtain ⟨n, rfl⟩ := Int.eq_ofNat_of_zero_le (show 0 ≤ i by omega)
  have hn : n.log2 = 63 := (Nat.log2_eq_iff (by omega)).mpr (by omega)
  obtain ⟨m, hm, hne, hagrees⟩ := Binary64.exists_agrees_ofInt hn
  have hkept : m < 2 ^ 64 := by
    have h := m.lt_log2_self
    rwa [hm] at h
  refine ⟨m, Json.keepsInteger_iff.mpr (by omega), by omega, fun h => ?_, hagrees⟩
  rw [hlong] at h
  cases h.1

/-! ### Subqueries -/

section Subqueries

variable {rows : List Json} {row : Json} {field : String} {i : Int}

/-- A subquery that selects integers selects the integer of the field if this is taken for one of
them. -/
theorem holds_nested_member_integer (hi : field? row field = some (.integer i))
    {subquery : Predicate} {selected : List Int}
    (hselected : subquery.selected rows field = selected.map .integer) (negated : Bool) :
    (Predicate.nested field (.member negated) subquery).holds rows row =
      (selected.any (fun j => integerOrder i j == .eq) != negated) := by
  rw [Predicate.holds_nested_member, hi, Option.any_some, hselected, List.any_map]
  simp only [Function.comp_def, compareFields_integer]
  rfl

theorem holds_nested_compare_integer (hi : field? row field = some (.integer i))
    {subquery : Predicate} {j : Int} (hselected : subquery.selected rows field = [.integer j])
    (c : Comparison) :
    (Predicate.nested field (.compare c) subquery).holds rows row =
      c.accepts (integerOrder i j) := by
  rw [Predicate.selected] at hselected
  simp only [Predicate.holds, hi, holdsOfSelected, hselected, compareFields_integer]
  rfl

end Subqueries

/-! ### Values of a request -/

theorem compareField_integer (i j : Int) :
    compareField (.integer i) (.ofInteger j) = some (integerOrder i j) := by
  have hscalar : scalar? (.integer j) = some (.ofInteger j) := rfl
  rw [compareField_number rfl rfl hscalar, compareFields_integer]

theorem holds_compare_integer {rows : List Json} {row : Json} {field : String} {i : Int}
    (hi : field? row field = some (.integer i)) (c : Comparison) (j : Int) :
    (Predicate.condition (.compare field c (.ofInteger j))).holds rows row =
      c.accepts (integerOrder i j) := by
  rw [holds_compare hi, compareField_integer]
  rfl

theorem holds_member_integer {rows : List Json} {row : Json} {field : String} {i : Int}
    (hi : field? row field = some (.integer i)) (negated : Bool) (j : Int) :
    (Predicate.condition (.member field negated [.ofInteger j])).holds rows row =
      ((integerOrder i j == .eq) != negated) := by
  rw [holds_member hi, List.any_cons, List.any_nil, Bool.or_false, compareField_integer]
  rfl

/-- **Integers are compared exactly but for blurred ones.** Filters find the exact order of two
integers of JSON if and only if they are not blurred, and take them for equal if they are. Blurred
integers are near, and one of them is no long; each one that is no long has another that it is taken
for. -/
theorem integers_compare_exactly_but_for_blurred {i j : Int} (hi : Json.keepsInteger i = true)
    (hj : Json.keepsInteger j = true) :
    (compareFields (.integer i) (.integer j) = some (compare i j) ↔ ¬ Blurred i j) ∧
    compareFields (.integer i) (.integer j) = some (integerOrder i j) ∧
    (Blurred i j → (i - j).natAbs ≤ 2048) ∧
    (isLong i = false → ∃ k, Json.keepsInteger k = true ∧ Blurred i k) ∧
    (∀ rows row field, field? row field = some (.integer i) → ∀ subquery : Predicate,
      (∀ selected : List Int, subquery.selected rows field = selected.map .integer → ∀ negated,
        (Predicate.nested field (.member negated) subquery).holds rows row =
          (selected.any (fun k => integerOrder i k == .eq) != negated)) ∧
      (subquery.selected rows field = [.integer j] → ∀ c,
        (Predicate.nested field (.compare c) subquery).holds rows row =
          c.accepts (integerOrder i j))) ∧
    ∀ p : Param, p.value = some (.text (toString j)) →
      (∀ c, ∃ m, Predicate.backend.search (.compare c) p = .ok m ∧
        ∀ rows row, field? row p.name = some (.integer i) →
          m.holds rows row = c.accepts (integerOrder i j)) ∧
      ∀ negated, ∃ m, Predicate.backend.search (.member negated) p = .ok m ∧
        ∀ rows row, field? row p.name = some (.integer i) →
          m.holds rows row = ((integerOrder i j == .eq) != negated) := by
  have hexact : compareFields (.integer i) (.integer j) = some (compare i j) ↔ ¬ Blurred i j := by
    rw [compareFields_integer, Option.some.injEq, integerOrder_eq_compare_iff]
  refine ⟨hexact, compareFields_integer i j, natAbs_sub_le_of_blurred hi hj, exists_blurred hi,
    ?subqueries, ?values⟩
  case subqueries =>
    intro rows row field hfield subquery
    exact ⟨fun selected hselected negated => holds_nested_member_integer hfield hselected negated,
      fun hselected c => holds_nested_compare_integer hfield hselected c⟩
  case values =>
    intro p hvalue
    constructor
    · intro c
      refine ⟨_, search_compare hvalue (ParamValue.toScalar_toString hj) c, ?_⟩
      exact fun rows row hfield => holds_compare_integer hfield c j
    · intro negated
      have hlist : ParamValue.toScalars p.value = .ok [.ofInteger j] := by
        rw [hvalue, ParamValue.toScalars_toString hj]
      refine ⟨_, search_member hlist negated, ?_⟩
      exact fun rows row hfield => holds_member_integer hfield negated j

/-- The first two integers beyond the longs are taken for one, in a subquery and as a text. -/
theorem integers_compare_exactly_but_for_blurred_past_the_longs :
    let row (n : Int) : Json := .object [("n", .integer n)]
    let isAmong : Predicate := .nested "n" (.member false) (.condition .everything)
    let isOne : Predicate := .nested "n" (.compare .equal) (.condition .everything)
    let p := Param.withCode "n" "eq" (.text "9223372036854775809")
    Blurred 9223372036854775808 9223372036854775809 ∧
      (9223372036854775808 - 9223372036854775809 : Int).natAbs ≤ 2048 ∧
      (∃ k, Json.keepsInteger k = true ∧ Blurred 9223372036854775808 k) ∧
      compareFields (.integer 9223372036854775808) (.integer 9223372036854775809) = some .eq ∧
      isAmong.holds [row 9223372036854775809] (row 9223372036854775808) = true ∧
      isOne.holds [row 9223372036854775809] (row 9223372036854775808) = true ∧
      (∃ m, Predicate.backend.search (.compare .equal) p = .ok m ∧
        m.holds [] (row 9223372036854775808) = true) ∧
      ∃ m, Predicate.backend.search (.member false) p = .ok m ∧
        m.holds [] (row 9223372036854775808) = true := by
  intro row isAmong isOne p
  have hpair : Blurred 9223372036854775808 9223372036854775809 := by decide +kernel
  have horder : integerOrder 9223372036854775808 9223372036854775809 = .eq := if_pos hpair
  obtain ⟨-, hfields, hnear, hother, hsubqueries, hvalues⟩ :=
    integers_compare_exactly_but_for_blurred (i := 9223372036854775808) (j := 9223372036854775809)
      (by decide) (by decide)
  obtain ⟨hmember, hcompare⟩ := hsubqueries [row 9223372036854775809] (row 9223372036854775808) "n"
    rfl (.condition .everything)
  obtain ⟨hequal, hlisted⟩ := hvalues p rfl
  refine ⟨hpair, hnear hpair, hother (by decide), hfields.trans (congrArg some horder),
    ?_, ?_, ?_, ?_⟩
  · rw [hmember [9223372036854775809] rfl false, List.any_cons, horder]
    rfl
  · rw [hcompare rfl, horder]
    rfl
  · obtain ⟨m, hm, hholds⟩ := hequal .equal
    refine ⟨m, hm, ?_⟩
    rw [hholds [] (row 9223372036854775808) rfl, horder]
    rfl
  · obtain ⟨m, hm, hholds⟩ := hlisted false
    refine ⟨m, hm, ?_⟩
    rw [hholds [] (row 9223372036854775808) rfl, horder]
    rfl

end Memory

end FilterQuery
