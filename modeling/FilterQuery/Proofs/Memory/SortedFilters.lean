import FilterQuery.Memory.Predicate
import FilterQuery.Proofs.Memory.Order
import FilterQuery.Proofs.Numeral.Exactness
import FilterQuery.Proofs.Request.Typing

/-!
# Sorting follows filtering

Stored values are compared by two functions. A filter asks how two values of one kind compare, and
looks at numbers as longs where it can and as doubles elsewhere; a sort ranks all values, and tells
apart what a filter takes for equal. Within a kind the sort never contradicts the filter
(`order_of_compareFields`): longs keep their order as doubles, and the total order of doubles
refines the numeric one.

So a row that a strict comparison accepts sorts on the accepted side of the value it was compared
with (`sorting_follows_filtering`), whether that was selected by a subquery or given by the request.
A value of the request stands for the stored values that hold it, and within a kind it compares as
any of these does (`compareField_eq_compareFields`).
-/

namespace FilterQuery

/-- The order that a strict comparison asks for. -/
def Comparison.strict? : Comparison → Option Ordering
  | .less => some .lt
  | .greater => some .gt
  | _ => none

theorem Comparison.strict?_ne_eq {c : Comparison} {o : Ordering} (h : c.strict? = some o) :
    o ≠ .eq := by
  cases c <;> cases h <;> decide

theorem Comparison.any_accepts_of_strict {c : Comparison} {o : Ordering} (h : c.strict? = some o)
    {found : Option Ordering} (hfound : found.any c.accepts = true) : found = some o := by
  obtain ⟨o', rfl, haccepts⟩ := (Option.any_eq_true _ _).mp hfound
  cases c <;> cases h <;> cases o' <;> first | rfl | cases haccepts

namespace Memory

/-! ### Values -/

/-- Two stored values are of one kind, and filters compare values of that kind. -/
inductive Comparable : Json → Json → Prop
  | numbers {a b : Json} {x y : Binary64} : a.asDouble? = some x → b.asDouble? = some y →
    Comparable a b
  | booleans (b c : Bool) : Comparable (.bool b) (.bool c)
  | instants {s t : String} {i j : Instant} : Instant.read? s = some i →
    Instant.read? t = some j → Comparable (.string s) (.string t)
  | texts {s t : String} : Instant.read? s = none → Instant.read? t = none →
    Comparable (.string s) (.string t)

/-- Integers that are rounded to one double are told apart by a sort. -/
theorem order_integer (i j : Int) :
    (SortRank.of (some (.integer i))).order (SortRank.of (some (.integer j))) = compare i j := by
  show (compare (Binary64.ofInt i).rank (Binary64.ofInt j).rank).then (compare i j) = _
  rcases Binary64.compare_cases_of_mono (Binary64.rank_ofInt_mono (i := i) (j := j))
    Binary64.rank_ofInt_mono with heq | hranks
  · rw [heq]
    rfl
  · rw [hranks]
    cases compare i j <;> rfl

theorem integer_or_float_of_asDouble? {v : Json} {x : Binary64} (h : v.asDouble? = some x) :
    (∃ i, v = .integer i ∧ x = .ofInt i) ∨ v = .float x := by
  cases v with
  | integer i => exact .inl ⟨i, rfl, (Option.some.inj h).symm⟩
  | float y => exact .inr (congrArg Json.float (Option.some.inj h))
  | _ => cases h

theorem exists_rank_of_asDouble? {v : Json} {x : Binary64} (h : v.asDouble? = some x) :
    ∃ exact, SortRank.of (some v) = .number ⟨x.rank, exact⟩ := by
  rcases integer_or_float_of_asDouble? h with ⟨i, rfl, rfl⟩ | rfl
  · exact ⟨some i, rfl⟩
  · exact ⟨none, rfl⟩

/-- Numbers that are told apart as doubles are in the same order to a sort. -/
theorem order_of_asDouble? {a b : Json} {x y : Binary64} {o : Ordering} (ha : a.asDouble? = some x)
    (hb : b.asDouble? = some y) (h : x.compare? y = some o) (ho : o ≠ .eq) :
    (SortRank.of (some a)).order (SortRank.of (some b)) = o := by
  obtain ⟨_, hranka⟩ := exists_rank_of_asDouble? ha
  obtain ⟨_, hrankb⟩ := exists_rank_of_asDouble? hb
  rw [hranka, hrankb, SortRank.order, NumberRank.order, Binary64.compare_rank_of_compare? h ho]
  cases o <;> first | rfl | exact absurd rfl ho

/-- Numbers are compared as integers or as doubles. -/
theorem compareFields_of_asDouble? {a b : Json} {x y : Binary64} (ha : a.asDouble? = some x)
    (hb : b.asDouble? = some y) :
    (∃ i j, a = .integer i ∧ b = .integer j ∧ compareFields a b = some (compare i j)) ∨
      compareFields a b = x.compare? y := by
  rcases integer_or_float_of_asDouble? ha with ⟨i, rfl, rfl⟩ | rfl
  · rcases integer_or_float_of_asDouble? hb with ⟨j, rfl, rfl⟩ | rfl
    · rw [compareFields]
      split
      · exact .inl ⟨i, j, rfl, rfl, rfl⟩
      · exact .inr rfl
    · exact .inr rfl
  · rcases integer_or_float_of_asDouble? hb with ⟨j, rfl, rfl⟩ | rfl
    · exact .inr rfl
    · exact .inr rfl

/-- Within a kind, a filter finds an order of all values but not-a-number. -/
theorem compareFields_eq_none_iff {a b : Json} (hkind : Comparable a b) :
    compareFields a b = none ↔ a = .float .nan ∨ b = .float .nan := by
  cases hkind with
  | numbers ha hb =>
    have hnan {v : Json} {z : Binary64} (hv : v.asDouble? = some z) :
        v = .float .nan ↔ z = .nan := by
      rcases integer_or_float_of_asDouble? hv with ⟨i, rfl, rfl⟩ | rfl
      · simp [Binary64.ofInt, Binary64.ofOrdinal]
      · simp
    rw [hnan ha, hnan hb]
    rcases compareFields_of_asDouble? ha hb with ⟨i, j, rfl, rfl, hlongs⟩ | hdoubles
    · obtain rfl := Option.some.inj ha
      obtain rfl := Option.some.inj hb
      simp [hlongs, Binary64.ofInt, Binary64.ofOrdinal]
    · rw [hdoubles, Binary64.compare?_eq_none_iff]
  | booleans b c => simp [compareFields]
  | instants hs ht => simp [compareFields, hs, ht]
  | texts hs ht => simp [compareFields, hs]

/-- **Within a kind, a sort does not contradict a filter.** -/
theorem order_of_compareFields {a b : Json} {o : Ordering} (hkind : Comparable a b)
    (h : compareFields a b = some o) (ho : o ≠ .eq) :
    (SortRank.of (some a)).order (SortRank.of (some b)) = o := by
  cases hkind with
  | numbers ha hb =>
    rcases compareFields_of_asDouble? ha hb with ⟨i, j, rfl, rfl, hlongs⟩ | hdoubles
    · rw [order_integer]
      exact Option.some.inj (hlongs.symm.trans h)
    · exact order_of_asDouble? ha hb (hdoubles.symm.trans h) ho
  | booleans b c => exact Option.some.inj h
  | @instants s t i j hs ht =>
    obtain rfl : compare i j = o := by simpa [compareFields, hs, ht] using h
    simp only [SortRank.of, hs, ht, SortRank.order]
    -- the texts are compared only if the instants are equal
    cases hij : compare i j <;> first | rfl | exact absurd hij ho
  | texts hs ht => simpa [compareFields, SortRank.of, hs, ht, SortRank.order] using h

/-! ### Values of a request -/

/-- The scalar that a stored value is to a filter, in the value's own kind. -/
def scalar? : Json → Option Scalar
  | .integer i => some (.ofInteger i)
  | .float x => some (.double x)
  | .bool b => some (.boolean b)
  | .string s => some ((Instant.read? s).elim (.string s) .instant)
  | _ => none

theorem compareField_number {a b : Json} {x y : Binary64} {s : Scalar} (ha : a.asDouble? = some x)
    (hb : b.asDouble? = some y) (hs : scalar? b = some s) :
    compareField a s = compareFields a b := by
  rcases integer_or_float_of_asDouble? ha with ⟨i, rfl, rfl⟩ | rfl <;>
    rcases integer_or_float_of_asDouble? hb with ⟨j, rfl, rfl⟩ | rfl <;>
    obtain rfl := Option.some.inj hs
  · cases hi : Numeral.isLong i <;> cases hj : Numeral.isLong j <;>
      simp [compareField, fieldAs, compareFields, Scalar.compare?, Scalar.ofInteger, hi, hj]
  · cases hi : Numeral.isLong i <;>
      simp [compareField, fieldAs, compareFields, Json.asDouble?, Scalar.compare?, hi]
  · cases hj : Numeral.isLong j <;>
      simp [compareField, fieldAs, compareFields, Json.asDouble?, Scalar.compare?,
        Scalar.ofInteger, hj]
  · rfl

/-- **Within a kind, a scalar compares as the stored values that are this scalar.** -/
theorem compareField_eq_compareFields {a b : Json} {s : Scalar} (hkind : Comparable a b)
    (hs : scalar? b = some s) : compareField a s = compareFields a b := by
  cases hkind with
  | numbers ha hb => exact compareField_number ha hb hs
  | booleans b c =>
    obtain rfl := Option.some.inj hs
    rfl
  | instants ha hb =>
    obtain rfl : _ = s := by simpa [scalar?, hb] using hs
    simp [compareField, fieldAs, textAs, Scalar.type, compareFields, Scalar.compare?, ha, hb]
  | texts ha hb =>
    obtain rfl : _ = s := by simpa [scalar?, hb] using hs
    simp [compareField, fieldAs, textAs, Scalar.type, compareFields, Scalar.compare?, ha, hb]

/-! ### Rows -/

theorem member?_of_field? {row value : Json} {name : String} (h : field? row name = some value) :
    row.member? name = some value :=
  (Option.filter_eq_some_iff.mp h).1

/-- The first sort key decides between rows whose fields it tells apart. -/
theorem compareRows_of_order {row other a b : Json} {name : String} {o : Ordering}
    (ha : field? row name = some a) (hb : field? other name = some b)
    (h : (SortRank.of (some a)).order (SortRank.of (some b)) = o) (ho : o ≠ .eq)
    (keys : List SortKey) : compareRows (⟨name, .ascending⟩ :: keys) row other = o := by
  rw [compareRows, compareBy, member?_of_field? ha, member?_of_field? hb, h]
  cases o <;> first | rfl | exact absurd rfl ho

/-- A comparison with a subquery is one with the field of a row that the subquery selects. -/
theorem exists_selected_of_holds {rows : List Json} {row : Json} {name : String} {c : Comparison}
    {subquery : Predicate} (h : (Predicate.nested name (.compare c) subquery).holds rows row = true) :
    ∃ a b, ∃ other ∈ rows, subquery.holds rows other = true ∧ field? row name = some a ∧
      field? other name = some b ∧ (compareFields a b).any c.accepts = true := by
  cases hrow : field? row name with
  | none => simp [Predicate.holds, hrow] at h
  | some a =>
    simp only [Predicate.holds, hrow, holdsOfSelected] at h
    split at h
    · next b hselected =>
      have hmem : b ∈ (rows.filter fun candidate => subquery.holds rows candidate).filterMap
          (field? · name) := by simp [hselected]
      obtain ⟨other, hother, hb⟩ := List.mem_filterMap.mp hmem
      obtain ⟨hrows, hholds⟩ := List.mem_filter.mp hother
      exact ⟨a, b, other, hrows, hholds, rfl, hb, h⟩
    · cases h

/-- **Sorting follows filtering.** A filter finds an order of any two values of a kind but
not-a-number, and if it puts one of them before the other, a sort does so too. So a row that a strict
comparison accepts sorts on the accepted side of the row that its subquery selects, or of any row
that holds the value of the comparison. -/
theorem sorting_follows_filtering :
    (∀ a b, Comparable a b →
      (compareFields a b = none ↔ a = .float .nan ∨ b = .float .nan)) ∧
    (∀ a b o, Comparable a b → o ≠ .eq → compareFields a b = some o →
      (SortRank.of (some a)).order (SortRank.of (some b)) = o) ∧
    (∀ (c : Comparison) o, c.strict? = some o → ∀ rows row name a, field? row name = some a →
      (∀ subquery : Predicate,
        (Predicate.nested name (.compare c) subquery).holds rows row = true →
        ∃ b, ∃ other ∈ rows, subquery.holds rows other = true ∧ field? other name = some b ∧
          (Comparable a b → ∀ keys, compareRows (⟨name, .ascending⟩ :: keys) row other = o)) ∧
      ∀ s, (Predicate.condition (.compare name c s)).holds rows row = true →
        ∀ other b, field? other name = some b → scalar? b = some s → Comparable a b →
          ∀ keys, compareRows (⟨name, .ascending⟩ :: keys) row other = o) := by
  refine ⟨fun a b => compareFields_eq_none_iff,
    fun a b o hkind ho h => order_of_compareFields hkind h ho, ?rows⟩
  case rows =>
    intro c o hc rows row name a ha
    have ho := Comparison.strict?_ne_eq hc
    constructor
    · intro subquery h
      obtain ⟨a', b, other, hother, hholds, ha', hb, haccepts⟩ := exists_selected_of_holds h
      obtain rfl := Option.some.inj (ha.symm.trans ha')
      refine ⟨b, other, hother, hholds, hb, fun hkind => ?_⟩
      have hcompare := Comparison.any_accepts_of_strict hc haccepts
      exact compareRows_of_order ha hb (order_of_compareFields hkind hcompare ho) ho
    · intro s h other b hb hs hkind
      rw [Predicate.holds, fulfils, ha, Option.bind_some] at h
      have hcompare := Comparison.any_accepts_of_strict hc h
      rw [compareField_eq_compareFields hkind hs] at hcompare
      exact compareRows_of_order ha hb (order_of_compareFields hkind hcompare ho) ho

/-- The two values are one double, and are told apart as integers. -/
theorem sorting_follows_filtering_past_53_bits :
    let low : Json := .object [("id", .integer 1), ("n", .integer 9007199254740992)]
    let high : Json := .object [("id", .integer 2), ("n", .integer 9007199254740993)]
    let aboveLow : Predicate :=
      .nested "n" (.compare .greater) (.condition (.compare "id" .equal (.long 1)))
    let belowHigh : Predicate := .condition (.compare "n" .less (.long 9007199254740993))
    let keys : List SortKey := [⟨"n", .ascending⟩]
    aboveLow.holds [low, high] high = true ∧ compareRows keys high low = .gt ∧
      belowHigh.holds [low, high] low = true ∧ compareRows keys low high = .lt ∧
      (SortRank.of (some (.integer 9007199254740992))).order
        (SortRank.of (some (.integer 9007199254740993))) = .lt := by
  intro low high aboveLow belowHigh keys
  obtain ⟨-, hvalues, hrows⟩ := sorting_follows_filtering
  have habove : aboveLow.holds [low, high] high = true := by decide
  have hbelow : belowHigh.holds [low, high] low = true := by decide
  have hnested : compareRows keys high low = .gt := by
    obtain ⟨b, other, hother, hselects, hb, hsorts⟩ :=
      (hrows .greater .gt rfl [low, high] high "n" _ rfl).1 _ habove
    have hlow : other = low := by
      simp only [List.mem_cons, List.not_mem_nil, or_false] at hother
      rcases hother with rfl | rfl
      · rfl
      · revert hselects
        decide
    subst hlow
    obtain rfl := Option.some.inj hb
    exact hsorts (.numbers rfl rfl) []
  have hflat : compareRows keys low high = .lt :=
    (hrows .less .lt rfl [low, high] low "n" _ rfl).2 _ hbelow high _ rfl rfl (.numbers rfl rfl) []
  exact ⟨habove, hnested, hbelow, hflat, hvalues _ _ _ (.numbers rfl rfl) (by decide) (by decide)⟩

end Memory

end FilterQuery
