import FilterQuery.Proofs.Memory.NullFields
import FilterQuery.Proofs.Request.Inference
import FilterQuery.Proofs.Scalar.Order

/-!
# Membership in a list of one

A value that is no list may be given to `in` and `notIn` as well, and then it is a list of itself. To
be in the list is to equal the value. Not to be in it is less than to differ from it: an inequality,
like all comparisons, holds only where an order is found, and a negated list holds wherever equality
is not found. So they come apart on the fields that are `Incomparable` with the value
(`holds_notMember_eq_iff`), and for every value there are such fields.

A field that is missing or null is in neither.
-/

namespace FilterQuery

/-! ### Incomparable values -/

namespace Memory

/-- A stored value is in no order with a scalar: it cannot be read as a scalar of its kind, or only
as no number. -/
def Incomparable (stored : Json) (x : Scalar) : Prop :=
  ∀ y, fieldAs stored x.type = some y → ¬ y.SameKind x ∨ y = .double .nan

theorem compareField_eq_none_iff {stored : Json} {x : Scalar} (hx : x.isFinite = true) :
    compareField stored x = none ↔ Incomparable stored x := by
  rw [compareField, Option.bind_eq_none_iff]
  apply forall₂_congr
  intro y _
  rw [Scalar.compare?_eq_none_iff]
  simp [Scalar.ne_nan_of_isFinite hx]

/-- Lists and objects are in no order with anything. -/
theorem incomparable_array (items : List Json) (x : Scalar) : Incomparable (.array items) x :=
  fun _ h => nomatch h

/-! ### Filters on a stored value -/

section

variable {rows : List Json} {row stored : Json} {field : String}

theorem search_compare {p : Param} {v : ParamValue} {x : Scalar} (hv : p.value = some v)
    (hx : v.toScalar = .ok x) (c : Comparison) :
    Predicate.backend.search (.compare c) p = .ok (.condition (.compare p.name c x)) :=
  Backend.search_of_ofParam (Condition.ofParam_compare hv hx c)

theorem search_member {p : Param} {x : Scalar} {xs : List Scalar}
    (hxs : ParamValue.toScalars p.value = .ok (x :: xs)) (negated : Bool) :
    Predicate.backend.search (.member negated) p =
      .ok (.condition (.member p.name negated (x :: xs))) :=
  Backend.search_of_ofParam (Condition.ofParam_member hxs negated)

/-- Only its values keep a list from being planned. -/
theorem exists_search_member_iff {p : Param} {negated : Bool} :
    (∃ m, Predicate.backend.search (.member negated) p = .ok m) ↔
      ∃ xs, ParamValue.toScalars p.value = .ok xs := by
  constructor
  · rintro ⟨m, hm⟩
    obtain ⟨c, hc, -⟩ := bind_eq_ok.mp hm
    obtain ⟨xs, hxs, -⟩ := bind_eq_ok.mp hc
    exact ⟨xs, hxs⟩
  · rintro ⟨xs, hxs⟩
    cases xs with
    | cons x xs => exact ⟨_, search_member hxs negated⟩
    | nil =>
      have hnothing : Condition.ofParam (.member negated) p = .ok .nothing :=
        Condition.ofParam_eq_ok.mpr (.nothing hxs)
      exact ⟨_, Backend.search_of_ofParam hnothing⟩

theorem holds_compare (h : field? row field = some stored) (c : Comparison) (x : Scalar) :
    (Predicate.condition (.compare field c x)).holds rows row =
      (compareField stored x).any c.accepts := by
  rw [Predicate.holds, fulfils, h, Option.bind_some]

theorem holds_member (h : field? row field = some stored) (negated : Bool) (xs : List Scalar) :
    (Predicate.condition (.member field negated xs)).holds rows row =
      (xs.any (fun x => compareField stored x == some .eq) != negated) := by
  rw [Predicate.holds, fulfils, h, Option.any_some]

theorem holds_compare_of_missing (h : field? row field = none) (c : Comparison) (x : Scalar) :
    (Predicate.condition (.compare field c x)).holds rows row = false := by
  rw [Predicate.holds, fulfils, h]
  rfl

theorem holds_member_of_missing (h : field? row field = none) (negated : Bool)
    (xs : List Scalar) : (Predicate.condition (.member field negated xs)).holds rows row = false := by
  rw [Predicate.holds, fulfils, h]
  rfl

end

/-! ### Lists of one -/

section

variable {rows : List Json} {row : Json} {field : String} {x : Scalar}

/-- **To be in a list of one value is to equal it.** -/
theorem holds_member_eq_equal :
    (Predicate.condition (.member field false [x])).holds rows row =
      (Predicate.condition (.compare field .equal x)).holds rows row := by
  cases h : field? row field with
  | none => rw [holds_member_of_missing h, holds_compare_of_missing h]
  | some stored =>
    rw [holds_member h, holds_compare h, List.any_cons, List.any_nil]
    cases compareField stored x <;> simp [Comparison.accepts]

/-- **Not to be in it is to differ from it**, or to be in no order with it. -/
theorem holds_notMember_eq_iff (hx : x.isFinite = true) :
    (Predicate.condition (.member field true [x])).holds rows row =
        (Predicate.condition (.compare field .notEqual x)).holds rows row ↔
      ∀ stored, field? row field = some stored → ¬ Incomparable stored x := by
  cases h : field? row field with
  | none => simp [holds_member_of_missing h, holds_compare_of_missing h]
  | some stored =>
    rw [holds_member h, holds_compare h, List.any_cons, List.any_nil]
    simp only [Option.some.injEq, forall_eq', ← compareField_eq_none_iff hx]
    cases compareField stored x with
    | none => simp
    | some o => cases o <;> simp [Comparison.accepts]

end

/-- **A list of one compares with its value, but for incomparable fields.** A value that is no list
builds all four filters. A field is in the list if and only if it equals the value. It is outside if
and only if it differs from the value, unless it is incomparable with it: then it is outside and
does not differ. For every value there is a row with such a field. -/
theorem lists_of_one_compare_but_for_incomparable {p : Param} {v : ParamValue}
    (hv : p.value = some v) (h : v.Single) :
    ∃ isIn isEqual notIn notEqual x,
      Predicate.backend.search (.member false) p = .ok isIn ∧
      Predicate.backend.search (.compare .equal) p = .ok isEqual ∧
      Predicate.backend.search (.member true) p = .ok notIn ∧
      Predicate.backend.search (.compare .notEqual) p = .ok notEqual ∧
      v.toScalar = .ok x ∧
      (∀ rows row, isIn.holds rows row = isEqual.holds rows row) ∧
      (∀ rows row, notIn.holds rows row = notEqual.holds rows row ↔
        ∀ stored, field? row p.name = some stored → ¬ Incomparable stored x) ∧
      (∀ rows row stored, field? row p.name = some stored → Incomparable stored x →
        notIn.holds rows row = true ∧ notEqual.holds rows row = false) ∧
      ∃ row stored, field? row p.name = some stored ∧ Incomparable stored x := by
  obtain ⟨x, hx, hxs⟩ := h.exists_toScalar
  have hlist : ParamValue.toScalars p.value = .ok [x] := by rw [hv, hxs]
  have hfinite := ParamValue.isFinite_of_toScalar hx
  refine ⟨_, _, _, _, x, search_member hlist false, search_compare hv hx .equal,
    search_member hlist true, search_compare hv hx .notEqual, hx, ?_, ?_, ?_, ?_⟩
  · exact fun rows row => holds_member_eq_equal
  · exact fun rows row => holds_notMember_eq_iff hfinite
  · intro rows row stored hfield hincomparable
    have hnone := (compareField_eq_none_iff hfinite).mpr hincomparable
    rw [holds_member hfield, holds_compare hfield, List.any_cons, hnone]
    exact ⟨rfl, rfl⟩
  · refine ⟨.object [(p.name, .array [])], .array [], ?_, incomparable_array [] x⟩
    simp [field?_object, Json.isNull]

/-- A text is neither one nor another number, but it is outside the list of one. -/
theorem lists_of_one_compare_but_for_incomparable_text :
    let p := Param.withCode "a" "notIn" (.integer 1)
    let row : Json := .object [("a", .string "x")]
    ∃ notIn notEqual, Predicate.backend.search (.member true) p = .ok notIn ∧
      Predicate.backend.search (.compare .notEqual) p = .ok notEqual ∧
      notIn.holds [row] row = true ∧ notEqual.holds [row] row = false := by
  intro p row
  obtain ⟨_, _, notIn, notEqual, x, -, -, hnotIn, hnotEqual, hx, -, -, hrows, -⟩ :=
    lists_of_one_compare_but_for_incomparable (p := p) rfl (.integer 1)
  obtain rfl : Scalar.long 1 = x := Except.ok.inj hx
  have hincomparable : Incomparable (.string "x") (.long 1) :=
    (compareField_eq_none_iff rfl).mp (by decide)
  obtain ⟨hholds, hfails⟩ := hrows [row] row (.string "x") rfl hincomparable
  exact ⟨notIn, notEqual, hnotIn, hnotEqual, hholds, hfails⟩

end Memory

end FilterQuery
