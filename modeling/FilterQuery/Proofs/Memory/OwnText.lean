import FilterQuery.Proofs.Memory.Membership
import FilterQuery.Proofs.Memory.StoredText

/-!
# A text beside itself

A text may be a value of a request, which takes a type, and the field of a row, which is read as the
type of the value that it meets. If the text is in both places, it is read as one scalar, and that
is finite and equals itself (`compareField_of_read?`). So it does not matter what type a text takes:
where it is stored it fulfils the comparisons that take in equality, and no others.

It is so with the parts of a list, too. They are of one type, and a part that was cast to it is read
as it; so each part is found in the list where it is stored, and the list of scalars has lost none
(`any_compareField_of_mem`).
-/

namespace FilterQuery

theorem Comparison.accepts_eq_iff {c : Comparison} :
    c.accepts .eq = true ↔ c = .equal ∨ c = .atMost ∨ c = .atLeast := by
  cases c <;> simp [accepts]

namespace Memory

/-! ### One text -/

theorem fieldAs_of_read? {s : String} {t : ScalarType} {x : Scalar} (h : t.read? s = some x) :
    fieldAs (.string s) t = some x := by
  rw [← ScalarType.cast?_text, cast?_eq_filter_fieldAs] at h
  exact (Option.filter_eq_some_iff.mp h).1

/-- **A stored text equals what the same text is read as.** -/
theorem compareField_of_read? {s : String} {t : ScalarType} {x : Scalar} (h : t.read? s = some x) :
    compareField (.string s) x = some .eq := by
  have hfinite := ScalarType.isFinite_of_read? h
  rw [compareField_string, ScalarType.type_of_read? h, fieldAs_of_read? h, Option.bind_some]
  exact Scalar.compare?_self (Scalar.ne_nan_of_isFinite hfinite)

/-- **Every text has a type and equals itself.** Inference finds a type for the text, and the cast to
it succeeds; the scalar is of that type, and it is what the first type that reads the text makes of
it. A row that stores the text fulfils the comparisons with it that take in equality, and no
others. -/
theorem texts_equal_themselves (s : String) :
    ∃ t x, ScalarType.infer? (.text s) = some t ∧ t.cast (.text s) = .ok x ∧ x.type = t ∧
      ParamValue.toScalar (.text s) = .ok x ∧
      ScalarType.all.findSome? (·.read? s) = some x ∧
      ∀ p : Param, p.value = some (.text s) → ∀ c, ∃ m,
        Predicate.backend.search (.compare c) p = .ok m ∧
        ∀ rows row, field? row p.name = some (.string s) →
          (m.holds rows row = true ↔ c = .equal ∨ c = .atMost ∨ c = .atLeast) := by
  obtain ⟨t, ht⟩ := ScalarType.exists_infer?_text s
  obtain ⟨x, hx⟩ := ScalarType.exists_read?_of_infer? ht
  have hcast : t.cast (.text s) = .ok x := by rwa [ScalarType.cast_eq_ok, ScalarType.cast?_text]
  have hscalar : ParamValue.toScalar (.text s) = .ok x := ParamValue.toScalar_of_infer? ht hx
  refine ⟨t, x, ht, hcast, ScalarType.type_of_read? hx, hscalar,
    ParamValue.toScalar_text_eq_ok.mp hscalar, ?_⟩
  intro p hp c
  refine ⟨_, search_compare hp hscalar c, ?_⟩
  intro rows row hfield
  rw [holds_compare hfield, compareField_of_read? hx]
  exact Comparison.accepts_eq_iff

/-- A leap second with an offset is an instant, and at most and not before itself. -/
theorem texts_equal_themselves_in_leap_second :
    let text := "2017-01-01T00:59:60.5+01:00"
    let row : Json := .object [("at", .string text)]
    let p := Param.withCode "at" "le" (.text text)
    ScalarType.infer? (.text text) = some .instant ∧
      (∃ m, Predicate.backend.search (.compare .atMost) p = .ok m ∧ m.holds [row] row = true) ∧
      ∃ m, Predicate.backend.search (.compare .less) p = .ok m ∧ m.holds [row] row = false := by
  intro text row p
  obtain ⟨t, x, ht, -, -, -, -, hfilters⟩ := texts_equal_themselves text
  have htype : ScalarType.infer? (.text text) = some .instant := by decide +kernel
  obtain ⟨atMost, hatMost, hholds⟩ := hfilters p rfl .atMost
  obtain ⟨less, hless, hfails⟩ := hfilters p rfl .less
  refine ⟨htype, ⟨atMost, hatMost, (hholds [row] row rfl).mpr (by decide)⟩, less, hless, ?_⟩
  rw [Bool.eq_false_iff, ne_eq, hfails [row] row rfl]
  decide

/-! ### Lists of texts -/

section

variable {s first part : String} {rest : List String} {t : ScalarType} {xs : List Scalar}

/-- **A stored part of a list equals a scalar of the list.** -/
theorem any_compareField_of_mem (hblank : Text.isAllBlank s = false)
    (hparts : Parted s (first :: rest)) (ht : ScalarType.infer? (.text first) = some t)
    (hxs : ParamValue.toScalars (some (.text s)) = .ok xs) (hpart : part ∈ first :: rest) :
    xs.any (fun x => compareField (.string part) x == some .eq) = true := by
  rw [ParamValue.toScalars_parted hblank hparts ht] at hxs
  obtain ⟨x, hx⟩ := exists_mapM_eq_ok.mp ⟨xs, hxs⟩ part hpart
  have hread : t.read? part = some x := by rwa [ScalarType.cast_eq_ok, ScalarType.cast?_text] at hx
  rw [List.any_eq_true]
  refine ⟨x, (mem_mapM hxs).mpr ⟨part, hpart, hx⟩, ?_⟩
  rw [compareField_of_read? hread]
  rfl

end

/-- **A list in text is cast to one type without loss.** It lists nothing if and only if it is blank.
Otherwise it is parted by its commas, and there is one scalar for each part, all of the type of the
first; or the cast fails on the first part that is not of this type, whatever follows. A filter on
the list is planned if and only if all parts are cast, and a row that stores one of the parts is in
the list. -/
theorem lists_are_cast_without_loss (s : String) :
    (ParamValue.toScalars (some (.text s)) = .ok [] ↔ Text.isAllBlank s = true) ∧
    (Text.isAllBlank s = false → ∃ first rest t,
      Parted s (first :: rest) ∧ ScalarType.infer? (.text first) = some t ∧
      (∀ xs, ParamValue.toScalars (some (.text s)) = .ok xs ↔
        List.Forall₂ (fun part x => t.cast? (.text part) = some x ∧ x.type = t)
          (first :: rest) xs) ∧
      (∀ e, ParamValue.toScalars (some (.text s)) = .error e ↔
        ∃ before part after, first :: rest = before ++ part :: after ∧
          (∀ earlier ∈ before, ∃ x, t.cast? (.text earlier) = some x) ∧
          t.cast? (.text part) = none ∧ e = .castFailed part t) ∧
      ∀ p : Param, p.value = some (.text s) → ∀ negated,
        ((∃ m, Predicate.backend.search (.member negated) p = .ok m) ↔
          ∀ part ∈ first :: rest, ∃ x, t.cast? (.text part) = some x) ∧
        ∀ m, Predicate.backend.search (.member negated) p = .ok m → ∀ part ∈ first :: rest,
          ∀ rows row, field? row p.name = some (.string part) →
            m.holds rows row = !negated) := by
  obtain ⟨first, rest, hparts⟩ := exists_parted s
  obtain ⟨t, ht⟩ := ScalarType.exists_infer?_text first
  constructor
  · cases hblank : Text.isAllBlank s with
    | true => exact iff_of_true (ParamValue.toScalars_of_isAllBlank hblank) rfl
    | false =>
      -- there is a first part, so there is a first scalar
      rw [ParamValue.toScalars_parted_eq_ok hblank hparts ht]
      exact iff_of_false (fun h => nomatch h) (by simp)
  · intro hblank
    refine ⟨first, rest, t, hparts, ht, ?_, ?_, ?_⟩
    · exact fun xs => ParamValue.toScalars_parted_eq_ok hblank hparts ht
    · exact fun e => ParamValue.toScalars_parted_eq_error hblank hparts ht
    · intro p hp negated
      have hplanned : (∃ m, Predicate.backend.search (.member negated) p = .ok m) ↔
          ∀ part ∈ first :: rest, ∃ x, t.cast? (.text part) = some x := by
        rw [exists_search_member_iff, hp, ParamValue.toScalars_parted hblank hparts ht,
          exists_mapM_eq_ok]
        simp only [ScalarType.cast_eq_ok]
      refine ⟨hplanned, ?_⟩
      intro m hm part hpart rows row hfield
      obtain ⟨xs, hxs⟩ := exists_search_member_iff.mp ⟨m, hm⟩
      have hlist : ParamValue.toScalars (some (.text s)) = .ok xs := hp ▸ hxs
      have hfound := any_compareField_of_mem hblank hparts ht hlist hpart
      cases xs with
      | nil => simp at hfound
      | cons x xs =>
        obtain rfl := Except.ok.inj ((search_member hxs negated).symm.trans hm)
        rw [holds_member hfield, hfound, Bool.true_bne]

/-- A list whose first element is a text for its blank keeps an empty element and a date as texts; a
list of longs fails on the first element that is none. -/
theorem lists_are_cast_without_loss_beside_blank :
    let text := " 1,,2024-01-01T00:00:00Z"
    let row (part : String) : Json := .object [("a", .string part)]
    let p := Param.withCode "a" "notIn" (.text text)
    (∃ m, Predicate.backend.search (.member true) p = .ok m ∧
      m.holds [] (row "") = false ∧ m.holds [] (row "2024-01-01T00:00:00Z") = false) ∧
    ParamValue.toScalars (some (.text "1,a,")) = .error (.castFailed "a" .long) := by
  intro text row p
  constructor
  · obtain ⟨first, rest, t, hparts, ht, -, -, hfilters⟩ :=
      (lists_are_cast_without_loss text).2 (by decide)
    have hknown : Parted text [" 1", "", "2024-01-01T00:00:00Z"] :=
      ⟨by decide, by decide, by decide⟩
    obtain ⟨rfl, rfl⟩ := List.cons.inj (hparts.unique hknown)
    have htype : ScalarType.infer? (.text " 1") = some .string := by decide
    obtain rfl := Option.some.inj (ht.symm.trans htype)
    obtain ⟨hplanned, hholds⟩ := hfilters p rfl true
    obtain ⟨m, hm⟩ := hplanned.mpr fun part _ => ⟨.string part, rfl⟩
    exact ⟨m, hm, hholds m hm "" (by decide) [] (row "") rfl,
      hholds m hm "2024-01-01T00:00:00Z" (by decide) [] (row _) rfl⟩
  · obtain ⟨first, rest, t, hparts, ht, -, hfails, -⟩ :=
      (lists_are_cast_without_loss "1,a,").2 (by decide)
    have hknown : Parted "1,a," ["1", "a", ""] := ⟨by decide, by decide, by decide⟩
    obtain ⟨rfl, rfl⟩ := List.cons.inj (hparts.unique hknown)
    have htype : ScalarType.infer? (.text "1") = some .long := by decide
    obtain rfl := Option.some.inj (ht.symm.trans htype)
    refine (hfails _).mpr ⟨["1"], "a", [""], rfl, ?_, by decide, rfl⟩
    intro earlier hearlier
    obtain rfl := List.mem_singleton.mp hearlier
    exact ⟨.long 1, by decide⟩

end Memory

end FilterQuery
