import FilterQuery.Overrides
import FilterQuery.Proofs.Engine.Outcome

/-!
# Registration

A registry takes in one override after the other and refuses one whose field it has already. So what
has been built holds the overrides so far, in their order, and nothing else (`foldlM_insert_eq_ok`):
none is ever put in the place of another. Since the fields of a registry are pairwise distinct, a
list is taken in to its end if and only if its fields are (`exists_ofList_eq_ok`), and then a field
gets the one override that declares it (`get?_eq_some`).

A list that is not taken in to its end is refused at its first override whose field an earlier one
has declared (`FirstRepeated`), however many more fields are repeated after it (`ofList_eq_error`).
-/

namespace FilterQuery

namespace Overrides

variable {F : Type} {o built : Overrides F} {overrides : List (Override F)} {p new : Override F}
  {field : String} {e : FilterError}

/-- A registry is what it holds. -/
theorem eq_of_entries {o' : Overrides F} (h : o.entries = o'.entries) : o = o' := by
  cases o
  cases o'
  cases h
  rfl

/-- The first overrides of a registry are a registry. -/
theorem exists_entries_eq {before after : List (Override F)}
    (h : o.entries = before ++ after) : ∃ o' : Overrides F, o'.entries = before := by
  have hnodup := o.nodup
  rw [h, List.map_append, List.nodup_append] at hnodup
  exact ⟨⟨before, hnodup.1⟩, rfl⟩

/-- No override of a registry has the field of an earlier one. -/
theorem not_mem_of_entries {before after : List (Override F)}
    (h : o.entries = before ++ p :: after) : p.field ∉ before.map (·.field) := by
  have hnodup := o.nodup
  rw [h, List.map_append, List.nodup_append] at hnodup
  intro hmem
  exact hnodup.2.2 p.field hmem p.field (by simp) rfl

/-! ### Lookups -/

/-- **A field gets the one override that declares it.** -/
theorem get?_eq_some : o.get? field = some p ↔ p ∈ o.entries ∧ p.field = field := by
  constructor
  · intro h
    exact ⟨List.mem_of_find?_eq_some h, by simpa using List.find?_some h⟩
  · rintro ⟨hp, rfl⟩
    obtain ⟨before, after, h⟩ := List.append_of_mem hp
    refine List.find?_eq_some_iff_append.mpr ⟨by simp, before, after, h, fun q hq => ?_⟩
    -- an earlier one that was found in its place would have the same field
    have hfield : q.field ≠ p.field := by
      intro hfield
      exact not_mem_of_entries h (hfield ▸ List.mem_map_of_mem hq)
    simpa using hfield

theorem get?_eq_none : o.get? field = none ↔ field ∉ o.fields := by
  simp [get?, fields]

/-! ### Registries that are built -/

theorem insert_eq_ok : o.insert new = .ok built ↔ built.entries = o.entries ++ [new] := by
  unfold insert
  by_cases hnew : new.field ∈ o.fields
  · rw [dif_pos hnew]
    constructor
    · exact fun h => nomatch h
    · exact fun h => absurd hnew (not_mem_of_entries h)
  · rw [dif_neg hnew]
    constructor
    · rintro ⟨⟩
      rfl
    · exact fun h => congrArg Except.ok (eq_of_entries h.symm)

/-- **What has been built holds what was there and the overrides taken in since.** -/
theorem foldlM_insert_eq_ok :
    overrides.foldlM insert o = .ok built ↔ built.entries = o.entries ++ overrides := by
  induction overrides generalizing o with
  | nil =>
    rw [List.append_nil]
    constructor
    · rintro ⟨⟩
      rfl
    · exact fun h => congrArg Except.ok (eq_of_entries h.symm)
  | cons new overrides ih =>
    rw [List.foldlM_cons, bind_eq_ok, ← List.singleton_append, ← List.append_assoc]
    constructor
    · rintro ⟨next, hnext, hbuilt⟩
      rw [ih.mp hbuilt, insert_eq_ok.mp hnext]
    · intro hbuilt
      obtain ⟨next, hnext⟩ := exists_entries_eq hbuilt
      exact ⟨next, insert_eq_ok.mpr hnext, ih.mpr (hnext ▸ hbuilt)⟩

theorem ofList_eq_ok : ofList overrides = .ok built ↔ built.entries = overrides :=
  foldlM_insert_eq_ok

/-- **A registry is built if and only if the fields are pairwise distinct.** -/
theorem exists_ofList_eq_ok :
    (∃ built, ofList overrides = .ok built) ↔ (overrides.map (·.field)).Nodup := by
  simp only [ofList_eq_ok]
  constructor
  · rintro ⟨built, rfl⟩
    exact built.nodup
  · exact fun hnodup => ⟨⟨overrides, hnodup⟩, rfl⟩

/-! ### Lists that are refused -/

/-- An override is the first of a list whose field an earlier one has declared. -/
def FirstRepeated (overrides : List (Override F)) (p : Override F) : Prop :=
  ∃ before after, overrides = before ++ p :: after ∧ p.field ∈ before.map (·.field) ∧
    ∀ earlier q later, before = earlier ++ q :: later → q.field ∉ earlier.map (·.field)

theorem insert_eq_error :
    o.insert new = .error e ↔ new.field ∈ o.fields ∧ e = .duplicateOverride new.field := by
  unfold insert
  by_cases hnew : new.field ∈ o.fields
  · simp [hnew, eq_comm]
  · simp [hnew]

/-- A list that is refused has an override whose field an earlier one has declared. -/
theorem exists_firstRepeated (h : ofList overrides = .error e) :
    ∃ p, FirstRepeated overrides p ∧ e = .duplicateOverride p.field := by
  obtain ⟨before, p, after, o, hsplit, ho, hp⟩ := foldlM_eq_error_iff.mp h
  obtain rfl : o.entries = before := ofList_eq_ok.mp ho
  obtain ⟨hfield, he⟩ := insert_eq_error.mp hp
  exact ⟨p, ⟨o.entries, after, hsplit, hfield, fun _ _ _ => not_mem_of_entries⟩, he⟩

/-- **A list is refused at the first override whose field an earlier one has declared.** -/
theorem ofList_eq_error :
    ofList overrides = .error e ↔
      ∃ p, FirstRepeated overrides p ∧ e = .duplicateOverride p.field := by
  constructor
  · exact exists_firstRepeated
  · rintro ⟨p, ⟨before, after, hsplit, hfield, hbefore⟩, he⟩
    cases ho : ofList before with
    | error e' =>
      -- the overrides before would be refused at one that is repeated among them
      obtain ⟨q, ⟨earlier, later, hq, hmem, -⟩, -⟩ := exists_firstRepeated ho
      exact absurd hmem (hbefore earlier q later hq)
    | ok o =>
      obtain rfl := ofList_eq_ok.mp ho
      have hp : o.insert p = .error e := insert_eq_error.mpr ⟨hfield, he⟩
      exact foldlM_eq_error_iff.mpr ⟨o.entries, p, after, o, hsplit, ho, hp⟩

end Overrides

open Overrides (FirstRepeated)

/-- **A registry is built if and only if its fields are pairwise distinct.** It then has as many
overrides as the list, and for any field whatever the one override that declares it, or none if none
does. Otherwise the error names the field of the first override, in the order of the list, whose
field an earlier one has declared. -/
theorem registries_are_built_of_distinct_fields {F : Type} (overrides : List (Override F)) :
    ((∃ built, Overrides.ofList overrides = .ok built) ↔ (overrides.map (·.field)).Nodup) ∧
      (∀ built, Overrides.ofList overrides = .ok built →
        built.size = overrides.length ∧
        (∀ field p, built.get? field = some p ↔ p ∈ overrides ∧ p.field = field) ∧
        ∀ field, built.get? field = none ↔ ∀ p ∈ overrides, p.field ≠ field) ∧
      ∀ e, Overrides.ofList overrides = .error e ↔
        ∃ p, FirstRepeated overrides p ∧ e = .duplicateOverride p.field := by
  refine ⟨Overrides.exists_ofList_eq_ok, ?_, fun _ => Overrides.ofList_eq_error⟩
  intro built hbuilt
  obtain rfl := Overrides.ofList_eq_ok.mp hbuilt
  refine ⟨rfl, fun _ _ => Overrides.get?_eq_some, fun field => ?_⟩
  rw [Overrides.get?_eq_none]
  simp [Overrides.fields]

/-- Of two fields that are declared twice, the one whose second override comes first is named. -/
theorem registries_are_built_of_distinct_fields_beside_repeats :
    let constant (field text : String) : Override String := ⟨field, fun _ => .ok text⟩
    let x := constant "x" "first"
    let y := constant "y" "second"
    let x' := constant "x" "third"
    let y' := constant "y" "fourth"
    (∃ built, Overrides.ofList [x, y] = .ok built ∧ built.size = 2 ∧ built.get? "y" = some y ∧
        built.get? "z" = none) ∧
      Overrides.ofList [x, y, y', x'] = .error (.duplicateOverride "y") := by
  intro constant x y x' y'
  obtain ⟨hbuilds, hbuilt, -⟩ := registries_are_built_of_distinct_fields [x, y]
  obtain ⟨-, -, hrefused⟩ := registries_are_built_of_distinct_fields [x, y, y', x']
  obtain ⟨built, h⟩ := hbuilds.mpr (by decide)
  obtain ⟨hsize, hsome, hnone⟩ := hbuilt built h
  refine ⟨⟨built, h, hsize, (hsome "y" y).mpr ⟨by simp, rfl⟩, ?_⟩, ?_⟩
  · exact (hnone "z").mpr (by simp [x, y, constant])
  · let before : Overrides String := ⟨[x, y], by decide⟩
    have hbefore : ∀ earlier q later, [x, y] = earlier ++ q :: later →
        q.field ∉ earlier.map (·.field) :=
      fun _ _ _ => before.not_mem_of_entries
    exact (hrefused _).mpr ⟨y', ⟨[x, y], [x'], rfl, by decide, hbefore⟩, rfl⟩

end FilterQuery
