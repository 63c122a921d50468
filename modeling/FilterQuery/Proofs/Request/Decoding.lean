import FilterQuery.Proofs.Engine.Outcome
import FilterQuery.Proofs.Json.WellFormed
import FilterQuery.Request.Decode

/-!
# Where decoded data comes from

The readers of values, groups, lists and conditions call each other. What they return is traced back
to smaller pieces of the JSON that they read: a condition to a part of a part of its group
(`Group.exists_part_of_mem`), and a value to a part of its condition (`Param.exists_part_of_value`).
So what holds of decoded data is shown by induction on the JSON, without going through the readers
again.

A record is traced in the same way: what each of its fields keeps, given a part of the JSON, the
whole reader keeps (`Json.readRecord_preserves`).
-/

namespace FilterQuery

/-! ### Conditions and their groups -/

theorem Param.allOfJson_eq_mapM (items : List Json) : allOfJson items = items.mapM ofJson := by
  induction items with
  | nil => rfl
  | cons j rest ih =>
    rw [allOfJson, List.mapM_cons, ih]
    rfl

/-- Each condition of a list is read from one item. -/
theorem Param.exists_part_of_mem {j : Json} {ps : List Param} (h : listOfJson j = .ok ps)
    {p : Param} (hp : p ∈ ps) : ∃ i ∈ j.parts, ofJson i = .ok p := by
  cases j with
  | array items =>
    rw [listOfJson, allOfJson_eq_mapM] at h
    exact (mem_mapM h).mp hp
  | _ => cases h

theorem Group.exists_part_of_mem_ofItems {items : List Json} {g : Group}
    (h : ofItems items = .ok g) {p : Param} (hp : p ∈ g.params) :
    ∃ i ∈ items, ∃ k ∈ i.parts, Param.ofJson k = .ok p := by
  match items with
  | [] =>
    cases h
    cases hp
  | [i] =>
    obtain ⟨ps, hps, h⟩ := bind_eq_ok.mp h
    cases h
    exact ⟨i, by simp, Param.exists_part_of_mem hps hp⟩
  | [i, _] =>
    obtain ⟨ps, hps, h⟩ := bind_eq_ok.mp h
    obtain ⟨_, -, h⟩ := bind_eq_ok.mp h
    cases h
    exact ⟨i, by simp, Param.exists_part_of_mem hps hp⟩
  | _ :: _ :: _ :: _ =>
    obtain ⟨_, -, h⟩ := bind_eq_ok.mp h
    obtain ⟨_, -, h⟩ := bind_eq_ok.mp h
    cases h

theorem Group.exists_part_of_mem_ofMembers {members : List (String × Json)} {g g' : Group}
    (h : ofMembers members g = .ok g') {p : Param} (hp : p ∈ g'.params) :
    p ∈ g.params ∨ ∃ m ∈ members, ∃ k ∈ m.2.parts, Param.ofJson k = .ok p := by
  induction members generalizing g with
  | nil =>
    cases h
    exact .inl hp
  | cons m rest ih =>
    obtain ⟨name, j⟩ := m
    rw [ofMembers] at h
    split at h
    · obtain ⟨ps, hps, h⟩ := bind_eq_ok.mp h
      right
      rcases ih h with hnow | ⟨m, hm, hlater⟩
      · exact ⟨(name, j), by simp, Param.exists_part_of_mem hps hnow⟩
      · exact ⟨m, by simp [hm], hlater⟩
    · split at h
      · obtain ⟨_, -, h⟩ := bind_eq_ok.mp h
        rcases ih h with hbefore | ⟨m, hm, hlater⟩
        · exact .inl hbefore
        · exact .inr ⟨m, by simp [hm], hlater⟩
      · cases h

/-- **Each condition of a group is read from a part of a part.** -/
theorem Group.exists_part_of_mem {j : Json} {g : Group} (h : ofJson j = .ok g) {p : Param}
    (hp : p ∈ g.params) : ∃ i ∈ j.parts, ∃ k ∈ i.parts, Param.ofJson k = .ok p := by
  cases j with
  | array items => exact exists_part_of_mem_ofItems h hp
  | object members =>
    rcases exists_part_of_mem_ofMembers h hp with hdefault | ⟨m, hm, hpart⟩
    · cases hdefault
    · exact ⟨m.2, List.mem_map_of_mem hm, hpart⟩
  | _ => cases h

/-! ### Values and their conditions -/

theorem Param.exists_part_of_value_draftOfItems {items : List Json} {d : Param.Draft}
    (h : draftOfItems items = .ok d) {v : ParamValue} (hv : d.value = some v) :
    ∃ i ∈ items, (ParamValue.ofJson i).unlessNull = some v := by
  match items with
  | [] =>
    cases h
    cases hv
  | [_] =>
    obtain ⟨_, -, h⟩ := bind_eq_ok.mp h
    cases h
    cases hv
  | [_, value] =>
    obtain ⟨_, -, h⟩ := bind_eq_ok.mp h
    cases h
    exact ⟨value, by simp, hv⟩
  | [_, value, _] =>
    obtain ⟨_, -, h⟩ := bind_eq_ok.mp h
    obtain ⟨_, -, h⟩ := bind_eq_ok.mp h
    cases h
    exact ⟨value, by simp, hv⟩
  | _ :: _ :: _ :: _ :: _ =>
    obtain ⟨_, -, h⟩ := bind_eq_ok.mp h
    obtain ⟨_, -, h⟩ := bind_eq_ok.mp h
    cases h

theorem Param.exists_part_of_value_draftOfMembers {members : List (String × Json)}
    {d d' : Param.Draft} (h : draftOfMembers members d = .ok d') {v : ParamValue}
    (hv : d'.value = some v) :
    d.value = some v ∨ ∃ m ∈ members, (ParamValue.ofJson m.2).unlessNull = some v := by
  induction members generalizing d with
  | nil =>
    cases h
    exact .inl hv
  | cons m rest ih =>
    obtain ⟨name, j⟩ := m
    have hlater : ∀ {d}, draftOfMembers rest d = .ok d' → d.value = some v ∨
        ∃ m ∈ (name, j) :: rest, (ParamValue.ofJson m.2).unlessNull = some v := by
      intro d h
      rcases ih h with hbefore | ⟨m, hm, hvalue⟩
      · exact .inl hbefore
      · exact .inr ⟨m, by simp [hm], hvalue⟩
    rw [draftOfMembers] at h
    split at h
    · obtain ⟨_, -, h⟩ := bind_eq_ok.mp h
      -- the draft that the rest is read into still has the value of `d`
      have hrest := hlater h
      exact hrest
    · split at h
      · rcases hlater h with hnow | hrest
        · exact .inr ⟨(name, j), by simp, hnow⟩
        · exact .inr hrest
      · split at h
        · obtain ⟨_, -, h⟩ := bind_eq_ok.mp h
          have hrest := hlater h
          exact hrest
        · exact hlater h

theorem Param.value_of_finish {j : Json} {d : Param.Draft} {p : Param}
    (h : d.finish j = .ok p) : d.value = p.value := by
  unfold Param.Draft.finish at h
  split at h
  · cases h
    rfl
  · cases h

/-- **The value of a condition is read from a part**, which is not `null`. -/
theorem Param.exists_part_of_value {j : Json} {p : Param} (h : ofJson j = .ok p) {v : ParamValue}
    (hv : p.value = some v) : ∃ i ∈ j.parts, (ParamValue.ofJson i).unlessNull = some v := by
  cases j with
  | array items =>
    obtain ⟨d, hd, h⟩ := bind_eq_ok.mp h
    rw [← value_of_finish h] at hv
    exact exists_part_of_value_draftOfItems hd hv
  | object members =>
    obtain ⟨d, hd, h⟩ := bind_eq_ok.mp h
    rw [← value_of_finish h] at hv
    rcases exists_part_of_value_draftOfMembers hd hv with hdefault | ⟨m, hm, hvalue⟩
    · cases hdefault
    · exact ⟨m.2, List.mem_map_of_mem hm, hvalue⟩
  | _ => cases h

/-- A value is a group if its JSON can be read as one. -/
theorem ParamValue.ofJson_of_group {j : Json} {g : Group} (h : Group.ofJson j = .ok g) :
    ofJson j = .group g := by
  cases j with
  | array items =>
    rw [Group.ofJson] at h
    rw [ofJson, h]
  | object members =>
    rw [Group.ofJson] at h
    rw [ofJson, h]
  | _ => cases h

/-! ### Records -/

namespace Json

variable {σ : Type} {Kept : σ → Prop}

theorem readElements_preserves {length : Nat} {fields : List (Field σ)} {items : List Json}
    (hput : ∀ field ∈ fields, ∀ j ∈ items, ∀ s s', Kept s → field.put s j = .ok s' → Kept s')
    {record s : σ} (hrecord : Kept record)
    (h : readElements length fields record items = .ok s) : Kept s := by
  induction items generalizing fields record with
  | nil =>
    have heq : record = s := by
      cases fields <;> exact Except.ok.inj h
    exact heq ▸ hrecord
  | cons j rest ih =>
    cases fields with
    | nil => cases h
    | cons field fields =>
      obtain ⟨record', hrecord', h⟩ := bind_eq_ok.mp h
      refine ih ?_ (hput field (by simp) j (by simp) record record' hrecord hrecord') h
      intro field hfield i hi
      exact hput field (by simp [hfield]) i (by simp [hi])

theorem readMembers_preserves {fields : List (Field σ)} {members : List (String × Json)}
    (hput : ∀ field ∈ fields, ∀ m ∈ members, ∀ s s', Kept s → field.put s m.2 = .ok s' → Kept s')
    {record s : σ} (hrecord : Kept record) (h : readMembers fields record members = .ok s) :
    Kept s := by
  induction members generalizing record with
  | nil => exact Except.ok.inj h ▸ hrecord
  | cons m rest ih =>
    obtain ⟨name, j⟩ := m
    have hrest : ∀ field ∈ fields, ∀ m ∈ rest, ∀ s s', Kept s → field.put s m.2 = .ok s' → Kept s' :=
      fun field hfield m hm => hput field hfield m (by simp [hm])
    rw [readMembers] at h
    split at h
    · next field hfound =>
      obtain ⟨record', hrecord', h⟩ := bind_eq_ok.mp h
      have hfield := List.mem_of_find?_eq_some hfound
      exact ih hrest (hput field hfield (name, j) (by simp) record record' hrecord hrecord') h
    · exact ih hrest hrecord h

/-- **What every field keeps, the reader of the record keeps.** -/
theorem readRecord_preserves {name : String} {fields : List (Field σ)} {j : Json}
    (hput : ∀ field ∈ fields, ∀ i ∈ j.parts, ∀ s s', Kept s → field.put s i = .ok s' → Kept s')
    {record s : σ} (hrecord : Kept record) (h : readRecord name fields record j = .ok s) :
    Kept s := by
  cases j with
  | array items => exact readElements_preserves hput hrecord h
  | object members =>
    refine readMembers_preserves ?_ hrecord h
    intro field hfield m hm
    exact hput field hfield m.2 (List.mem_map_of_mem hm)
  | _ => cases h

end Json

end FilterQuery
