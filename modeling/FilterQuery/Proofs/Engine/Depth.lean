import FilterQuery.Engine
import FilterQuery.Proofs.Request.Decoding

/-!
# How deep groups stand inside each other

A nested parameter has a group inside, whose parameters may be nested in turn (`Engine.inner?`), and
is one level deeper than the deepest of them (`Engine.nestingDepth`). Paging parameters, overridden
ones and flat ones have depth zero, whatever their values: planning never looks into these.

A group that is still raw JSON counts once it is decoded. So the depth is found by recursion on a
height that decoding does not raise (`Group.height_le_sizeOf`), rather than on the parameter itself.
-/

namespace FilterQuery

/-! ### Heights -/

mutual

/-- How high groups are stacked in a value. Raw JSON may turn out to be a group. -/
noncomputable def ParamValue.height : ParamValue → Nat
  | .group g => g.height
  | .structured j => sizeOf j
  | _ => 0

/-- How high groups are stacked in a parameter. -/
noncomputable def Param.height : Param → Nat
  | ⟨_, none, _⟩ => 0
  | ⟨_, some v, _⟩ => v.height

/-- How high groups are stacked in a group, which counts itself. -/
noncomputable def Group.height : Group → Nat
  | ⟨params, _⟩ => Param.heights params + 1

/-- The greatest height in a list. -/
noncomputable def Param.heights : List Param → Nat
  | [] => 0
  | p :: ps => max p.height (Param.heights ps)

end

theorem Param.height_eq {p : Param} {v : ParamValue} (hv : p.value = some v) :
    p.height = v.height := by
  obtain ⟨name, value, operation⟩ := p
  obtain rfl : value = some v := hv
  rw [height]

theorem Param.heights_lt {ps : List Param} {n : Nat} (hn : 0 < n) (h : ∀ p ∈ ps, p.height < n) :
    heights ps < n := by
  induction ps with
  | nil => exact hn
  | cons p ps ih =>
    obtain ⟨hp, hps⟩ := List.forall_mem_cons.mp h
    rw [heights]
    exact Nat.max_lt.mpr ⟨hp, ih hps⟩

theorem Param.height_le_heights {ps : List Param} {p : Param} (hp : p ∈ ps) :
    p.height ≤ heights ps := by
  induction ps with
  | nil => cases hp
  | cons q ps ih =>
    rw [heights]
    rcases List.mem_cons.mp hp with rfl | hp
    · exact Nat.le_max_left ..
    · exact Nat.le_trans (ih hp) (Nat.le_max_right ..)

theorem Param.height_lt_of_mem {g : Group} {p : Param} (hp : p ∈ g.params) :
    p.height < g.height := by
  obtain ⟨params, glue⟩ := g
  rw [Group.height]
  exact Nat.lt_succ_of_le (height_le_heights hp)

theorem Json.sizeOf_pos (j : Json) : 0 < sizeOf j := by
  cases j <;> simp only [null.sizeOf_spec, bool.sizeOf_spec, integer.sizeOf_spec,
    float.sizeOf_spec, string.sizeOf_spec, array.sizeOf_spec, object.sizeOf_spec] <;> omega

/-- A value that is read is a group, or raw JSON, or nothing in which a group could stand. -/
theorem ParamValue.ofJson_cases {j : Json} {v : ParamValue} (h : (ofJson j).unlessNull = some v) :
    (∃ g, v = .group g ∧ Group.ofJson j = .ok g) ∨ v = .structured j ∨ v.height = 0 := by
  cases j with
  | null => cases h
  | bool _ | float _ | string _ =>
    cases h
    exact .inr (.inr (by simp only [ofJson, height]))
  | integer i =>
    rw [ofJson] at h
    split at h
    · cases h
      exact .inr (.inr (by simp only [height]))
    · cases h
      exact .inr (.inr (by simp only [height]))
  | array items =>
    rw [ofJson] at h
    split at h
    · next g hg =>
      cases h
      exact .inl ⟨g, rfl, hg⟩
    · cases h
      exact .inr (.inl rfl)
  | object members =>
    rw [ofJson] at h
    split at h
    · next g hg =>
      cases h
      exact .inl ⟨g, rfl, hg⟩
    · cases h
      exact .inr (.inl rfl)

/-- **Decoding does not raise the height.** -/
theorem Group.height_le_sizeOf {j : Json} {g : Group} (h : ofJson j = .ok g) :
    g.height ≤ sizeOf j := by
  induction hsize : sizeOf j using Nat.strongRecOn generalizing j g with
  | ind size ih =>
    have hparams : ∀ p ∈ g.params, p.height < size := by
      intro p hp
      obtain ⟨i, hi, k, hk, hparam⟩ := exists_part_of_mem h hp
      have hik : sizeOf i < size ∧ sizeOf k < size := by
        have hil := Json.sizeOf_lt_of_mem_parts hi
        have hkl := Json.sizeOf_lt_of_mem_parts hk
        omega
      cases hv : p.value with
      | none =>
        obtain ⟨name, value, operation⟩ := p
        obtain rfl : value = none := hv
        rw [Param.height]
        omega
      | some v =>
        obtain ⟨l, hl, hvalue⟩ := Param.exists_part_of_value hparam hv
        have hlk := Json.sizeOf_lt_of_mem_parts hl
        rw [Param.height_eq hv]
        rcases ParamValue.ofJson_cases hvalue with ⟨inner, rfl, hinner⟩ | rfl | hflat
        · rw [ParamValue.height]
          have hinside := ih (sizeOf l) (by omega) hinner rfl
          omega
        · rw [ParamValue.height]
          omega
        · rw [hflat]
          omega
    obtain ⟨params, glue⟩ := g
    rw [height]
    have hpos : 0 < size := hsize ▸ Json.sizeOf_pos j
    exact Param.heights_lt hpos hparams

namespace Engine

variable {F : Type}

theorem height_lt_of_nestedGroup {operation : NestedOperation} {p : Param} {g : Group}
    (h : nestedGroup operation p = .ok g) {q : Param} (hq : q ∈ g.params) :
    q.height < p.height := by
  unfold nestedGroup at h
  split at h
  · cases h
    cases hq
  · split at h
    · next v hv =>
      have hgroup : v.asGroup = .ok g := mapError_eq_ok.mp h
      have hqg := Param.height_lt_of_mem hq
      rw [Param.height_eq hv]
      cases v with
      | group g' =>
        cases hgroup
        rwa [ParamValue.height]
      | structured j =>
        have hread : Group.ofJson j = .ok g := mapError_eq_ok.mp hgroup
        rw [ParamValue.height]
        exact Nat.lt_of_lt_of_le hqg (Group.height_le_sizeOf hread)
      | _ => cases hgroup
    · cases h

/-! ### Depths -/

/-- The conditions inside a parameter that is planned as a nested one. The test for null has none
inside, nor has a value that is no group. -/
def inner? (e : Engine F) (p : Param) : Option (List Param) :=
  if p.paging?.isSome ∨ (e.overrides.get? p.name).isSome then none
  else
    (e.config.stripMarker? p.code).map fun code =>
      match NestedOperation.ofCode code >>= (nestedGroup · p) with
      | .ok g => g.params
      | .error _ => []

theorem height_lt_of_inner? {e : Engine F} {p q : Param} {ps : List Param}
    (h : e.inner? p = some ps) (hq : q ∈ ps) : q.height < p.height := by
  unfold inner? at h
  split at h
  · cases h
  · obtain ⟨code, -, rfl⟩ := Option.map_eq_some_iff.mp h
    split at hq
    · next g hg =>
      obtain ⟨operation, -, hg⟩ := bind_eq_ok.mp hg
      exact height_lt_of_nestedGroup hg hq
    · cases hq

/-- How deep groups stand inside each other in a parameter, as planning goes into them. -/
def nestingDepth (e : Engine F) (p : Param) : Nat :=
  match h : e.inner? p with
  | none => 0
  | some ps => (ps.attach.map fun q => e.nestingDepth q.1).foldr max 0 + 1
termination_by p.height
decreasing_by exact height_lt_of_inner? h q.2

theorem nestingDepth_of_none {e : Engine F} {p : Param} (h : e.inner? p = none) :
    e.nestingDepth p = 0 := by
  rw [nestingDepth]
  split
  · rfl
  · next ps hps => cases h.symm.trans hps

theorem nestingDepth_of_some {e : Engine F} {p : Param} {ps : List Param}
    (h : e.inner? p = some ps) :
    e.nestingDepth p = (ps.map e.nestingDepth).foldr max 0 + 1 := by
  rw [nestingDepth]
  split
  · next hnone => cases h.symm.trans hnone
  · next qs hqs =>
    obtain rfl : ps = qs := Option.some.inj (h.symm.trans hqs)
    rw [List.attach_map_val]

theorem nestingDepth_pos {e : Engine F} {p : Param} {ps : List Param} (h : e.inner? p = some ps) :
    0 < e.nestingDepth p := by
  rw [nestingDepth_of_some h]
  exact Nat.succ_pos _

theorem foldr_max_le {ns : List Nat} {n : Nat} : ns.foldr max 0 ≤ n ↔ ∀ k ∈ ns, k ≤ n := by
  induction ns with
  | nil => simp
  | cons k ns ih => rw [List.foldr_cons, Nat.max_le, ih, List.forall_mem_cons]

theorem nestingDepth_le_succ {e : Engine F} {p : Param} {ps : List Param}
    (h : e.inner? p = some ps) {n : Nat} :
    e.nestingDepth p ≤ n + 1 ↔ ∀ q ∈ ps, e.nestingDepth q ≤ n := by
  rw [nestingDepth_of_some h, Nat.succ_le_succ_iff, foldr_max_le, List.forall_mem_map]

/-- Planning the first parameter comes upon the second: it is the same one, or stands inside, at any
depth. -/
inductive Reaches (e : Engine F) (p : Param) : Param → Prop
  | refl : Reaches e p p
  | inside {q r : Param} {qs : List Param} :
    Reaches e p q → e.inner? q = some qs → r ∈ qs → Reaches e p r

theorem Reaches.head {e : Engine F} {p q r : Param} {ps : List Param}
    (hinner : e.inner? p = some ps) (hq : q ∈ ps) (h : e.Reaches q r) : e.Reaches p r := by
  induction h with
  | refl => exact .inside .refl hinner hq
  | inside _ hinner hr ih => exact .inside ih hinner hr

end Engine

end FilterQuery
