import FilterQuery.Proofs.Engine.Composition
import FilterQuery.Proofs.Engine.Requests

/-!
# Groups and flat lists

A flat request is a grouped one with a single group, whatever the glue outside: with nothing to join,
that glue is not used (`planFlat_eq_planGrouped`).

Several groups under one glue, the same inside and outside, are one list: joining is associative
(`Glue.join_flatten`), and the lists are worked through in the same order, so that the first error is
the same too (`mapM_flatMap`). A group of paging parameters alone is the exception. It holds on
every row, and under `or` it would take all rows in, while in the list it counts for nothing.
-/

namespace FilterQuery

open Memory (Predicate)

/-! ### One group -/

namespace Engine

theorem planFlat_eq_planGrouped {F : Type} (e : Engine F) (allowed : List String)
    (params : List Param) (glue outer : Glue) (page : Option PageAttribute) :
    e.planFlat allowed ⟨params, glue, page⟩ =
      e.planGrouped allowed ⟨[⟨params, glue⟩], outer, page⟩ := by
  have hand : e.planFlat allowed ⟨params, glue, page⟩ =
      e.planGrouped allowed ⟨[⟨params, glue⟩], .and, page⟩ :=
    e.plan_eq_planGrouped allowed (.flat ⟨params, glue, page⟩)
  rw [hand, planGrouped_eq, planGrouped_eq, filterGroups_one, filterGroups_one]
  rfl

end Engine

/-! ### Several groups -/

/-- **Joining is associative**, if there is something to join in each part. -/
theorem Glue.join_flatten {glue : Glue} {bss : List (List Bool)} (h : ∀ bs ∈ bss, bs ≠ []) :
    glue.join (bss.map glue.join) = glue.join bss.flatten := by
  rw [Bool.eq_iff_iff, join_eq_true, join_eq_true]
  have hempty : bss.map glue.join = [] ↔ bss.flatten = [] := by
    rw [List.map_eq_nil_iff, List.flatten_eq_nil_iff]
    constructor
    · rintro rfl bs hbs
      cases hbs
    · intro hnil
      by_contra hne
      obtain ⟨bs, hbs⟩ := List.exists_mem_of_ne_nil bss hne
      exact h bs hbs (hnil bs hbs)
  have heach : ∀ bs ∈ bss, (glue.join bs = true ↔
      (glue = .and ∧ ∀ b ∈ bs, b = true) ∨ (glue = .or ∧ ∃ b ∈ bs, b = true)) := by
    intro bs hbs
    rw [join_eq_true, or_iff_right (h bs hbs)]
  have hall : glue = .and → ((∀ b ∈ bss.map glue.join, b = true) ↔
      ∀ b ∈ bss.flatten, b = true) := by
    rintro rfl
    rw [List.forall_mem_map, List.forall_mem_flatten]
    refine forall₂_congr fun bs hbs => ?_
    simp [heach bs hbs]
  have hany : glue = .or → ((∃ b ∈ bss.map glue.join, b = true) ↔
      ∃ b ∈ bss.flatten, b = true) := by
    rintro rfl
    constructor
    · rintro ⟨_, hb, hbs⟩
      obtain ⟨bs, hmem, rfl⟩ := List.mem_map.mp hb
      obtain ⟨b, hb, htrue⟩ : ∃ b ∈ bs, b = true := by simpa using (heach bs hmem).mp hbs
      exact ⟨b, List.mem_flatten.mpr ⟨bs, hmem, hb⟩, htrue⟩
    · rintro ⟨b, hb, htrue⟩
      obtain ⟨bs, hmem, hb⟩ := List.mem_flatten.mp hb
      exact ⟨_, List.mem_map_of_mem hmem, (heach bs hmem).mpr (.inr ⟨rfl, b, hb, htrue⟩)⟩
  rw [hempty, and_congr_right hall, and_congr_right hany]

variable {config : Config} {overrides : Overrides Predicate}

/-- What a group of parameters is built to, some of which has a fragment. -/
theorem exists_fragment_of_mapM {plan : Option (Group → Except FilterError Predicate)}
    {ps : List Param} {fs : List (Option Predicate)}
    (hfs : ps.mapM ((memoryEngine config overrides).planParam plan) = .ok fs)
    (h : ∃ p ∈ ps, p.paging? = none) : fs.filterMap id ≠ [] := by
  obtain ⟨p, hp, hpaging⟩ := h
  obtain ⟨f, hf⟩ := exists_mapM_eq_ok.mp ⟨fs, hfs⟩ p hp
  have hmem : f ∈ fs := (mem_mapM hfs).mpr ⟨p, hp, hf⟩
  cases f with
  | none => exact absurd hpaging (Engine.planParam_eq_none.mp hf)
  | some m =>
    apply List.ne_nil_of_mem
    exact List.mem_filterMap.mpr ⟨some m, hmem, rfl⟩

/-- The fragments of several lists hold together as those of one list. -/
theorem sameRows_flatten (glue : Glue) {fss : List (List (Option Predicate))}
    (h : ∀ fs ∈ fss, fs.filterMap id ≠ []) :
    SameRows
      (Predicate.backend.combine glue
        (fss.map fun fs => Predicate.backend.combine glue (fs.filterMap id)))
      (Predicate.backend.combine glue (fss.flatten.filterMap id)) := by
  intro rows row
  let answers (fs : List (Option Predicate)) : List Bool :=
    (fs.filterMap id).map fun m => m.holds rows row
  have hparts : (fss.map fun fs => Predicate.backend.combine glue (fs.filterMap id)).map
      (fun m => m.holds rows row) = (fss.map answers).map glue.join := by
    rw [List.map_map, List.map_map]
    apply List.map_congr_left
    intro fs _
    exact Memory.holds_combine glue (fs.filterMap id) rows row
  have hwhole : (fss.flatten.filterMap id).map (fun m => m.holds rows row) =
      (fss.map answers).flatten := by
    rw [List.filterMap_flatten, List.map_flatten, List.map_map]
    rfl
  rw [Memory.holds_combine, Memory.holds_combine, hparts, hwhole]
  apply Glue.join_flatten
  intro bs hbs
  obtain ⟨fs, hfs, rfl⟩ := List.mem_map.mp hbs
  exact fun hnil => h fs hfs (List.map_eq_nil_iff.mp hnil)

/-- **Groups under one glue are one list.** -/
theorem filterGroups_alike_filterParams {groups : List Group} {glue : Glue}
    (hglue : ∀ g ∈ groups, g.glue = glue)
    (hcounts : ∀ g ∈ groups, ∃ p ∈ g.params, p.paging? = none) :
    Alike Eq SameRows ((memoryEngine config overrides).filterGroups groups glue)
      ((memoryEngine config overrides).filterParams (groups.flatMap Group.params) glue) := by
  let step := (memoryEngine config overrides).planParam
    ((memoryEngine config overrides).inside config.maxNestingDepth)
  have hgroups : (memoryEngine config overrides).filterGroups groups glue =
      (groups.mapM fun g : Group => g.params.mapM step).map fun fss =>
        Predicate.backend.combine glue
          (fss.map fun fs => Predicate.backend.combine glue (fs.filterMap id)) := by
    have heach : ∀ g ∈ groups, (memoryEngine config overrides).filterGroup g =
        (g.params.mapM step).map fun fs => Predicate.backend.combine glue (fs.filterMap id) := by
      rintro ⟨params, _⟩ hg
      obtain rfl := hglue _ hg
      exact filterParams_eq_joinParts config overrides params _
    unfold Engine.filterGroups
    rw [mapM_congr heach, mapM_map_each]
    cases groups.mapM fun g : Group => g.params.mapM step <;> rfl
  have hflat : (memoryEngine config overrides).filterParams (groups.flatMap Group.params) glue =
      (groups.mapM fun g : Group => g.params.mapM step).map fun fss =>
        Predicate.backend.combine glue (fss.flatten.filterMap id) := by
    rw [filterParams_eq_joinParts, joinParts, mapM_flatMap]
    cases groups.mapM fun g : Group => g.params.mapM step <;> rfl
  rw [hgroups, hflat]
  cases hfss : groups.mapM fun g : Group => g.params.mapM step with
  | error e => exact .error rfl
  | ok fss =>
    apply Alike.ok
    apply sameRows_flatten
    intro fs hfs
    obtain ⟨g, hg, hplan⟩ := (mem_mapM hfss).mp hfs
    exact exists_fragment_of_mapM hplan (hcounts g hg)

/-- **Flat and grouped requests are interchangeable.** A list of parameters is planned as a single
group of them, under whatever glue outside. In memory, groups under the same glue inside and outside
are built as one list of their parameters, if each has one that is not about the page: to filters
that hold on the same rows, or to the same error. -/
theorem flat_and_grouped_interchange :
    (∀ {F : Type} (e : Engine F) (allowed : List String) (params : List Param) (glue outer : Glue)
        (page : Option PageAttribute),
      e.planFlat allowed ⟨params, glue, page⟩ =
        e.planGrouped allowed ⟨[⟨params, glue⟩], outer, page⟩) ∧
      ∀ (config : Config) (overrides : Overrides Predicate) (groups : List Group) (glue : Glue),
        (∀ g ∈ groups, g.glue = glue) → (∀ g ∈ groups, ∃ p ∈ g.params, p.paging? = none) →
        Alike Eq SameRows ((memoryEngine config overrides).filterGroups groups glue)
          ((memoryEngine config overrides).filterParams (groups.flatMap Group.params) glue) := by
  constructor
  · intro F e allowed params glue outer page
    exact e.planFlat_eq_planGrouped allowed params glue outer page
  · intro config overrides groups glue hglue hcounts
    exact filterGroups_alike_filterParams hglue hcounts

/-- Two groups under `or`, one with a paging parameter, and the list of them. -/
theorem flat_and_grouped_interchange_under_or :
    let e := memoryEngine {} {}
    let isOne := Param.withCode "a" "eq" (.integer 1)
    let isTwo := Param.withCode "b" "eq" (.integer 2)
    let isNull := Param.bare "c" "isNull"
    let first := Param.withCode "" "limit" (.integer 3)
    let one : Predicate := .condition (.compare "a" .equal (.long 1))
    let two : Predicate := .condition (.compare "b" .equal (.long 2))
    let null : Predicate := .condition (.isNull "c")
    e.filterGroups [⟨[isOne, isTwo], .or⟩, ⟨[first, isNull], .or⟩] .or =
        .ok (.any [.any [one, two], null]) ∧
      e.filterParams [isOne, isTwo, first, isNull] .or = .ok (.any [one, two, null]) ∧
      SameRows (.any [.any [one, two], null]) (.any [one, two, null]) := by
  intro e isOne isTwo isNull first one two null
  have hgroups : e.filterGroups [⟨[isOne, isTwo], .or⟩, ⟨[first, isNull], .or⟩] .or =
      .ok (.any [.any [one, two], null]) := by
    unfold e isOne isTwo isNull first one two null
    rfl
  have hflat : e.filterParams [isOne, isTwo, first, isNull] .or = .ok (.any [one, two, null]) := by
    unfold e isOne isTwo isNull first one two null
    rfl
  have halike := flat_and_grouped_interchange.2 {} {}
    [⟨[isOne, isTwo], .or⟩, ⟨[first, isNull], .or⟩] .or (by simp)
    (by
      intro g hg
      rcases List.mem_cons.mp hg with rfl | hg
      · exact ⟨isOne, by simp, by unfold isOne; rfl⟩
      · obtain rfl := List.mem_singleton.mp hg
        exact ⟨isNull, by simp, by unfold isNull; rfl⟩)
  exact ⟨hgroups, hflat, halike.of_eq_ok hgroups hflat⟩

end FilterQuery
