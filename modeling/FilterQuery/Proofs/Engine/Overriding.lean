import FilterQuery.Proofs.Engine.Composition
import FilterQuery.Proofs.Engine.Requests
import FilterQuery.Proofs.Engine.Simulation
import FilterQuery.Proofs.Paging.Separation

/-!
# Overridden fields are left to the override

What a parameter on an overridden field comes to is what the override builds. Its code may name no
operation, or bear the mark of nesting before a value that is no group, or stand where no level of
nesting is left: none of that is looked at (`planGroup_insert_overridden`).

So such a parameter may be replaced by any other on the field of which the override builds the same,
at the top or in the groups inside, to any depth (`Replaced`). By induction on the replacements the
request is planned the same, or refused with the same error (`filter_of_replaced`). Flat parameters
on other fields are planned as if there were no overrides (`planParam_without_overrides`).
-/

namespace FilterQuery

variable {F : Type}

namespace Engine

variable {e : Engine F}

/-- **In its place in a group, an overridden parameter is what the override builds.** -/
theorem planGroup_insert_overridden {p : Param} {override : Override F} (hpaging : p.paging? = none)
    (hoverride : e.overrides.get? p.name = some override) (levels : Nat)
    (before after : List Param) (glue : Glue) :
    e.planGroup levels ⟨before ++ p :: after, glue⟩ = (do
      let fs ← before.mapM (e.planParam (e.inside levels))
      let f ← override.build p
      let gs ← after.mapM (e.planParam (e.inside levels))
      .ok (e.backend.combine glue (fs.filterMap id ++ f :: gs.filterMap id))) := by
  rw [planGroup_eq, planParams, List.mapM_append, List.mapM_cons,
    planParam_of_override hpaging hoverride]
  cases before.mapM (e.planParam (e.inside levels)) with
  | error error => rfl
  | ok fs =>
    cases override.build p with
    | error error => rfl
    | ok f =>
      cases after.mapM (e.planParam (e.inside levels)) with
      | error error => rfl
      | ok gs =>
        show Except.ok (e.backend.combine glue ((fs ++ some f :: gs).filterMap id)) = .ok _
        rw [List.filterMap_append]
        rfl

/-- **A flat parameter on another field is planned as if there were no overrides.** -/
theorem planParam_without_overrides {p : Param} (hoverride : e.overrides.get? p.name = none)
    (hcode : e.config.stripMarker? p.code = none)
    (plan plan' : Option (Group → Except FilterError F)) :
    e.planParam plan p = (Engine.plain e.backend e.config).planParam plan' p := by
  have hplain : (Engine.plain e.backend e.config).overrides.get? p.name = none := rfl
  have hcode' : (Engine.plain e.backend e.config).config.stripMarker? p.code = none := hcode
  unfold planParam
  rw [hoverride, hcode, hplain, hcode']
  rfl

end Engine

/-! ### Replacements -/

/-- The same parameters but for what overrides build alike, at any depth. -/
inductive Replaced (e : Engine F) : List Param → List Param → Prop
  | nil : Replaced e [] []
  | same {ps qs : List Param} (p : Param) : Replaced e ps qs → Replaced e (p :: ps) (p :: qs)
  /-- Another parameter of the field, of which the override builds the same. -/
  | override {p q : Param} {override : Override F} {ps qs : List Param} : q.name = p.name →
    e.overrides.get? p.name = some override → p.paging? = none → q.paging? = none →
    override.build p = override.build q → Replaced e ps qs → Replaced e (p :: ps) (q :: qs)
  /-- A nested parameter with replacements in its group. -/
  | inside {p : Param} {code : String} {v w : ParamValue} {g h : Group} {ps qs : List Param} :
    e.overrides.get? p.name = none → p.paging? = none →
    e.config.stripMarker? p.code = some code → p.value = some v → v.asGroup = .ok g →
    w.asGroup = .ok h → g.glue = h.glue → Replaced e g.params h.params → Replaced e ps qs →
    Replaced e (p :: ps) ({ p with value := some w } :: qs)

/-- The same group but for what overrides build alike. -/
def GroupReplaced (e : Engine F) (g h : Group) : Prop :=
  g.glue = h.glue ∧ Replaced e g.params h.params

/-- The same request but for what overrides build alike. -/
def RequestReplaced (e : Engine F) (r r' : Request) : Prop :=
  r.toGrouped.glue = r'.toGrouped.glue ∧ r.page = r'.page ∧
    List.Forall₂ (GroupReplaced e) r.toGrouped.groups r'.toGrouped.groups

namespace Engine

variable {e : Engine F}

theorem planGroup_congr {levels : Nat} {g h : Group} (hglue : g.glue = h.glue)
    (hparams : g.params.mapM (e.planParam (e.inside levels)) =
      h.params.mapM (e.planParam (e.inside levels))) :
    e.planGroup levels g = e.planGroup levels h := by
  rw [planGroup_eq, planGroup_eq, planParams, planParams, hparams, hglue]

/-- **At any depth, what is replaced does not show.** -/
theorem mapM_of_replaced {ps qs : List Param} (h : Replaced e ps qs) (levels : Nat) :
    ps.mapM (e.planParam (e.inside levels)) = qs.mapM (e.planParam (e.inside levels)) := by
  induction h generalizing levels with
  | nil => rfl
  | same p _ ih => rw [List.mapM_cons, List.mapM_cons, ih]
  | @override p q override ps qs hname hoverride hp hq hbuild _ ih =>
    have hoverride' : e.overrides.get? q.name = some override := by rw [hname, hoverride]
    rw [List.mapM_cons, List.mapM_cons, planParam_of_override hp hoverride,
      planParam_of_override hq hoverride', hbuild, ih]
  | @inside p code v w g h ps qs hoverride hpaging hcode hv hg hh hglue _ _ ihInside ih =>
    have hplan : ∀ plan ∈ e.inside levels, plan g = plan h := by
      intro plan hlevel
      cases levels with
      | zero => cases hlevel
      | succ levels =>
        obtain rfl : e.planGroup levels = plan := Option.some.inj hlevel
        exact planGroup_congr hglue (ihInside levels)
    have hparam : e.planParam (e.inside levels) p =
        e.planParam (e.inside levels) { p with value := some w } := by
      rw [planParam_of_nested hpaging hoverride hcode, ← planNested_congr hv hg hh hplan,
        planParam_of_nested (p := { p with value := some w }) hpaging hoverride hcode]
    rw [List.mapM_cons, List.mapM_cons, hparam, ih]

theorem filterGroup_of_replaced {g h : Group} (hgh : GroupReplaced e g h) :
    e.filterGroup g = e.filterGroup h :=
  planGroup_congr hgh.1 (mapM_of_replaced hgh.2 e.config.maxNestingDepth)

variable {r r' : Request}

/-- **What overrides build alike makes no difference to the filter.** -/
theorem filter_of_replaced (h : RequestReplaced e r r') : e.filter r = e.filter r' := by
  obtain ⟨hglue, -, hgroups⟩ := h
  have hfilters : r.toGrouped.groups.map e.filterGroup = r'.toGrouped.groups.map e.filterGroup := by
    rw [← List.forall₂_eq_eq_eq, List.forall₂_map_left_iff, List.forall₂_map_right_iff]
    exact hgroups.imp fun _ _ => filterGroup_of_replaced
  have heach (groups : List Group) :
      groups.mapM e.filterGroup = (groups.map e.filterGroup).mapM id := by
    rw [List.mapM_map]
    rfl
  rw [filter_eq_filterGroups, filter_eq_filterGroups, filterGroups, filterGroups, heach, hfilters,
    ← heach, hglue]

/-- Nothing that is about the page is replaced. -/
theorem pagingOf_of_replaced {ps qs : List Param} (h : Replaced e ps qs) :
    pagingOf ps = pagingOf qs := by
  have hskip (p : Param) (ps : List Param) (hp : p.paging? = none) :
      pagingOf (p :: ps) = pagingOf ps := List.filter_cons_of_neg (by simp [hp])
  induction h with
  | nil => rfl
  | same p _ ih =>
    unfold pagingOf at ih ⊢
    rw [List.filter_cons, List.filter_cons, ih]
  | override _ _ hp hq _ _ ih => rw [hskip _ _ hp, hskip _ _ hq, ih]
  | @inside p _ _ w _ _ _ _ _ hpaging _ _ _ _ _ _ _ _ ih =>
    rw [hskip p _ hpaging, hskip { p with value := some w } _ hpaging, ih]

theorem pagingLists_of_replaced (h : RequestReplaced e r r') : r.pagingLists = r'.pagingLists := by
  have hlists : (r.toGrouped.groups.map fun g => pagingOf g.params) =
      r'.toGrouped.groups.map fun g => pagingOf g.params := by
    rw [← List.forall₂_eq_eq_eq, List.forall₂_map_left_iff, List.forall₂_map_right_iff]
    exact h.2.2.imp fun _ _ hgh => pagingOf_of_replaced hgh.2
  rw [Request.pagingLists, Request.pagingLists, hlists]

theorem plan_of_replaced (h : RequestReplaced e r r') (allowed : List String) :
    e.plan allowed r = e.plan allowed r' := by
  rw [plan_eq_planGrouped, plan_eq_planGrouped, planGrouped_eq, planGrouped_eq,
    ← filter_eq_filterGroups, ← filter_eq_filterGroups, filter_of_replaced h,
    page_eq_of_pagingLists e.config allowed h.2.1 (pagingLists_of_replaced h)]

end Engine

/-- **Overridden fields are left to their overrides, at every depth.** A parameter on such a field,
unless it is about the page, is refused with the override's error and no other, however many levels
of nesting are left; and in a group that is planned, what the override builds stands in its place.
Requests that differ, at the top or inside nested parameters, only in parameters of which
overrides build alike have one filter and one plan, or one error in its place. And a parameter that
is not nested, on a field without override, is planned as if there were no overrides at all. -/
theorem overrides_are_used_exclusively (e : Engine F) (allowed : List String) :
    (∀ (p : Param) (override : Override F), p.paging? = none →
      e.overrides.get? p.name = some override → ∀ levels,
        (∀ error, e.planParam (e.inside levels) p = .error error ↔
          override.build p = .error error) ∧
        ∀ before after glue, e.planGroup levels ⟨before ++ p :: after, glue⟩ = (do
          let fs ← before.mapM (e.planParam (e.inside levels))
          let f ← override.build p
          let gs ← after.mapM (e.planParam (e.inside levels))
          .ok (e.backend.combine glue (fs.filterMap id ++ f :: gs.filterMap id)))) ∧
      (∀ r r', RequestReplaced e r r' →
        e.filter r = e.filter r' ∧ e.plan allowed r = e.plan allowed r') ∧
      ∀ p, e.overrides.get? p.name = none → e.config.stripMarker? p.code = none →
        let plain := Engine.plain e.backend e.config
        ∀ levels, e.planParam (e.inside levels) p = plain.planParam (plain.inside levels) p := by
  refine ⟨?_, ?_, ?_⟩
  · intro p override hpaging hoverride levels
    rw [Engine.planParam_of_override hpaging hoverride]
    exact ⟨fun _ => map_eq_error, Engine.planGroup_insert_overridden hpaging hoverride levels⟩
  · exact fun r r' h => ⟨Engine.filter_of_replaced h, Engine.plan_of_replaced h allowed⟩
  · intro p hoverride hcode plain levels
    exact Engine.planParam_without_overrides hoverride hcode _ _

open Memory (Predicate) in
/-- Inside a subquery, a code that names no operation and a nested code without a group, both on an
overridden field; beside it a flat parameter, and without a value the override's own error. -/
theorem overrides_are_used_exclusively_whatever_the_code :
    let status : Override Predicate := ⟨"status", fun p =>
      if p.value.isSome then .ok (.condition .nothing) else .error (.missingValue p.name)⟩
    let e : Engine Predicate := { backend := Predicate.backend, overrides := ⟨[status], by simp⟩ }
    let one := Param.equals "b" (.integer 1)
    let r (p : Param) : Request :=
      .flat ⟨[.withCode "a" "nst:in" (.group ⟨[p, one], .or⟩)], .and, none⟩
    let unknown := Param.withCode "status" "bogus" (.text "x")
    let nested := Param.withCode "status" "nst:eq" (.integer 7)
    let valueless := Param.bare "status" "bogus"
    let isOne : Predicate := .condition (.compare "b" .equal (.long 1))
    e.filter (r unknown) = .ok (.nested "a" (.member false) (.any [.condition .nothing, isOne])) ∧
      e.filter (r nested) = e.filter (r unknown) ∧
      e.planParam (e.inside 0) valueless = .error (.missingValue "status") ∧
      e.planParam (e.inside 0) one =
        (Engine.plain Predicate.backend {}).planParam none one := by
  intro status e one r unknown nested valueless isOne
  obtain ⟨hparam, hreplaced, hflat⟩ := overrides_are_used_exclusively e []
  have hstatus : e.overrides.get? "status" = some status := rfl
  have hunknown : unknown.paging? = none := by decide
  have hnested : nested.paging? = none := by decide
  have hinside : Replaced e [unknown, one] [nested, one] :=
    .override rfl hstatus hunknown hnested rfl (.same one .nil)
  have hcode : e.config.stripMarker? "nst:in" = some "in" := by decide
  have hr : RequestReplaced e (r unknown) (r nested) :=
    ⟨rfl, rfl, .cons ⟨rfl, .inside rfl (by decide) hcode rfl rfl rfl rfl hinside .nil⟩ .nil⟩
  have hfilter : e.filter (r unknown) =
      .ok (.nested "a" (.member false) (.any [.condition .nothing, isOne])) := by
    unfold r unknown one isOne e status
    rfl
  refine ⟨hfilter, (hreplaced _ _ hr).1.symm, ?_, ?_⟩
  · exact ((hparam valueless status (by decide) rfl 0).1 _).mpr rfl
  · exact hflat one rfl (by decide) 0

end FilterQuery
