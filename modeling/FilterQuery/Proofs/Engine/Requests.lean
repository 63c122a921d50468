import FilterQuery.Engine
import FilterQuery.Proofs.Engine.Outcome

/-!
# Requests of either form

A flat request is planned as the grouped request of its one list (`plan_eq_planGrouped`), so what is
shown of groups holds of requests of both forms. A plan is a filter and a page, and they are found
one after the other: where the filter fails, the page is not looked at (`planGrouped_eq`).

Each stage of planning then says what it is to succeed and what it is to fail: groups through their
parameters, a nested parameter through the group of its value.
-/

namespace FilterQuery

/-- The request as groups; a flat request has one. -/
def Request.toGrouped : Request → GroupedRequest
  | .flat r => ⟨[⟨r.params, r.glue⟩], .and, r.page⟩
  | .grouped r => r

/-- The parameters at the top of the request. -/
def Request.params (r : Request) : List Param :=
  r.toGrouped.groups.flatMap Group.params

/-- What the request itself says about its page. -/
def Request.page (r : Request) : Option PageAttribute :=
  r.toGrouped.page

theorem Request.mem_params {r : Request} {p : Param} :
    p ∈ r.params ↔ ∃ g ∈ r.toGrouped.groups, p ∈ g.params :=
  List.mem_flatMap

theorem PageAttribute.merge_none_left (a : Option PageAttribute) : merge none a = a := by
  cases a <;> rfl

theorem PageAttribute.ofGroups_singleton (g : Group) : ofGroups [g] = ofParams g.params := by
  show (ofParams g.params >>= fun a => Except.ok (merge none a)) >>= Except.ok = _
  simp only [merge_none_left]
  cases ofParams g.params <;> rfl

namespace Engine

variable {F : Type}

/-! ### Both forms -/

theorem filterGroups_one (e : Engine F) (g : Group) (glue : Glue) :
    e.filterGroups [g] glue = e.filterGroup g := by
  show (e.filterGroup g >>= fun f => Except.ok [f]) >>=
    (fun fs => Except.ok (e.backend.combine glue fs)) = _
  cases e.filterGroup g <;> rfl

theorem planGrouped_eq (e : Engine F) (allowed : List String) (r : GroupedRequest) :
    e.planGrouped allowed r =
      e.filterGroups r.groups r.glue >>= fun filter =>
        (Page.ofGrouped e.config allowed r).map fun page => ⟨filter, page⟩ :=
  rfl

theorem planGrouped_of_filterGroups {e : Engine F} {r : GroupedRequest} {f : F}
    (hf : e.filterGroups r.groups r.glue = .ok f) (allowed : List String) :
    e.planGrouped allowed r =
      (Page.ofGrouped e.config allowed r).map fun page => ⟨f, page⟩ := by
  rw [planGrouped_eq, hf]
  rfl

/-- **A flat request is planned as a grouped one.** -/
theorem plan_eq_planGrouped (e : Engine F) (allowed : List String) (r : Request) :
    e.plan allowed r = e.planGrouped allowed r.toGrouped := by
  cases r with
  | grouped r => rfl
  | flat r =>
    have hpage : Page.ofGrouped e.config allowed (Request.flat r).toGrouped =
        Page.ofFlat e.config allowed r := by
      unfold Page.ofGrouped Page.ofFlat Request.toGrouped
      rw [PageAttribute.ofGroups_singleton]
    unfold plan planFlat planGrouped
    rw [hpage, Request.toGrouped, filterGroups_one]
    rfl

/-- The filter of a request of either form. -/
def filter (e : Engine F) : Request → Except FilterError F
  | .flat r => e.filterParams r.params r.glue
  | .grouped r => e.filterGroups r.groups r.glue

theorem filter_eq_filterGroups (e : Engine F) (r : Request) :
    e.filter r = e.filterGroups r.toGrouped.groups r.toGrouped.glue := by
  cases r with
  | grouped r => rfl
  | flat r => exact (e.filterGroups_one ⟨r.params, r.glue⟩ .and).symm

/-- The page of a request whose filter is planned. -/
theorem plan_page {e : Engine F} {r : Request} {f : F} (hf : e.filter r = .ok f)
    (allowed : List String) :
    (e.plan allowed r).map (·.page) = Page.ofGrouped e.config allowed r.toGrouped := by
  rw [filter_eq_filterGroups] at hf
  rw [plan_eq_planGrouped, planGrouped_of_filterGroups hf]
  cases Page.ofGrouped e.config allowed r.toGrouped <;> rfl

/-! ### Success and failure, stage by stage -/

variable {e : Engine F}

theorem filterGroups_eq_ok {groups : List Group} {glue : Glue} {f : F} :
    e.filterGroups groups glue = .ok f ↔
      ∃ fs, groups.mapM e.filterGroup = .ok fs ∧ e.backend.combine glue fs = f := by
  unfold filterGroups
  simp [bind_eq_ok]

theorem filterGroups_eq_error {groups : List Group} {glue : Glue} {error : FilterError} :
    e.filterGroups groups glue = .error error ↔ groups.mapM e.filterGroup = .error error := by
  unfold filterGroups
  simp [bind_eq_error]

variable {plan : Option (Group → Except FilterError F)}

theorem planParams_eq_map (g : Group) :
    e.planParams plan g = ((g.params.mapM (e.planParam plan)).map (List.filterMap id)).map
      (e.backend.combine g.glue) := by
  unfold planParams
  cases g.params.mapM (e.planParam plan) <;> rfl

theorem planParams_eq_ok {g : Group} {f : F} :
    e.planParams plan g = .ok f ↔
      ∃ fs, g.params.mapM (e.planParam plan) = .ok fs ∧
        e.backend.combine g.glue (fs.filterMap id) = f := by
  unfold planParams
  simp [bind_eq_ok]

theorem planParams_eq_error {g : Group} {error : FilterError} :
    e.planParams plan g = .error error ↔ g.params.mapM (e.planParam plan) = .error error := by
  unfold planParams
  simp [bind_eq_error]

theorem planNested_of_error {p : Param} {code : String} {error : FilterError}
    (hoperation : NestedOperation.ofCode code = .error error) :
    e.planNested plan p code = .error error := by
  rw [planNested, hoperation]
  rfl

/-- Without a level left, a nested parameter that names an operation is too deep. -/
theorem planNested_none {p : Param} {code : String} {operation : NestedOperation}
    (hoperation : NestedOperation.ofCode code = .ok operation) :
    e.planNested none p code =
      .error (.nestingTooDeep (e.config.maxNestingDepth + 1) e.config.maxNestingDepth) := by
  rw [planNested, hoperation]
  rfl

/-- A nested parameter that names an operation is planned as its group is, and then compared. -/
theorem planNested_some {inner : Group → Except FilterError F} {p : Param} {code : String}
    {operation : NestedOperation} (hoperation : NestedOperation.ofCode code = .ok operation)
    {group : Group} (hgroup : nestedGroup operation p = .ok group) :
    e.planNested (some inner) p code =
      inner group >>= e.backend.nested p.name operation := by
  unfold planNested
  rw [hoperation]
  show (nestedGroup operation p >>= fun group => inner group >>= _) = _
  rw [hgroup]
  rfl

/-- The group inside a nested parameter; the test for null does not look at it. -/
theorem nestedGroup_of_asGroup {operation : NestedOperation} {p : Param} {v : ParamValue}
    {group : Group} (hvalue : p.value = some v) (hgroup : v.asGroup = .ok group) :
    nestedGroup operation p = .ok (if operation = .isNull then default else group) := by
  unfold nestedGroup
  rw [hvalue]
  by_cases hnull : operation = .isNull
  · rw [if_pos hnull, if_pos hnull]
  · rw [if_neg hnull, if_neg hnull]
    simp only [hgroup]
    rfl

/-- A nested parameter is planned the same with another group in its value, if the groups are. -/
theorem planNested_congr {p : Param} {v w : ParamValue} {g h : Group} (hv : p.value = some v)
    (hg : v.asGroup = .ok g) (hh : w.asGroup = .ok h) (hplan : ∀ inner ∈ plan, inner g = inner h)
    (code : String) :
    e.planNested plan { p with value := some w } code = e.planNested plan p code := by
  cases hoperation : NestedOperation.ofCode code with
  | error error => rw [planNested_of_error hoperation, planNested_of_error hoperation]
  | ok operation =>
    cases plan with
    | none => rw [planNested_none hoperation, planNested_none hoperation]
    | some inner =>
      have hw : ({ p with value := some w } : Param).value = some w := rfl
      rw [planNested_some hoperation (nestedGroup_of_asGroup hw hh),
        planNested_some hoperation (nestedGroup_of_asGroup hv hg)]
      -- the test for null does not look into the group
      by_cases hnull : operation = .isNull
      · rw [if_pos hnull, if_pos hnull]
      · rw [if_neg hnull, if_neg hnull, hplan inner rfl]

theorem planNested_eq_ok {p : Param} {code : String} {f : F} :
    e.planNested plan p code = .ok f ↔
      ∃ operation inner group subquery, NestedOperation.ofCode code = .ok operation ∧
        plan = some inner ∧ nestedGroup operation p = .ok group ∧ inner group = .ok subquery ∧
        e.backend.nested p.name operation subquery = .ok f := by
  constructor
  · intro h
    obtain ⟨operation, hoperation, h⟩ := bind_eq_ok.mp h
    cases plan with
    | none => cases h
    | some inner =>
      obtain ⟨group, hgroup, h⟩ := bind_eq_ok.mp h
      obtain ⟨subquery, hsubquery, h⟩ := bind_eq_ok.mp h
      exact ⟨operation, inner, group, subquery, hoperation, rfl, hgroup, hsubquery, h⟩
  · rintro ⟨operation, inner, group, subquery, hoperation, rfl, hgroup, hsubquery, h⟩
    rw [planNested_some hoperation hgroup, hsubquery]
    exact h

end Engine

end FilterQuery
