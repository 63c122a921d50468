import FilterQuery.Proofs.Engine.Composition
import FilterQuery.Proofs.Engine.Requests
import FilterQuery.Proofs.Engine.Simulation
import FilterQuery.Proofs.Request.Typing
import Mathlib.Logic.Function.Basic

/-!
# Subqueries never see the row outside

A filter is asked about one row of a collection. Its subqueries look through the collection
themselves, and what they ask there is asked of the rows that they find. So the row outside is read
in the fields outside the subqueries and in no others (`Predicate.fields`): rows that agree in these
fulfil the filter together or not at all (`holds_congr`).

In a filter that is planned from a request, these are the fields that the request's own parameters
name. The groups inside a nested parameter may name whatever they like, to any depth: on the row
outside the parameter reads its own field (`mem_fields_planParam`).
-/

namespace FilterQuery

/-! ### The fields of a filter -/

/-- The field that a condition is about. -/
def Condition.field? : Condition → Option String
  | .everything | .nothing => none
  | .compare field _ _ | .member field _ _ | .isNull field | .like field _ | .contains field _ =>
    some field

namespace Memory

mutual

/-- The fields in which a filter reads the row that it is asked about. -/
def Predicate.fields : Predicate → List String
  | .condition c => c.field?.toList
  | .all ps | .any ps => Predicate.fieldsAll ps
  | .nested field _ _ => [field]

def Predicate.fieldsAll : List Predicate → List String
  | [] => []
  | p :: ps => p.fields ++ Predicate.fieldsAll ps

end

/-- Rows that have the same values in some fields. A field may be null in one and missing in the
other. -/
def AgreeOn (fields : List String) (row row' : Json) : Prop :=
  ∀ field ∈ fields, field? row field = field? row' field

theorem fulfils_congr {row row' : Json} {c : Condition} (h : AgreeOn c.field?.toList row row') :
    fulfils row c = fulfils row' c := by
  cases c with
  | everything | nothing => rfl
  | compare field _ _ | member field _ _ | isNull field | like field _ | contains field _ =>
    have hfield : field? row field = field? row' field := h field (by simp [Condition.field?])
    simp only [fulfils, hfield]

mutual

/-- **A filter reads the row that it is asked about in its own fields only.** -/
theorem holds_congr (rows : List Json) {row row' : Json} :
    (p : Predicate) → AgreeOn p.fields row row' → p.holds rows row = p.holds rows row'
  | .condition _, h => fulfils_congr h
  | .all ps, h => holdsAll_congr rows ps h
  | .any ps, h => holdsAny_congr rows ps h
  | .nested field operation subquery, h => by
    -- what the subquery selects is the same, since it is not asked about either row
    have hfield : field? row field = field? row' field := h field (by simp [Predicate.fields])
    simp only [Predicate.holds, hfield]

theorem holdsAll_congr (rows : List Json) {row row' : Json} :
    (ps : List Predicate) → AgreeOn (Predicate.fieldsAll ps) row row' →
      Predicate.holdsAll rows row ps = Predicate.holdsAll rows row' ps
  | [], _ => rfl
  | p :: ps, h => by
    obtain ⟨hp, hps⟩ := List.forall_mem_append.mp h
    rw [Predicate.holdsAll, Predicate.holdsAll, holds_congr rows p hp, holdsAll_congr rows ps hps]

theorem holdsAny_congr (rows : List Json) {row row' : Json} :
    (ps : List Predicate) → AgreeOn (Predicate.fieldsAll ps) row row' →
      Predicate.holdsAny rows row ps = Predicate.holdsAny rows row' ps
  | [], _ => rfl
  | p :: ps, h => by
    obtain ⟨hp, hps⟩ := List.forall_mem_append.mp h
    rw [Predicate.holdsAny, Predicate.holdsAny, holds_congr rows p hp, holdsAny_congr rows ps hps]

end

theorem mem_fieldsAll {field : String} {ps : List Predicate} :
    field ∈ Predicate.fieldsAll ps ↔ ∃ p ∈ ps, field ∈ p.fields := by
  induction ps with
  | nil => simp [Predicate.fieldsAll]
  | cons p ps ih => rw [Predicate.fieldsAll, List.mem_append, ih, List.exists_mem_cons_iff]

theorem mem_fields_combine {field : String} {glue : Glue} {ps : List Predicate}
    (h : field ∈ (Predicate.backend.combine glue ps).fields) : ∃ p ∈ ps, field ∈ p.fields := by
  match ps, h with
  | [], h => cases h
  | [p], h => exact ⟨p, by simp, h⟩
  | p :: q :: ps, h => cases glue <;> exact mem_fieldsAll.mp h

end Memory

/-! ### The fields of a planned filter -/

/-- The condition of a parameter is about the parameter's field, if about any. -/
theorem Condition.field?_ofParam {operation : SearchOperation} {p : Param} {c : Condition}
    (h : Condition.ofParam operation p = .ok c) : ∀ field ∈ c.field?, field = p.name := by
  cases ofParam_eq_ok.mp h with
  | everything | nothing => simp [Condition.field?]
  | _ => exact fun _ h => (Option.some.inj h).symm

namespace Memory

open Engine (planParam_of_paging planParam_of_nested search_of_planParam_flat planNested_eq_ok
  planParams_eq_ok filterGroups_eq_ok planGroup_eq filter_eq_filterGroups)

theorem ofCondition_eq_ok {c : Condition} {f : Predicate} (h : Predicate.ofCondition c = .ok f) :
    f = .condition c := by
  cases c with
  | like field pattern =>
    rw [Predicate.ofCondition] at h
    split at h
    · exact (Except.ok.inj h).symm
    · cases h
  | _ => exact (Except.ok.inj h).symm

variable {config : Config}

/-- **A parameter reads its own field**, whatever the groups inside it name. -/
theorem mem_fields_planParam {plan : Option (Group → Except FilterError Predicate)} {p : Param}
    {f : Predicate}
    (h : (Engine.plain Predicate.backend config).planParam plan p = .ok (some f)) :
    p.paging? = none ∧ ∀ field ∈ f.fields, field = p.name := by
  have hpaging : p.paging? = none := by
    by_contra hpaging
    rw [planParam_of_paging hpaging] at h
    cases h
  refine ⟨hpaging, ?_⟩
  have hoverride : (Engine.plain Predicate.backend config).overrides.get? p.name = none := rfl
  cases hcode : config.stripMarker? p.code with
  | some code =>
    rw [planParam_of_nested hpaging hoverride hcode] at h
    obtain ⟨_, hnested, hf⟩ := map_eq_ok.mp h
    obtain ⟨operation, inner, group, subquery, -, -, -, -, hbuilt⟩ := planNested_eq_ok.mp hnested
    cases hf
    cases hbuilt
    simp [Predicate.fields]
  | none =>
    obtain ⟨operation, -, hsearch⟩ := search_of_planParam_flat hpaging hoverride hcode h
    obtain ⟨c, hc, hf⟩ := bind_eq_ok.mp hsearch
    obtain rfl := ofCondition_eq_ok hf
    intro field hfield
    exact Condition.field?_ofParam hc field (Option.mem_toList.mp hfield)

theorem mem_fields_filterGroup {g : Group} {m : Predicate}
    (h : (Engine.plain Predicate.backend config).filterGroup g = .ok m) :
    ∀ field ∈ m.fields, ∃ p ∈ g.params, p.paging? = none ∧ field = p.name := by
  intro field hfield
  rw [Engine.filterGroup, planGroup_eq] at h
  obtain ⟨fs, hfs, rfl⟩ := planParams_eq_ok.mp h
  obtain ⟨f, hf, hfield⟩ := mem_fields_combine hfield
  obtain ⟨_, hf, rfl⟩ := List.mem_filterMap.mp hf
  obtain ⟨p, hp, hplan⟩ := (mem_mapM hfs).mp hf
  obtain ⟨hpaging, hname⟩ := mem_fields_planParam hplan
  exact ⟨p, hp, hpaging, hname field hfield⟩

theorem mem_fields_filter {r : Request} {m : Predicate}
    (h : (Engine.plain Predicate.backend config).filter r = .ok m) :
    ∀ field ∈ m.fields, ∃ p ∈ r.params, p.paging? = none ∧ field = p.name := by
  intro field hfield
  rw [filter_eq_filterGroups] at h
  obtain ⟨ms, hms, rfl⟩ := filterGroups_eq_ok.mp h
  obtain ⟨n, hn, hfield⟩ := mem_fields_combine hfield
  obtain ⟨g, hg, hplan⟩ := (mem_mapM hms).mp hn
  obtain ⟨p, hp, hparam⟩ := mem_fields_filterGroup hplan field hfield
  exact ⟨p, Request.mem_params.mpr ⟨g, hg, hp⟩, hparam⟩

/-- Each parameter of a request that is planned is planned alone, too. -/
theorem exists_filterParams {r : Request} {m : Predicate}
    (h : (Engine.plain Predicate.backend config).filter r = .ok m) {p : Param}
    (hp : p ∈ r.params) :
    ∃ f, (Engine.plain Predicate.backend config).filterParams [p] .and = .ok f := by
  obtain ⟨⟨params, glue⟩, hg, hp⟩ := Request.mem_params.mp hp
  rw [filter_eq_filterGroups] at h
  obtain ⟨ms, hms, -⟩ := filterGroups_eq_ok.mp h
  have hgroup := exists_mapM_eq_ok.mp ⟨ms, hms⟩ ⟨params, glue⟩ hg
  have hpartwise := partwise_filterParams config {}
  exact (hpartwise.exists_ok params glue).mp hgroup p hp

/-! ### Rows that agree -/

/-- **A subquery never sees the row outside.** Rows that agree in the fields that the parameters of
a request name fulfil its filter together or not at all. And each parameter that is not about the
page is planned to a filter of its own, whose truth on a row depends on one value of the row, that
of the parameter's field; in a nested parameter, too, and whatever the groups in it name. -/
theorem subqueries_never_see_outside {r : Request} {m : Predicate}
    (h : (Engine.plain Predicate.backend config).filter r = .ok m) (rows : List Json) :
    (∀ row row', (∀ p ∈ r.params, p.paging? = none → field? row p.name = field? row' p.name) →
        m.holds rows row = m.holds rows row') ∧
      ∀ p ∈ r.params, p.paging? = none →
        ∃ f, (Engine.plain Predicate.backend config).filterParams [p] .and = .ok f ∧
          ∃ truth : Option Json → Bool, ∀ row, f.holds rows row = truth (field? row p.name) := by
  constructor
  · intro row row' hagree
    apply holds_congr rows m
    intro field hfield
    obtain ⟨p, hp, hpaging, rfl⟩ := mem_fields_filter h field hfield
    exact hagree p hp hpaging
  · intro p hp hpaging
    obtain ⟨f, hf⟩ := exists_filterParams h hp
    have hfields : ∀ field ∈ f.fields, field = p.name := by
      intro field hfield
      obtain ⟨q, hq, -, rfl⟩ := mem_fields_filterGroup hf field hfield
      rw [List.mem_singleton.mp hq]
    have hfactors : Function.FactorsThrough (f.holds rows) (field? · p.name) := by
      intro row row' hsame
      apply holds_congr rows f
      intro field hfield
      rw [hfields field hfield]
      exact hsame
    obtain ⟨truth, htruth⟩ := (Function.factorsThrough_iff _).mp hfactors
    exact ⟨f, hf, truth, fun row => congrFun htruth row⟩

/-- Two rows that differ in all that the subqueries read, but not in the field outside. -/
theorem subqueries_never_see_outside_of_other_fields :
    let bosses := Param.withCode "boss" "nst:notIn"
      (.group ⟨[.withCode "pay" "lt" (.integer 2)], .and⟩)
    let r : Request := .flat ⟨
      [.withCode "dept" "nst:in" (.group ⟨[.withCode "pay" "gt" (.integer 5), bosses], .and⟩),
        .withCode "" "limit" (.integer 3)], .and, none⟩
    let one : Json := .object [("dept", .integer 1), ("pay", .integer 9), ("boss", .integer 2)]
    let other : Json := .object [("dept", .integer 1), ("pay", .integer 0)]
    ∃ m, (Engine.plain Predicate.backend {}).filter r = .ok m ∧
      m.holds [one] other = m.holds [one] one ∧ m.holds [one] one = true := by
  intro bosses r one other
  let m : Predicate := .nested "dept" (.member false) (.all
    [.condition (.compare "pay" .greater (.long 5)),
      .nested "boss" (.member true) (.condition (.compare "pay" .less (.long 2)))])
  have hm : (Engine.plain Predicate.backend {}).filter r = .ok m := by
    unfold r bosses m
    rfl
  refine ⟨m, hm, (subqueries_never_see_outside hm [one]).1 other one ?_, ?_⟩
  · intro p hp hpaging
    have hdept : p.name = "dept" := by
      rcases List.mem_cons.mp hp with rfl | hp
      · rfl
      · cases List.mem_singleton.mp hp
        cases hpaging
    rw [hdept]
    rfl
  · decide

end Memory

end FilterQuery
