import FilterQuery.Document.Filter
import FilterQuery.Memory.Predicate
import FilterQuery.Proofs.Engine.Composition
import FilterQuery.Proofs.Engine.Requests
import FilterQuery.Proofs.Engine.Simulation
import FilterQuery.Proofs.Request.Typing
import FilterQuery.Sql.Predicate

/-!
# The backends accept the same requests

All three backends are given the same conditions, so a request that one of them plans is planned by
the others for the same page, and a request that one of them refuses is refused by the others with
the same error. There are two exceptions, one for each of the other backends:

* in memory a pattern is refused if its matcher would be too large, so here every pattern that
  planning comes upon must fit (`PatternFits`);
* a document store has no subqueries. It refuses every nested parameter, but only after it has
  planned the group inside; so if SQL plans the request, that is the one thing to be refused
  (`planGroup_error_of_document`).
-/

namespace FilterQuery

/-- Plans for one page, whatever their filters. -/
def SamePage {F G : Type} (p : Plan F) (q : Plan G) : Prop :=
  p.page = q.page

/-- If the filters are planned alike, so are the requests: the page does not depend on the
backend. -/
theorem alike_plan {F G : Type} {b : Backend F} {c : Backend G} {config : Config} {R : F → G → Prop}
    (r : Request) (allowed : List String)
    (h : Alike Eq R ((Engine.plain b config).filterGroups r.toGrouped.groups r.toGrouped.glue)
      ((Engine.plain c config).filterGroups r.toGrouped.groups r.toGrouped.glue)) :
    Alike Eq SamePage ((Engine.plain b config).plan allowed r)
      ((Engine.plain c config).plan allowed r) := by
  rw [Engine.plan_eq_planGrouped, Engine.plan_eq_planGrouped, Engine.planGrouped_eq,
    Engine.planGrouped_eq]
  apply h.bind
  intro f g _
  show Alike Eq SamePage ((Page.ofGrouped config allowed r.toGrouped).map _)
    ((Page.ofGrouped config allowed r.toGrouped).map _)
  cases Page.ofGrouped config allowed r.toGrouped with
  | error e => exact .error rfl
  | ok page => exact .ok rfl

/-! ### SQL and memory -/

namespace Param

/-- The parameter is nested: its code has the mark of nesting and is not for paging. -/
def IsNested (config : Config) (p : Param) : Prop :=
  p.paging? = none ∧ config.stripMarker? p.code ≠ none

/-- Planning the first parameter comes upon the second: it is the same one, or stands in a group
inside, at any depth. -/
inductive Reaches (config : Config) (p : Param) : Param → Prop
  | refl : Reaches config p p
  | inside {q r : Param} {code : String} {operation : NestedOperation} {group : Group} :
    Reaches config p q → q.paging? = none → config.stripMarker? q.code = some code →
    NestedOperation.ofCode code = .ok operation → Engine.nestedGroup operation q = .ok group →
    r ∈ group.params → Reaches config p r

theorem Reaches.head {config : Config} {p q r : Param} {code : String}
    {operation : NestedOperation} {group : Group} (hpaging : p.paging? = none)
    (hcode : config.stripMarker? p.code = some code)
    (hoperation : NestedOperation.ofCode code = .ok operation)
    (hgroup : Engine.nestedGroup operation p = .ok group) (hq : q ∈ group.params)
    (h : Reaches config q r) : Reaches config p r := by
  induction h with
  | refl => exact .inside .refl hpaging hcode hoperation hgroup hq
  | inside _ hpaging hcode hoperation hgroup hr ih =>
    exact .inside ih hpaging hcode hoperation hgroup hr

/-- The pattern of the parameter, if it has one, makes no matcher that is too large. -/
def PatternFits (p : Param) : Prop :=
  Operation.ofCode? p.code = some (.search .like) → ∀ v ∈ p.value,
    Pattern.matcherBytes (Condition.likePattern v.raw) ≤ Pattern.matcherLimit

end Param

/-- In memory a condition is accepted unless it is a pattern that is too large. -/
theorem Memory.Predicate.ofCondition_of_patternFits {operation : SearchOperation} {p : Param}
    (hcode : Operation.ofCode? p.code = some (.search operation)) (hfits : p.PatternFits)
    {c : Condition} (hc : Condition.ofParam operation p = .ok c) :
    ofCondition c = .ok (.condition c) := by
  cases Condition.ofParam_eq_ok.mp hc with
  | @like v hv =>
    have hlimit := hfits hcode v hv
    simp only [ofCondition, String.toList_ofList]
    exact if_pos hlimit
  | _ => rfl

/-- Memory accepts what SQL accepts, as long as every pattern that is come upon fits. -/
theorem simulation_memory (config : Config) (table : String) :
    Simulation (Sql.Predicate.backend table) Memory.Predicate.backend config (fun _ _ => True)
      (fun p => ∀ q, p.Reaches config q → q.PatternFits) where
  everything := trivial
  conjunction _ := trivial
  disjunction _ := trivial
  search := by
    intro p operation hp _ hcode
    apply Alike.bind_same fun _ => rfl
    intro c hc
    have hmemory := Memory.Predicate.ofCondition_of_patternFits hcode (hp p .refl) hc
    show Alike Eq _ (.ok (Sql.Predicate.ofCondition c)) (Memory.Predicate.ofCondition c)
    rw [hmemory]
    exact .ok trivial
  nested _ _ _ _ _ := .ok trivial
  inner := by
    intro p code operation group hp hpaging hcode hoperation hgroup q hq r hr
    exact hp r (hr.head hpaging hcode hoperation hgroup hq)

/-! ### SQL and documents -/

/-- A document store accepts what SQL accepts, as long as no parameter is nested. -/
theorem simulation_document (config : Config) (table : String) :
    Simulation (Sql.Predicate.backend table) Document.backend config (fun _ _ => True)
      (fun p => ¬ p.IsNested config) where
  everything := trivial
  conjunction _ := trivial
  disjunction _ := trivial
  search := by
    intro p operation _ _ _
    apply Alike.bind_same fun _ => rfl
    intro c _
    exact .ok trivial
  nested := by
    intro p code operation f g hp hpaging hcode
    exact absurd ⟨hpaging, by simp [hcode]⟩ hp
  inner := by
    intro p code operation group hp hpaging hcode
    exact absurd ⟨hpaging, by simp [hcode]⟩ hp

theorem Simulation.inner_inside {F G : Type} {b : Backend F} {c : Backend G} {config : Config}
    {R : F → G → Prop} {P : Param → Prop} (h : Simulation b c config R P) (levels : Nat) :
    Inner R P ((Engine.plain b config).inside levels) ((Engine.plain c config).inside levels) := by
  cases levels with
  | zero => exact .none
  | succ levels => exact .some fun g hg => h.planGroup levels hg

/-- Without overrides, a nested parameter is planned as one. -/
theorem Param.IsNested.planParam {config : Config} {p : Param} (h : p.IsNested config) :
    ∃ code, ∀ {F : Type} (b : Backend F) (plan : Option (Group → Except FilterError F)),
      (Engine.plain b config).planParam plan p =
        ((Engine.plain b config).planNested plan p code).map some := by
  obtain ⟨hpaging, hmark⟩ := h
  obtain ⟨code, hcode⟩ := Option.ne_none_iff_exists'.mp hmark
  exact ⟨code, fun _ _ => Engine.planParam_of_nested hpaging rfl hcode⟩

namespace Document

variable {config : Config} {table : String}

/-- A parameter that SQL plans and a document store does not is one that it has no means for, if
that holds of the parameters inside. -/
theorem planParam_error {levels : Nat} {p : Param} {s : Option Sql.Predicate} {error : FilterError}
    (hinside : ∀ planSql ∈ (Engine.plain (Sql.Predicate.backend table) config).inside levels,
      ∀ planDocument ∈ (Engine.plain backend config).inside levels, ∀ g f error,
        planSql g = .ok f → planDocument g = .error error →
          error = .nestedNotSupported backendName)
    (hsql : (Engine.plain (Sql.Predicate.backend table) config).planParam
      ((Engine.plain (Sql.Predicate.backend table) config).inside levels) p = .ok s)
    (hdocument : (Engine.plain backend config).planParam
      ((Engine.plain backend config).inside levels) p = .error error) :
    error = .nestedNotSupported backendName := by
  by_cases hnested : p.IsNested config
  · obtain ⟨code, hplan⟩ := hnested.planParam
    rw [hplan] at hsql hdocument
    obtain ⟨f, hsql, -⟩ := map_eq_ok.mp hsql
    obtain ⟨operation, planSql, group, subquery, hoperation, hplanSql, hgroup, hsubquery, -⟩ :=
      Engine.planNested_eq_ok.mp hsql
    have hdocument := map_eq_error.mp hdocument
    cases levels with
    | zero => cases hplanSql
    | succ levels =>
      rw [Engine.inside, Engine.planNested_some hoperation hgroup] at hdocument
      rcases bind_eq_error.mp hdocument with hdocument | ⟨g, -, hdocument⟩
      · exact hinside planSql hplanSql _ rfl group subquery error hsubquery hdocument
      -- the group inside is planned, but there are no subqueries
      · exact (Except.error.inj hdocument).symm
  · have hsimulation := simulation_document config table
    have halike := hsimulation.planParam (hsimulation.inner_inside levels) hnested
    rw [hsql, hdocument] at halike
    cases halike

/-- A group that SQL plans and a document store does not has a nested parameter in it. -/
theorem planGroup_error {levels : Nat} {g : Group} {s : Sql.Predicate} {error : FilterError}
    (hsql : (Engine.plain (Sql.Predicate.backend table) config).planGroup levels g = .ok s)
    (hdocument : (Engine.plain backend config).planGroup levels g = .error error) :
    error = .nestedNotSupported backendName := by
  induction levels generalizing g s error with
  | zero => ?_
  | succ levels ih => ?_
  all_goals
    rw [Engine.planGroup_eq] at hsql hdocument
    obtain ⟨fs, hsql, -⟩ := Engine.planParams_eq_ok.mp hsql
    obtain ⟨before, p, after, hparams, -, hp⟩ :=
      mapM_eq_error.mp (Engine.planParams_eq_error.mp hdocument)
    obtain ⟨f, hf⟩ := exists_mapM_eq_ok.mp ⟨fs, hsql⟩ p (by simp [hparams])
    apply planParam_error _ hf hp
  · rintro _ ⟨⟩
  · rintro _ ⟨⟩ _ ⟨⟩ g f error
    exact ih

/-- A group with a nested parameter is never planned for a document store. -/
theorem planGroup_ne_ok {levels : Nat} {g : Group} {p : Param} (hp : p ∈ g.params)
    (hnested : p.IsNested config) (f : Json) :
    (Engine.plain backend config).planGroup levels g ≠ .ok f := by
  intro h
  rw [Engine.planGroup_eq] at h
  obtain ⟨fs, hfs, -⟩ := Engine.planParams_eq_ok.mp h
  obtain ⟨x, hx⟩ := exists_mapM_eq_ok.mp ⟨fs, hfs⟩ p hp
  obtain ⟨code, hplan⟩ := hnested.planParam
  rw [hplan] at hx
  obtain ⟨y, hy, -⟩ := map_eq_ok.mp hx
  obtain ⟨_, _, _, _, -, -, -, -, hbackend⟩ := Engine.planNested_eq_ok.mp hy
  cases hbackend

/-- Where a parameter is nested and SQL plans the groups, a document store refuses them for it. -/
theorem filterGroups_eq_error {groups : List Group} {glue : Glue} {s : Sql.Predicate}
    (hsql : (Engine.plain (Sql.Predicate.backend table) config).filterGroups groups glue = .ok s)
    {g : Group} (hg : g ∈ groups) {p : Param} (hp : p ∈ g.params) (hnested : p.IsNested config) :
    (Engine.plain backend config).filterGroups groups glue =
      .error (.nestedNotSupported backendName) := by
  obtain ⟨fs, hfs, -⟩ := Engine.filterGroups_eq_ok.mp hsql
  cases hdocument : (Engine.plain backend config).filterGroups groups glue with
  | ok f =>
    obtain ⟨ds, hds, -⟩ := Engine.filterGroups_eq_ok.mp hdocument
    obtain ⟨d, hd⟩ := exists_mapM_eq_ok.mp ⟨ds, hds⟩ g hg
    exact absurd hd (planGroup_ne_ok hp hnested d)
  | error error =>
    -- the first group that is refused; SQL plans it
    obtain ⟨before, x, after, hgroups, -, hx⟩ :=
      mapM_eq_error.mp (Engine.filterGroups_eq_error.mp hdocument)
    obtain ⟨f, hf⟩ := exists_mapM_eq_ok.mp ⟨fs, hfs⟩ x (by simp [hgroups])
    rw [planGroup_error hf hx]

end Document

/-! ### All three -/

/-- **The backends accept the same requests.** If every pattern fits, memory plans what SQL plans,
for the same page, and refuses the rest with the same errors. So does a document store if no
parameter is nested; if one is, and SQL plans the request, it refuses the request for that. -/
theorem backends_accept_alike (config : Config) (table : String) (allowed : List String)
    (r : Request) :
    let sql := (Engine.plain (Sql.Predicate.backend table) config).plan allowed r
    let memory := (Engine.plain Memory.Predicate.backend config).plan allowed r
    let document := (Engine.plain Document.backend config).plan allowed r
    ((∀ p ∈ r.params, ∀ q, p.Reaches config q → q.PatternFits) → Alike Eq SamePage sql memory) ∧
      ((∀ p ∈ r.params, ¬ p.IsNested config) → Alike Eq SamePage sql document) ∧
      ((∃ p ∈ r.params, p.IsNested config) → (∃ plan, sql = .ok plan) →
        document = .error (.nestedNotSupported Document.backendName)) := by
  intro sql memory document
  refine ⟨?_, ?_, ?_⟩
  · intro hfits
    have hgroups : ∀ g ∈ r.toGrouped.groups, ∀ p ∈ g.params,
        ∀ q, p.Reaches config q → q.PatternFits :=
      fun g hg p hp => hfits p (Request.mem_params.mpr ⟨g, hg, hp⟩)
    exact alike_plan r allowed ((simulation_memory config table).alike_filterGroups hgroups _)
  · intro hflat
    have hgroups : ∀ g ∈ r.toGrouped.groups, ∀ p ∈ g.params, ¬ p.IsNested config :=
      fun g hg p hp => hflat p (Request.mem_params.mpr ⟨g, hg, hp⟩)
    exact alike_plan r allowed ((simulation_document config table).alike_filterGroups hgroups _)
  · rintro ⟨p, hp, hnested⟩ ⟨plan, hplan⟩
    obtain ⟨g, hg, hp⟩ := Request.mem_params.mp hp
    have hsql : sql = _ := Engine.plan_eq_planGrouped _ allowed r
    rw [hsql, Engine.planGrouped_eq] at hplan
    obtain ⟨s, hs, -⟩ := bind_eq_ok.mp hplan
    have hdocument : document = _ := Engine.plan_eq_planGrouped _ allowed r
    rw [hdocument, Engine.planGrouped_eq, Document.filterGroups_eq_error hs hg hp hnested]
    rfl

/-- A pattern inside a subquery: SQL and memory plan it, a document store refuses the subquery but
plans the pattern alone. -/
theorem backends_accept_alike_nested :
    let pattern := Param.withCode "b" "like" (.text "x%")
    let nested := Param.withCode "a" "nst:in" (.group ⟨[pattern], .or⟩)
    let plan {F : Type} (b : Backend F) (p : Param) :=
      (Engine.plain b {}).plan ["a"] (.flat ⟨[p], .and, some { sortBy := some "-a" }⟩)
    Alike Eq SamePage (plan (Sql.Predicate.backend "rows") nested)
        (plan Memory.Predicate.backend nested) ∧
      Alike Eq SamePage (plan (Sql.Predicate.backend "rows") pattern)
        (plan Document.backend pattern) ∧
      plan Document.backend nested = .error (.nestedNotSupported "document") := by
  intro pattern nested plan
  have hmark : Config.stripMarker? {} nested.code = some "in" :=
    show Config.stripMarker? {} "nst:in" = some "in" by decide
  have hnested : nested.IsNested {} :=
    ⟨show Operation.pagingOfCode? "nst:in" = none by decide, by simp [hmark]⟩
  have hflat : ¬ pattern.IsNested {} :=
    fun h => h.2 (show Config.stripMarker? {} "like" = none by decide)
  have hreach : ∀ q, nested.Reaches {} q → q = nested ∨ q = pattern := by
    intro q hq
    induction hq with
    | refl => exact .inl rfl
    | inside _ hpaging hcode hoperation hgroup hr ih =>
      rcases ih with rfl | rfl
      · obtain rfl := Option.some.inj (hmark.symm.trans hcode)
        cases hoperation
        cases hgroup
        exact .inr (List.mem_singleton.mp hr)
      · exact absurd ⟨hpaging, by simp [hcode]⟩ hflat
  have hfits : ∀ q, nested.Reaches {} q → q.PatternFits := by
    intro q hq
    rcases hreach q hq with rfl | rfl
    · have hcode : Operation.ofCode? "nst:in" ≠ some (.search .like) := by decide
      exact fun h => absurd h hcode
    · rintro - v ⟨⟩
      decide
  have haccept := fun p => backends_accept_alike {} "rows" ["a"]
    (.flat ⟨[p], .and, some { sortBy := some "-a" }⟩)
  refine ⟨(haccept nested).1 ?_, (haccept pattern).2.1 ?_, (haccept nested).2.2 ?_ ?_⟩
  · intro p hp
    obtain rfl := List.mem_singleton.mp hp
    exact hfits
  · intro p hp
    obtain rfl := List.mem_singleton.mp hp
    exact hflat
  · exact ⟨nested, List.mem_singleton.mpr rfl, hnested⟩
  · unfold nested pattern
    exact ⟨_, rfl⟩

end FilterQuery
