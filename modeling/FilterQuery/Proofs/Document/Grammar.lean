import FilterQuery.Document.Filter
import FilterQuery.Proofs.Memory.Locality

/-!
# The grammar of document filters

In a document filter the names of fields and the operators are keys alike, and the store tells them
apart by the dollar sign at the front of an operator. A filter that is planned is always a criterion
of a small grammar (`Criterion`), and what a request brings in has two places there: values are
operands, and names are the keys that stand for fields. No value becomes a key.

But a name is put in its place as it is, and one that looks like an operator is one to the store. So
there is an operator in the place of a field if and only if a parameter with such a name asks
something of its field (`filters_are_criteria_but_for_operator_names`).
-/

namespace FilterQuery

/-! ### What is asked -/

/-- The field that a condition asks something of. A text without tokens asks nothing. -/
def Condition.asked? : Condition → Option String
  | .contains _ [] => none
  | c => c.field?

theorem Condition.asked?_ofParam {operation : SearchOperation} {p : Param} {c : Condition}
    (h : Condition.ofParam operation p = .ok c) : ∀ field ∈ c.asked?, field = p.name := by
  intro field hfield
  refine field?_ofParam h field ?_
  cases c with
  | contains name tokens =>
    cases tokens with
    | nil => cases hfield
    | cons token tokens => exact hfield
  | _ => exact hfield

/-- The parameter asks something of its field. -/
def Param.AsksField (p : Param) : Prop :=
  ∃ operation c, Operation.ofCode? p.code = some (.search operation) ∧
    Condition.ofParam operation p = .ok c ∧ p.name ∈ c.asked?

theorem Param.AsksField.paging_eq_none {p : Param} (h : p.AsksField) : p.paging? = none := by
  obtain ⟨operation, _, hcode, -⟩ := h
  rw [paging?, Operation.pagingOfCode?, hcode]

/-- The name of a parameter of the request. -/
def Request.Names (r : Request) (name : String) : Prop :=
  ∃ p ∈ r.params, p.name = name

namespace Document

/-! ### The grammar -/

/-- To a document store the key is an operator. -/
def IsOperator (key : String) : Prop :=
  key.toList.head? = some '$'

instance (key : String) : Decidable (IsOperator key) :=
  inferInstanceAs (Decidable (key.toList.head? = some '$'))

/-- What a field is compared with: a value without parts, or an instant. -/
inductive IsOperand : Json → Prop
  | null : IsOperand .null
  | bool (b : Bool) : IsOperand (.bool b)
  | integer (i : Int) : IsOperand (.integer i)
  | float (x : Binary64) : IsOperand (.float x)
  | string (s : String) : IsOperand (.string s)
  | date (text : String) : IsOperand (.object [("$date", .string text)])

/-- What is asked of a field. -/
inductive IsTest : Json → Prop
  | null : IsTest .null
  | comparison {operator : String} {operand : Json} :
    operator ∈ ["$eq", "$ne", "$lt", "$lte", "$gt", "$gte"] → IsOperand operand →
    IsTest (.object [(operator, operand)])
  | membership {operator : String} {operands : List Json} : operator ∈ ["$in", "$nin"] →
    (∀ operand ∈ operands, IsOperand operand) → IsTest (.object [(operator, .array operands)])
  | regex (text : String) : IsTest (.object [("$regex", .string text), ("$options", .string "i")])

/-- A filter, with tests of some fields. -/
inductive Criterion (IsField : String → Prop) : Json → Prop
  | everything : Criterion IsField (.object [])
  | nothing : Criterion IsField (.object [("$nor", .array [.object []])])
  | join {operator : String} {filters : List Json} : operator ∈ ["$and", "$or"] →
    2 ≤ filters.length → (∀ filter ∈ filters, Criterion IsField filter) →
    Criterion IsField (.object [(operator, .array filters)])
  | field {name : String} {test : Json} : IsField name → IsTest test →
    Criterion IsField (.object [(name, test)])

variable {IsField : String → Prop}

theorem criterion_join_iff {operator : String} {filters : List Json}
    (hoperator : operator ∈ ["$and", "$or"]) :
    Criterion IsField (.object [(operator, .array filters)]) ↔
      2 ≤ filters.length ∧ ∀ filter ∈ filters, Criterion IsField filter := by
  constructor
  · intro h
    cases h with
    | nothing => exact absurd hoperator (by decide)
    | join _ hmany hfilters => exact ⟨hmany, hfilters⟩
    | field _ htest => cases htest
  · exact fun h => .join hoperator h.1 h.2

theorem criterion_field_iff {name : String} {test : Json} (htest : IsTest test) :
    Criterion IsField (.object [(name, test)]) ↔ IsField name := by
  constructor
  · intro h
    cases h with
    | field hname _ => exact hname
    | nothing => cases htest
    | join => cases htest
  · exact fun h => .field h htest

theorem Criterion.imp {IsField IsField' : String → Prop} {filter : Json}
    (h : Criterion IsField filter) (himp : ∀ name, IsField name → IsField' name) :
    Criterion IsField' filter := by
  induction h with
  | everything => exact .everything
  | nothing => exact .nothing
  | join hoperator hmany _ ih => exact .join hoperator hmany ih
  | field hname htest => exact .field (himp _ hname) htest

/-! ### Filters are criteria -/

theorem isOperand_scalarJson (x : Scalar) : IsOperand (scalarJson x) := by
  cases x with
  | string s => exact .string s
  | long i => exact .integer i
  | double x =>
    rw [scalarJson, Json.ofDouble]
    split
    · exact .float x
    · exact .null
  | boolean b => exact .bool b
  | instant i => exact .date i.toText

/-- Filters that are joined are a criterion if and only if each is. -/
theorem criterion_glueFilters_iff {glue : Glue} {filters : List Json} :
    Criterion IsField (glueFilters glue filters) ↔
      ∀ filter ∈ filters, Criterion IsField filter := by
  match filters with
  | [] => exact iff_of_true .everything (by simp)
  | [filter] => simp [glueFilters]
  | first :: second :: filters =>
    have hoperator : joinOperator glue ∈ ["$and", "$or"] := by cases glue <;> decide
    exact (criterion_join_iff hoperator).trans (and_iff_right (by simp))

theorem combine_eq_glueFilters (glue : Glue) (filters : List Json) :
    backend.combine glue filters = glueFilters glue filters := by
  match filters, glue with
  | [], _ | [_], _ => rfl
  | _ :: _ :: _, .and | _ :: _ :: _, .or => rfl

theorem criterion_combine_iff {glue : Glue} {filters : List Json} :
    Criterion IsField (backend.combine glue filters) ↔
      ∀ filter ∈ filters, Criterion IsField filter := by
  rw [combine_eq_glueFilters, criterion_glueFilters_iff]

/-- A condition makes a criterion if and only if the field that it asks something of, if any, may
stand for a field. -/
theorem criterion_ofCondition_iff {c : Condition} :
    Criterion IsField (ofCondition c) ↔ ∀ field ∈ c.asked?, IsField field := by
  have hregex {field : String} {regex : List Char} :
      Criterion IsField (regexTest field regex) ↔ IsField field :=
    criterion_field_iff (.regex _)
  cases c with
  | everything => exact iff_of_true .everything (by simp [Condition.asked?, Condition.field?])
  | nothing => exact iff_of_true .nothing (by simp [Condition.asked?, Condition.field?])
  | compare field comparison value =>
    have hoperator : comparisonOperator comparison ∈
        ["$eq", "$ne", "$lt", "$lte", "$gt", "$gte"] := by
      cases comparison <;> decide
    rw [ofCondition, test, criterion_field_iff (.comparison hoperator (isOperand_scalarJson value))]
    simp [Condition.asked?, Condition.field?]
  | member field negated values =>
    have hoperator : (if negated then "$nin" else "$in") ∈ ["$in", "$nin"] := by
      cases negated <;> decide
    have hoperands : ∀ operand ∈ values.map scalarJson, IsOperand operand :=
      List.forall_mem_map.mpr fun value _ => isOperand_scalarJson value
    rw [ofCondition, test, criterion_field_iff (.membership hoperator hoperands)]
    simp [Condition.asked?, Condition.field?]
  | isNull field =>
    rw [ofCondition, criterion_field_iff .null]
    simp [Condition.asked?, Condition.field?]
  | like field pattern =>
    rw [ofCondition, hregex]
    simp [Condition.asked?, Condition.field?]
  | contains field tokens =>
    rw [ofCondition, criterion_glueFilters_iff, List.forall_mem_map]
    cases tokens with
    | nil => simp [Condition.asked?]
    | cons token tokens => simp +contextual [hregex, Condition.asked?, Condition.field?]

/-! ### Requests -/

open Engine (planParam_of_override planParam_of_nested search_of_planParam_flat planNested_eq_ok
  planParam_eq_none planParams_eq_ok filterGroups_eq_ok planGroup_eq)

/-- The engine of a document store. -/
def engine (config : Config) (overrides : Overrides Json) : Engine Json :=
  { backend := backend, config, overrides }

variable {config : Config} {overrides : Overrides Json}

/-- Where a field is not overridden, a fragment is the filter of a condition: there are no
subqueries. -/
theorem exists_condition_of_planParam {plan : Option (Group → Except FilterError Json)} {p : Param}
    (hpaging : p.paging? = none) (hget : overrides.get? p.name = none) {filter : Json}
    (h : (engine config overrides).planParam plan p = .ok (some filter)) :
    ∃ operation c, Operation.ofCode? p.code = some (.search operation) ∧
      Condition.ofParam operation p = .ok c ∧ ofCondition c = filter := by
  cases hcode : config.stripMarker? p.code with
  | some code =>
    rw [planParam_of_nested (e := engine config overrides) hpaging hget hcode] at h
    obtain ⟨_, hnested, -⟩ := map_eq_ok.mp h
    obtain ⟨_, _, _, _, -, -, -, -, hbackend⟩ := planNested_eq_ok.mp hnested
    cases hbackend
  | none =>
    obtain ⟨operation, hoperation, hsearch⟩ :=
      search_of_planParam_flat (e := engine config overrides) hpaging hget hcode h
    obtain ⟨c, hc, hfilter⟩ := bind_eq_ok.mp hsearch
    exact ⟨operation, c, hoperation, hc, Except.ok.inj hfilter⟩

/-- If the field of the parameter is overridden, what is built for the parameter is a criterion. -/
def OverrideBuilds (overrides : Overrides Json) (IsField : String → Prop) (p : Param) : Prop :=
  ∀ override, overrides.get? p.name = some override → ∀ filter,
    override.build p = .ok filter → Criterion IsField filter

/-- The parameter may ask what it asks of its field, if that is up to the document store. -/
def MayAsk (overrides : Overrides Json) (IsField : String → Prop) (p : Param) : Prop :=
  overrides.get? p.name = none → p.AsksField → IsField p.name

theorem criterion_planParam_iff {plan : Option (Group → Except FilterError Json)} {p : Param}
    (hoverride : OverrideBuilds overrides IsField p) {x : Option Json}
    (h : (engine config overrides).planParam plan p = .ok x) :
    (∀ filter ∈ x, Criterion IsField filter) ↔ MayAsk overrides IsField p := by
  cases x with
  | none =>
    have hpaging : p.paging? ≠ none := planParam_eq_none.mp h
    exact iff_of_true (by simp) fun _ hasks => absurd hasks.paging_eq_none hpaging
  | some filter =>
    have hpaging : p.paging? = none := by
      by_contra hpaging
      cases h.symm.trans (planParam_eq_none.mpr hpaging)
    simp only [Option.mem_some_iff, forall_eq']
    cases hget : overrides.get? p.name with
    | some override =>
      rw [planParam_of_override hpaging hget] at h
      obtain ⟨_, hbuild, ⟨⟩⟩ := map_eq_ok.mp h
      refine iff_of_true (hoverride override hget filter hbuild) fun hnone => ?_
      cases hget.symm.trans hnone
    | none =>
      obtain ⟨operation, c, hoperation, hc, rfl⟩ := exists_condition_of_planParam hpaging hget h
      rw [criterion_ofCondition_iff]
      constructor
      · rintro hasked - ⟨operation', c', hoperation', hc', hmem⟩
        cases hoperation.symm.trans hoperation'
        cases hc.symm.trans hc'
        exact hasked p.name hmem
      · intro hmay field hfield
        obtain rfl := Condition.asked?_ofParam hc field hfield
        exact hmay hget ⟨operation, c, hoperation, hc, hfield⟩

theorem criterion_filterGroup_iff {g : Group}
    (hoverrides : ∀ p ∈ g.params, OverrideBuilds overrides IsField p) {filter : Json}
    (h : (engine config overrides).filterGroup g = .ok filter) :
    Criterion IsField filter ↔ ∀ p ∈ g.params, MayAsk overrides IsField p := by
  rw [Engine.filterGroup, planGroup_eq] at h
  obtain ⟨fs, hfs, rfl⟩ := planParams_eq_ok.mp h
  have hfragments : (∀ filter ∈ fs.filterMap id, Criterion IsField filter) ↔
      ∀ x ∈ fs, ∀ filter ∈ x, Criterion IsField filter := by
    constructor
    · exact fun hall x hx filter hfilter => hall filter (List.mem_filterMap.mpr ⟨x, hx, hfilter⟩)
    · intro hall filter hfilter
      obtain ⟨x, hx, hfilter⟩ := List.mem_filterMap.mp hfilter
      exact hall x hx filter hfilter
  exact criterion_combine_iff.trans <| hfragments.trans <|
    forall_mem_mapM hfs fun p hp _ => criterion_planParam_iff (hoverrides p hp)

/-- **The filter of a request is a criterion if and only if its parameters may ask what they ask.** -/
theorem criterion_plan_iff {allowed : List String} {r : Request}
    (hoverrides : ∀ p ∈ r.params, OverrideBuilds overrides IsField p) {plan : Plan Json}
    (h : (engine config overrides).plan allowed r = .ok plan) :
    Criterion IsField plan.filter ↔ ∀ p ∈ r.params, MayAsk overrides IsField p := by
  rw [Engine.plan_eq_planGrouped, Engine.planGrouped_eq] at h
  obtain ⟨filter, hfilter, h⟩ := bind_eq_ok.mp h
  obtain ⟨page, -, rfl⟩ := map_eq_ok.mp h
  obtain ⟨fs, hfs, rfl⟩ := filterGroups_eq_ok.mp hfilter
  have hgroups : (∀ p ∈ r.params, MayAsk overrides IsField p) ↔
      ∀ g ∈ r.toGrouped.groups, ∀ p ∈ g.params, MayAsk overrides IsField p :=
    List.forall_mem_flatMap
  rw [hgroups]
  refine criterion_combine_iff.trans (forall_mem_mapM hfs fun g hg _ => ?_)
  exact criterion_filterGroup_iff fun p hp => hoverrides p (Request.mem_params.mpr ⟨g, hg, hp⟩)

/-- **Every filter is a criterion, and no operator stands for a field if none is asked for.** A
request that is planned for a document store has a criterion for its filter in which the names of
parameters stand for fields. None of them is an operator if and only if no parameter asks something
of a field with such a name, overridden fields apart. -/
theorem filters_are_criteria_but_for_operator_names (config : Config) (overrides : Overrides Json)
    (allowed : List String) {r : Request}
    (hoverrides : ∀ p ∈ r.params,
      OverrideBuilds overrides (fun name => r.Names name ∧ ¬ IsOperator name) p)
    {plan : Plan Json} (h : (engine config overrides).plan allowed r = .ok plan) :
    Criterion r.Names plan.filter ∧
      (Criterion (fun name => r.Names name ∧ ¬ IsOperator name) plan.filter ↔
        ∀ p ∈ r.params, overrides.get? p.name = none → p.AsksField → ¬ IsOperator p.name) := by
  constructor
  · rw [criterion_plan_iff _ h]
    · exact fun p hp _ _ => ⟨p, hp, rfl⟩
    · intro p hp override hget filter hbuild
      exact (hoverrides p hp override hget filter hbuild).imp fun _ hname => hname.1
  · rw [criterion_plan_iff hoverrides h]
    exact forall₂_congr fun p hp => forall₂_congr fun _ _ => and_iff_right ⟨p, hp, rfl⟩

/-- An operator where something is asked of a field, and another request in which nothing is asked of
the field with its name. -/
theorem operator_in_place_of_field :
    let asking := Request.flat ⟨[.withCode "$comment" "eq" (.integer 5)], .and, none⟩
    let idle := Request.flat ⟨[.bare "$comment" "lt", .withCode "a" "eq" (.text "$x")], .or, none⟩
    let IsSafe (r : Request) (name : String) := r.Names name ∧ ¬ IsOperator name
    ∃ plan plan', (engine {} {}).plan [] asking = .ok plan ∧
      (engine {} {}).plan [] idle = .ok plan' ∧ Criterion asking.Names plan.filter ∧
      ¬ Criterion (IsSafe asking) plan.filter ∧ Criterion (IsSafe idle) plan'.filter := by
  intro asking idle IsSafe
  have hnone : ∀ (r : Request), ∀ p ∈ r.params, OverrideBuilds {} (IsSafe r) p := by
    rintro r p - override ⟨⟩
  obtain ⟨plan, hplan⟩ : ∃ plan, (engine {} {}).plan [] asking = .ok plan := ⟨_, rfl⟩
  obtain ⟨plan', hplan'⟩ : ∃ plan, (engine {} {}).plan [] idle = .ok plan := ⟨_, rfl⟩
  obtain ⟨hcriterion, hsafe⟩ :=
    filters_are_criteria_but_for_operator_names {} {} [] (hnone asking) hplan
  obtain ⟨-, hsafe'⟩ := filters_are_criteria_but_for_operator_names {} {} [] (hnone idle) hplan'
  refine ⟨plan, plan', hplan, hplan', hcriterion, ?_, ?_⟩
  · intro hcriterionSafe
    have hasks : (Param.withCode "$comment" "eq" (.integer 5)).AsksField :=
      ⟨.compare .equal, .compare "$comment" .equal (.long 5), by decide, rfl, rfl⟩
    exact hsafe.mp hcriterionSafe _ (List.mem_singleton.mpr rfl) rfl hasks (by decide)
  · apply hsafe'.mpr
    intro p hp _ hasks
    obtain rfl | rfl : p = .bare "$comment" "lt" ∨ p = .withCode "a" "eq" (.text "$x") := by
      simpa [idle, Request.params, Request.toGrouped] using hp
    · obtain ⟨operation, c, hoperation, hc, hmem⟩ := hasks
      have hless : Operation.ofCode? "lt" = some (.search (.compare .less)) := by decide
      cases hless.symm.trans hoperation
      cases hc
      cases hmem
    · decide

end Document

end FilterQuery
