import FilterQuery.Backend
import FilterQuery.Overrides
import FilterQuery.Paging

/-!
# Planning

An engine turns requests into fragments of its backend. A parameter is handled by the first of
these rules that applies:

1. a paging code contributes nothing to the filter;
2. a parameter on an overridden field is built by the override;
3. a code with the mark of nesting compares with a subquery over the group in its value;
4. any other code is a condition.

Groups inside groups are planned with one level less each time, so the levels that remain bound
the recursion, and the error at level zero is the error of nesting too deep.
-/

namespace FilterQuery

/-- A backend with the settings and overrides it is used with. -/
structure Engine (F : Type) where
  backend : Backend F
  config : Config := {}
  overrides : Overrides F := {}

/-- A filter with a page. -/
structure Plan (F : Type) where
  filter : F
  page : Page

namespace Engine

variable {F : Type}

/-- The group that a nested operation filters its subquery by. A test for null ignores its value. -/
def nestedGroup (operation : NestedOperation) (p : Param) : Except FilterError Group :=
  if operation = .isNull then .ok default
  else
    match p.value with
    | some v => v.asGroup.mapError (.malformedNestedValue p.name)
    | none => .error (.malformedNestedValue p.name .missing)

/-- Plans a parameter with a nested code. `inner` plans the group of its value, unless no deeper
level is allowed. -/
def planNested (e : Engine F) (inner : Option (Group → Except FilterError F)) (p : Param)
    (code : String) : Except FilterError F := do
  let operation ← NestedOperation.ofCode code
  match inner with
  | none => .error (.nestingTooDeep (e.config.maxNestingDepth + 1) e.config.maxNestingDepth)
  | some plan =>
    let subquery ← plan (← nestedGroup operation p)
    e.backend.nested p.name operation subquery

/-- Plans a parameter; a paging parameter has no fragment. -/
def planParam (e : Engine F) (inner : Option (Group → Except FilterError F)) (p : Param) :
    Except FilterError (Option F) :=
  if p.paging?.isSome then .ok none
  else
    match e.overrides.get? p.name with
    | some override => (override.build p).map some
    | none =>
      match e.config.stripMarker? p.code with
      | some code => (e.planNested inner p code).map some
      | none => do
        match ← Operation.ofCode p.code with
        | .search operation => (e.backend.search operation p).map some
        | .paging _ => .ok none

/-- Plans the parameters of a group and joins them. -/
def planParams (e : Engine F) (inner : Option (Group → Except FilterError F)) (g : Group) :
    Except FilterError F := do
  let fragments ← g.params.mapM (e.planParam inner)
  .ok (e.backend.combine g.glue (fragments.filterMap id))

/-- Plans a group with so many levels of nesting left below it. -/
def planGroup (e : Engine F) : (levels : Nat) → Group → Except FilterError F
  | 0 => e.planParams none
  | levels + 1 => e.planParams (some (e.planGroup levels))

/-- The filter of a group of parameters. -/
def filterGroup (e : Engine F) (g : Group) : Except FilterError F :=
  e.planGroup e.config.maxNestingDepth g

/-- The filter of a list of parameters under a glue. -/
def filterParams (e : Engine F) (params : List Param) (glue : Glue) : Except FilterError F :=
  e.filterGroup ⟨params, glue⟩

/-- The filter of several groups under an outer glue. -/
def filterGroups (e : Engine F) (groups : List Group) (glue : Glue) : Except FilterError F := do
  .ok (e.backend.combine glue (← groups.mapM e.filterGroup))

/-- The page that is asked for. -/
def page (e : Engine F) (allowed : List String) (wanted : Option PageAttribute) :
    Except FilterError Page :=
  Page.resolve e.config allowed wanted

/-- The plan of a flat request. -/
def planFlat (e : Engine F) (allowed : List String) (r : FlatRequest) :
    Except FilterError (Plan F) := do
  let filter ← e.filterParams r.params r.glue
  .ok ⟨filter, ← Page.ofFlat e.config allowed r⟩

/-- The plan of a grouped request. -/
def planGrouped (e : Engine F) (allowed : List String) (r : GroupedRequest) :
    Except FilterError (Plan F) := do
  let filter ← e.filterGroups r.groups r.glue
  .ok ⟨filter, ← Page.ofGrouped e.config allowed r⟩

/-- The plan of a request. -/
def plan (e : Engine F) (allowed : List String) : Request → Except FilterError (Plan F)
  | .flat r => e.planFlat allowed r
  | .grouped r => e.planGrouped allowed r

end Engine

end FilterQuery
