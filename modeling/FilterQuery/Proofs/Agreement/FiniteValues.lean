import FilterQuery.Proofs.Document.Grammar
import FilterQuery.Proofs.Engine.Invariant
import FilterQuery.Proofs.Request.Typing
import FilterQuery.Proofs.Sql.Rendering

/-!
# No infinities and no stray nulls

A request can hold infinite numbers and texts that read as such. SQL would bind them, and in a
document filter, where JSON has no number for them, they would be nulls. But what a parameter asks of
a row has nothing infinite in it. So all that a SQL predicate carries is proper, at any depth
(`Sql.Predicate.keeps_proper`), and the nulls in a document filter are the tests for null that the
request asks for, one by one (`Document.hasNulls_filter`).
-/

namespace FilterQuery

/-! ### SQL -/

namespace Sql

/-- The value is not null, and if it is a float it is finite. -/
def Value.IsProper (v : Value) : Prop :=
  v ≠ .null ∧ ∀ x, v = .float x → x.isFinite = true

theorem Value.isProper_ofScalar {x : Scalar} (h : x.isFinite = true) :
    (Value.ofScalar x).IsProper := by
  cases x with
  | double x =>
    refine ⟨nofun, ?_⟩
    rintro _ ⟨⟩
    exact h
  | _ => exact ⟨nofun, nofun⟩

theorem Value.isProper_string (s : String) : (Value.string s).IsProper :=
  ⟨nofun, nofun⟩

namespace Predicate

/-- A predicate has a value somewhere in it, written out or not. -/
inductive Carries (v : Value) : Predicate → Prop
  | compare {field : String} {c : Comparison} : Carries v (.compare field c v)
  | like {field pattern : String} {escaped : Bool} : v = .string pattern →
    Carries v (.like field pattern escaped)
  | member {field : String} {negated : Bool} {values : List Value} : v ∈ values →
    Carries v (.member field negated values)
  | all {p : Predicate} {ps : List Predicate} : p ∈ ps → Carries v p → Carries v (.all ps)
  | any {p : Predicate} {ps : List Predicate} : p ∈ ps → Carries v p → Carries v (.any ps)
  | subquery {field table : String} {operation : NestedOperation} {filter : Predicate} :
    Carries v filter → Carries v (.subquery field operation table filter)

mutual

/-- What a predicate binds, it carries. -/
theorem carries_of_mem_values {v : Value} : (p : Predicate) → v ∈ p.values → p.Carries v
  | .everything, h | .nothing, h | .isNull _, h => absurd h List.not_mem_nil
  | .compare .., h => by
    obtain rfl := List.mem_singleton.mp h
    exact .compare
  | .like .., h => .like (List.mem_singleton.mp h)
  | .member .., h => .member h
  | .all ps, h => by
    obtain ⟨p, hp, hcarries⟩ := carries_of_mem_valuesAll ps h
    exact .all hp hcarries
  | .any ps, h => by
    obtain ⟨p, hp, hcarries⟩ := carries_of_mem_valuesAll ps h
    exact .any hp hcarries
  | .subquery _ operation _ filter, h => by
    rw [values] at h
    split at h
    · exact absurd h List.not_mem_nil
    · exact .subquery (carries_of_mem_values filter h)

theorem carries_of_mem_valuesAll {v : Value} :
    (ps : List Predicate) → v ∈ valuesAll ps → ∃ p ∈ ps, p.Carries v
  | [], h => absurd h List.not_mem_nil
  | p :: ps, h => by
    rcases List.mem_append.mp h with h | h
    · exact ⟨p, List.mem_cons_self, carries_of_mem_values p h⟩
    · obtain ⟨q, hq, hcarries⟩ := carries_of_mem_valuesAll ps h
      exact ⟨q, List.mem_cons_of_mem p hq, hcarries⟩

end

theorem params_render (b : Binding) (p : Predicate) : (p.render b).params = p.values :=
  bindings_tokens b 1 p

/-- All that the predicate carries is proper. -/
def IsProper (p : Predicate) : Prop :=
  ∀ v, p.Carries v → v.IsProper

theorem isProper_all {ps : List Predicate} (h : ∀ p ∈ ps, p.IsProper) : IsProper (.all ps) := by
  rintro v (_ | _ | _ | ⟨hp, hcarries⟩)
  exact h _ hp v hcarries

theorem isProper_any {ps : List Predicate} (h : ∀ p ∈ ps, p.IsProper) : IsProper (.any ps) := by
  rintro v (_ | _ | _ | _ | ⟨hp, hcarries⟩)
  exact h _ hp v hcarries

theorem isProper_like (field pattern : String) (escaped : Bool) :
    IsProper (.like field pattern escaped) := by
  rintro v (_ | ⟨rfl⟩)
  exact Value.isProper_string pattern

theorem isProper_ofCondition {c : Condition} (h : ∀ x ∈ c.scalars, x.isFinite = true) :
    IsProper (ofCondition c) := by
  cases c with
  | everything | nothing | isNull field => exact nofun
  | compare field comparison value =>
    rintro _ ⟨⟩
    exact Value.isProper_ofScalar (h value (List.mem_singleton.mpr rfl))
  | member field negated values =>
    rintro v (_ | _ | hv)
    obtain ⟨x, hx, rfl⟩ := List.mem_map.mp hv
    exact Value.isProper_ofScalar (h x hx)
  | like field pattern => exact isProper_like field pattern false
  | contains field tokens =>
    match tokens with
    | [] => exact nofun
    | [token] => exact isProper_like _ _ _
    | token :: next :: tokens =>
      have hlikes (tokens : List String) : ∀ p ∈ tokens.map fun token =>
          like field (String.ofList ('%' :: escapeLike token.toList ++ ['%'])) true, p.IsProper :=
        List.forall_mem_map.mpr fun _ _ => isProper_like _ _ _
      exact isProper_all (hlikes (token :: next :: tokens))

/-- **No predicate that is planned carries a null or an infinite number.** -/
theorem keeps_proper (table : String) : (backend table).Keeps IsProper where
  everything := nofun
  conjunction := isProper_all
  disjunction := isProper_any
  condition hc hp := by
    obtain rfl := Except.ok.inj hp
    exact isProper_ofCondition (Condition.isFinite_of_mem_scalars hc)
  nested hsubquery hp := by
    obtain rfl := Except.ok.inj hp
    rintro v (_ | _ | _ | _ | _ | hcarries)
    exact hsubquery v hcarries

end Predicate

end Sql

/-! ### Documents -/

mutual

/-- The values around the nulls in a value, from the front: for each null the array or the object
that it is an item or a member of, or what stands around the whole value. -/
def Json.nullHolders (holder : Option Json) : Json → List (Option Json)
  | .null => [holder]
  | .array items => nullHoldersItems (some (.array items)) items
  | .object members => nullHoldersMembers (some (.object members)) members
  | _ => []

def Json.nullHoldersItems (holder : Option Json) : List Json → List (Option Json)
  | [] => []
  | item :: items => item.nullHolders holder ++ nullHoldersItems holder items

def Json.nullHoldersMembers (holder : Option Json) : List (String × Json) → List (Option Json)
  | [] => []
  | (_, value) :: members => value.nullHolders holder ++ nullHoldersMembers holder members

end

/-- The field that a condition tests for null. -/
def Condition.testedForNull : Condition → List String
  | .isNull field => [field]
  | _ => []

/-- The code of the parameter is the one that tests for null. -/
def Param.testsNull (p : Param) : Bool :=
  Operation.ofCode? p.code == some (.search .isNull)

/-- The fields of the parameters that test for null. -/
def Param.testedForNull (ps : List Param) : List String :=
  (ps.filter testsNull).map (·.name)

theorem Param.testedForNull_flatMap (groups : List Group) :
    testedForNull (groups.flatMap Group.params) =
      (groups.map fun g => testedForNull g.params).flatten := by
  rw [testedForNull, List.filter_flatMap, List.map_flatMap]
  rfl

/-- What a parameter asks tests for null if its operation is the test, and then its own field. -/
theorem Condition.testedForNull_ofParam {operation : SearchOperation} {p : Param} {c : Condition}
    (h : ofParam operation p = .ok c) :
    c.testedForNull = if operation = .isNull then [p.name] else [] := by
  cases ofParam_eq_ok.mp h <;> rfl

namespace Document

open Json (nullHolders nullHoldersItems nullHoldersMembers)

/-- The nulls in a filter are those of tests for null of these fields, one for each, wherever the
filter stands. -/
def HasNulls (filter : Json) (fields : List String) : Prop :=
  ∀ holder, filter.nullHolders holder =
    fields.map fun field => some (ofCondition (.isNull field))

theorem nullHoldersItems_eq {filters : List Json} {fields : List (List String)}
    (h : List.Forall₂ HasNulls filters fields) (holder : Option Json) :
    nullHoldersItems holder filters =
      fields.flatten.map fun field => some (ofCondition (.isNull field)) := by
  induction h with
  | nil => rfl
  | cons hfilter _ ih =>
    rw [nullHoldersItems, hfilter holder, ih, List.flatten_cons, List.map_append]

theorem hasNulls_glueFilters {filters : List Json} {fields : List (List String)}
    (h : List.Forall₂ HasNulls filters fields) (glue : Glue) :
    HasNulls (glueFilters glue filters) fields.flatten := by
  intro holder
  have hitems := fun holder => nullHoldersItems_eq h holder
  match filters with
  | [] => exact hitems holder
  | [filter] =>
    rw [← hitems holder]
    simp [glueFilters, nullHoldersItems]
  | filter :: next :: filters =>
    rw [← hitems (some (.array (filter :: next :: filters)))]
    simp [glueFilters, nullHolders, nullHoldersMembers]

theorem hasNulls_regexTest (field : String) (regex : List Char) :
    HasNulls (regexTest field regex) [] := fun _ => rfl

theorem nullHolders_scalarJson {x : Scalar} (h : x.isFinite = true) (holder : Option Json) :
    (scalarJson x).nullHolders holder = [] := by
  cases x with
  | double x =>
    have hx : Json.ofDouble x = .float x := if_pos h
    rw [scalarJson, hx]
    rfl
  | _ => rfl

theorem nullHoldersItems_scalarJson {xs : List Scalar} (h : ∀ x ∈ xs, x.isFinite = true)
    (holder : Option Json) : nullHoldersItems holder (xs.map scalarJson) = [] := by
  induction xs with
  | nil => rfl
  | cons x xs ih =>
    obtain ⟨hx, hxs⟩ := List.forall_mem_cons.mp h
    rw [List.map_cons, nullHoldersItems, nullHolders_scalarJson hx, ih hxs]
    rfl

theorem hasNulls_ofCondition {c : Condition} (h : ∀ x ∈ c.scalars, x.isFinite = true) :
    HasNulls (ofCondition c) c.testedForNull := by
  intro holder
  cases c with
  | everything | nothing | isNull field | like field pattern => rfl
  | compare field comparison value =>
    simp [ofCondition, test, nullHolders, nullHoldersMembers, Condition.testedForNull,
      nullHolders_scalarJson (h value (List.mem_singleton.mpr rfl))]
  | member field negated values =>
    have hitems := nullHoldersItems_scalarJson h
    simpa [ofCondition, test, nullHolders, nullHoldersMembers, Condition.testedForNull,
      Condition.scalars] using hitems _
  | contains field tokens =>
    have hregexes : List.Forall₂ HasNulls
        (tokens.map fun token => regexTest field (Pattern.literalRegex token.toList))
        (tokens.map fun _ => []) := by
      rw [List.forall₂_map_left_iff, List.forall₂_map_right_iff, List.forall₂_same]
      exact fun token _ => hasNulls_regexTest _ _
    rw [ofCondition, hasNulls_glueFilters hregexes]
    simp [Condition.testedForNull]

/-! ### Requests -/

open Engine (planParam_eq_none planParams_eq_ok filterGroups_eq_ok planGroup_eq)

variable {config : Config}

theorem hasNulls_planParam {plan : Option (Group → Except FilterError Json)} {p : Param}
    {filter : Json} (h : (Engine.plain backend config).planParam plan p = .ok (some filter)) :
    HasNulls filter (Param.testedForNull [p]) := by
  have hpaging : p.paging? = none := by
    by_contra hpaging
    cases h.symm.trans (planParam_eq_none.mpr hpaging)
  have hget : (Overrides.get? {} p.name : Option (Override Json)) = none := rfl
  obtain ⟨operation, c, hoperation, hc, rfl⟩ := exists_condition_of_planParam hpaging hget h
  have hnulls := hasNulls_ofCondition (Condition.isFinite_of_mem_scalars hc)
  have hfields : c.testedForNull = Param.testedForNull [p] := by
    rw [Condition.testedForNull_ofParam hc]
    by_cases hnull : operation = .isNull <;>
      simp [Param.testedForNull, Param.testsNull, hoperation, hnull]
  rwa [hfields] at hnulls

/-- A paging parameter has no fragment, and does not test for null. -/
theorem testedForNull_of_planParam {plan : Option (Group → Except FilterError Json)} {p : Param}
    (h : (Engine.plain backend config).planParam plan p = .ok none) :
    Param.testedForNull [p] = [] := by
  have hpaging := planParam_eq_none.mp h
  have htests : p.testsNull = false := by
    rw [Param.testsNull, beq_eq_false_iff_ne]
    intro hnull
    rw [Param.paging?, Operation.pagingOfCode?, hnull] at hpaging
    exact hpaging rfl
  simp [Param.testedForNull, htests]

/-- The fragments of several parameters have the nulls of all of them. -/
theorem exists_hasNulls {plan : Option (Group → Except FilterError Json)} {ps : List Param}
    {fs : List (Option Json)}
    (h : List.Forall₂ (fun p f => (Engine.plain backend config).planParam plan p = .ok f) ps fs) :
    ∃ fields, List.Forall₂ HasNulls (fs.filterMap id) fields ∧
      fields.flatten = Param.testedForNull ps := by
  induction h with
  | nil => exact ⟨[], .nil, rfl⟩
  | @cons p f ps fs hp _ ih =>
    obtain ⟨fields, hparts, hfields⟩ := ih
    have hcons : Param.testedForNull (p :: ps) =
        Param.testedForNull [p] ++ Param.testedForNull ps := by
      rw [Param.testedForNull, ← List.singleton_append, List.filter_append, List.map_append]
      rfl
    rw [hcons, ← hfields]
    cases f with
    | none => exact ⟨fields, hparts, by rw [testedForNull_of_planParam hp, List.nil_append]⟩
    | some f => exact ⟨_ :: fields, .cons (hasNulls_planParam hp) hparts, rfl⟩

theorem hasNulls_filterGroup {g : Group} {filter : Json}
    (h : (Engine.plain backend config).filterGroup g = .ok filter) :
    HasNulls filter (Param.testedForNull g.params) := by
  rw [Engine.filterGroup, planGroup_eq] at h
  obtain ⟨fs, hfs, rfl⟩ := planParams_eq_ok.mp h
  obtain ⟨fields, hparts, hfields⟩ := exists_hasNulls (mapM_eq_ok.mp hfs)
  show HasNulls (backend.combine g.glue (fs.filterMap id)) _
  rw [combine_eq_glueFilters, ← hfields]
  exact hasNulls_glueFilters hparts g.glue

/-- **The nulls in a filter are the tests for null that the request asks for.** -/
theorem hasNulls_filter {r : Request} {filter : Json}
    (h : (Engine.plain backend config).filter r = .ok filter) :
    HasNulls filter (Param.testedForNull r.params) := by
  rw [Engine.filter_eq_filterGroups] at h
  obtain ⟨fs, hfs, rfl⟩ := filterGroups_eq_ok.mp h
  have hparts : List.Forall₂ HasNulls fs
      (r.toGrouped.groups.map fun g => Param.testedForNull g.params) := by
    rw [List.forall₂_map_right_iff]
    exact ((mapM_eq_ok.mp hfs).imp fun _ _ => hasNulls_filterGroup).flip
  show HasNulls (backend.combine r.toGrouped.glue fs) _
  rw [combine_eq_glueFilters, Request.params, Param.testedForNull_flatMap]
  exact hasNulls_glueFilters hparts r.toGrouped.glue

end Document

/-! ### Both backends -/

/-- **Only finite numbers reach the backends, and only the nulls that are asked for.** No value in a
SQL predicate is null, infinite or not a number, at any depth of subqueries, and so none is that the
text of the predicate binds. And the nulls in a document filter are, one by one and in order, the
values of tests for null: one test for each parameter with the code of that test. -/
theorem only_finite_values_and_asked_nulls (config : Config) (table : String) (r : Request) :
    (∀ p, (Engine.plain (Sql.Predicate.backend table) config).filter r = .ok p →
      (∀ v, p.Carries v → v.IsProper) ∧ ∀ b, ∀ v ∈ (p.render b).params, v.IsProper) ∧
    ∀ f, (Engine.plain Document.backend config).filter r = .ok f →
      f.nullHolders none =
        (r.params.filter Param.testsNull).map fun p => some (.object [(p.name, .null)]) := by
  constructor
  · intro p hp
    have hproper : p.IsProper := (Sql.Predicate.keeps_proper table).filter hp
    refine ⟨hproper, fun b v hv => hproper v ?_⟩
    rw [Sql.Predicate.params_render] at hv
    exact Sql.Predicate.carries_of_mem_values p hv
  · intro f hf
    rw [Document.hasNulls_filter hf none, Param.testedForNull, List.map_map]
    rfl

/-- A list of texts that read as no finite number inside a subquery, and another such text beside
tests for null. -/
theorem only_finite_values_and_asked_nulls_beside_infinite_texts :
    let half := Binary64.ofOrdinal false 0x3FE0000000000000
    let inner : Group :=
      ⟨[.withCode "b" "in" (.text "NaN,-inf"), .withCode "c" "lt" (.float half)], .or⟩
    let nested : Request := .flat ⟨[.withCode "a" "nst:in" (.group inner)], .and, none⟩
    let tests : Request := .flat
      ⟨[.bare "d" "isNull", .withCode "c" "eq" (.text "1e999"), .bare "e" "isNull"], .or, none⟩
    let p : Sql.Predicate := .subquery "a" (.member false) "rows"
      (.any [.member "b" false [.string "NaN", .string "-inf"], .compare "c" .less (.float half)])
    let f : Json := .object [("$or", .array [.object [("d", .null)],
      .object [("c", .object [("$eq", .string "1e999")])], .object [("e", .null)]])]
    (Engine.plain (Sql.Predicate.backend "rows") {}).filter nested = .ok p ∧
      (Engine.plain Document.backend {}).filter tests = .ok f ∧
      (∀ v, p.Carries v → v.IsProper) ∧
      f.nullHolders none = [some (.object [("d", .null)]), some (.object [("e", .null)])] := by
  intro half inner nested tests p f
  have hp : (Engine.plain (Sql.Predicate.backend "rows") {}).filter nested = .ok p := by
    unfold nested inner p half
    rfl
  have hf : (Engine.plain Document.backend {}).filter tests = .ok f := by
    unfold tests f
    decide +kernel
  refine ⟨hp, hf, ((only_finite_values_and_asked_nulls {} "rows" nested).1 p hp).1, ?_⟩
  rw [(only_finite_values_and_asked_nulls {} "rows" tests).2 f hf]
  unfold tests
  rfl

end FilterQuery
