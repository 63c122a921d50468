import FilterQuery.Memory.Predicate
import FilterQuery.Proofs.Engine.Composition
import FilterQuery.Proofs.Engine.Depth
import FilterQuery.Proofs.Engine.Requests
import FilterQuery.Proofs.Engine.Simulation
import FilterQuery.Sql.Predicate

/-!
# Who refuses a request for its depth

Planning asks in many places, and each has errors of its own. That of nesting too deep comes from
the engine where it has no level left, and carries the engine's own limit then
(`Engine.refuses_of_planGroup`). It comes from no condition and no page (`NotTooDeep`); but
overrides and backends are the caller's, and may answer with whatever error they like. Then it was
raised for a parameter that planning comes upon (`Engine.Raises`): what the registry has for other
fields, or would answer to other parameters, is of no account.
-/

namespace FilterQuery

open Memory (Predicate)

/-! ### Conditions and pages -/

section

variable {α β : Type}

/-- The outcome is not the error of nesting too deep. -/
def NotTooDeep (x : Except FilterError α) : Prop :=
  ∀ depth max, x ≠ .error (.nestingTooDeep depth max)

namespace NotTooDeep

theorem ok (a : α) : NotTooDeep (.ok a : Except FilterError α) := by
  intro depth max h
  cases h

theorem bind {x : Except FilterError α} {f : α → Except FilterError β} (hx : NotTooDeep x)
    (hf : ∀ a, NotTooDeep (f a)) : NotTooDeep (x >>= f) := by
  intro depth max h
  rcases bind_eq_error.mp h with h | ⟨a, -, h⟩
  · exact hx depth max h
  · exact hf a depth max h

theorem map {x : Except FilterError α} (hx : NotTooDeep x) (f : α → β) : NotTooDeep (x.map f) := by
  intro depth max h
  exact hx depth max (map_eq_error.mp h)

theorem mapM {f : α → Except FilterError β} (hf : ∀ a, NotTooDeep (f a)) (xs : List α) :
    NotTooDeep (xs.mapM f) := by
  intro depth max h
  obtain ⟨_, x, _, -, -, hx⟩ := mapM_eq_error.mp h
  exact hf x depth max hx

theorem foldlM {f : β → α → Except FilterError β} (hf : ∀ b a, NotTooDeep (f b a)) (xs : List α)
    (b : β) : NotTooDeep (xs.foldlM f b) := by
  intro depth max h
  obtain ⟨_, x, _, c, -, -, hx⟩ := foldlM_eq_error_iff.mp h
  exact hf c x depth max hx

end NotTooDeep

end

namespace PageAttribute

end PageAttribute

namespace Engine

variable {F : Type}

/-- For a parameter, what the engine is used with answers with an error: the override of its field,
or the backend, asked for its condition or for the comparison with its subquery. -/
inductive RaisesFor (e : Engine F) (p : Param) (error : FilterError) : Prop
  | override {o : Override F} :
    p.paging? = none → e.overrides.get? p.name = some o → o.build p = .error error →
    RaisesFor e p error
  | condition {operation : SearchOperation} {c : Condition} :
    p.paging? = none → e.overrides.get? p.name = none → e.config.stripMarker? p.code = none →
    Operation.ofCode p.code = .ok (.search operation) → Condition.ofParam operation p = .ok c →
    e.backend.condition c = .error error → RaisesFor e p error
  | nested {code : String} {operation : NestedOperation} {g : Group} {levels : Nat}
    {subquery : F} :
    p.paging? = none → e.overrides.get? p.name = none →
    e.config.stripMarker? p.code = some code → NestedOperation.ofCode code = .ok operation →
    nestedGroup operation p = .ok g → e.planGroup levels g = .ok subquery →
    e.backend.nested p.name operation subquery = .error error → RaisesFor e p error

/-- Planning a parameter comes upon one for which such an error is raised. -/
def Raises (e : Engine F) (p : Param) (error : FilterError) : Prop :=
  ∃ q, e.Reaches p q ∧ e.RaisesFor q error

/-- The error is about the engine's own limit, or was raised by somebody else for the parameter or
inside it. -/
def Refuses (e : Engine F) (p : Param) (depth max : Nat) : Prop :=
  (depth = e.config.maxNestingDepth + 1 ∧ max = e.config.maxNestingDepth) ∨
    e.Raises p (.nestingTooDeep depth max)

variable {e : Engine F} {levels : Nat} {p q : Param} {depth max : Nat}

/-- What is refused inside a parameter is refused for it. -/
theorem Refuses.head {ps : List Param} (hinner : e.inner? p = some ps) (hq : q ∈ ps)
    (h : e.Refuses q depth max) : e.Refuses p depth max := by
  refine h.imp_right ?_
  rintro ⟨r, hr, hraises⟩
  exact ⟨r, hr.head hinner hq, hraises⟩

/-- Without overrides, neither the backend in memory nor that of SQL has such an error of its
own. -/
theorem not_raises_of_plain (config : Config) (table : String) (p : Param) (depth max : Nat) :
    ¬ (plain Predicate.backend config).Raises p (.nestingTooDeep depth max) ∧
      ¬ (plain (Sql.Predicate.backend table) config).Raises p (.nestingTooDeep depth max) := by
  constructor
  · rintro ⟨q, -, h⟩
    cases h with
    | override _ ho _ => cases ho
    | @condition _ c _ _ _ _ _ hc =>
      cases c with
      | like field pattern =>
        have hc : Predicate.ofCondition (.like field pattern) = .error _ := hc
        rw [Predicate.ofCondition] at hc
        split at hc <;> cases hc
      | _ => cases hc
    | nested _ _ _ _ _ _ hn => cases hn
  · rintro ⟨q, -, h⟩
    cases h with
    | override _ ho _ => cases ho
    | condition _ _ _ _ _ hc => cases hc
    | nested _ _ _ _ _ _ hn => cases hn

end Engine

end FilterQuery
