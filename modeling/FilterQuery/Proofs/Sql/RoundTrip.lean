import FilterQuery.Proofs.Sql.Evaluation
import FilterQuery.Proofs.Sql.Rendering

/-!
# Reading SQL back: predicates

The last stage resolves a syntax tree: a column must belong to the row of the query that it stands
in, a placeholder stands for the value sent beside the text, and a subquery must select the field
that it is compared with. What is then left is a predicate.

A text says no more than a predicate means, so trivial junctions, empty lists and the filter of a
subquery behind a test for null are lost, `Predicate.normal`; none of them bears on a truth value
(`eval_normal`). Nothing else is lost: whatever names and values a predicate holds, its text has one
syntax tree, and the tree resolves to the predicate in normal form.
-/

namespace FilterQuery.Sql

/-! ### Resolution -/

/-- The field that an operand names, of the row under an alias. -/
def Operand.field? (row : String) : Operand → Option String
  | .column qualifier field => if qualifier = row then some field else none
  | _ => none

/-- The value that an operand stands for. Placeholders are numbered from one. -/
def Operand.value? (params : List Value) : Operand → Option Value
  | .placeholder (n + 1) => params[n]?
  | _ => none

def Operand.pattern? (params : List Value) (o : Operand) : Option String :=
  match o.value? params with
  | some (.string pattern) => some pattern
  | _ => none

/-- Whether an escape clause declares the one escape character used here. -/
def escaped? : Option String → Option Bool
  | none => some false
  | some s => if s = String.singleton likeEscape then some true else none

mutual

/-- The predicate that a tree states about the row under an alias. -/
def Expr.predicate? (params : List Value) (row : String) : Expr → Option Predicate
  | .compare (.number 1) .equal (.number 1) => some .everything
  | .compare (.number 1) .equal (.number 0) => some .nothing
  | .compare left c (.scalar query) => do
    let field ← left.field? row
    query.subquery? params field (.compare c)
  | .compare left c right => do
    let field ← left.field? row
    let value ← right.value? params
    return .compare field c value
  | .like (.lower left) false right escape => do
    let field ← left.field? row
    let pattern ← right.pattern? params
    let escaped ← escaped? escape
    return .like field pattern escaped
  | .like _ _ _ _ => none
  | .member left negated items => do
    let field ← left.field? row
    let values ← items.mapM (Operand.value? params)
    return .member field negated values
  | .among left negated query => do
    let field ← left.field? row
    query.subquery? params field (.member negated)
  | .isNull left false => (left.field? row).map .isNull
  | .isNull _ true => none
  | .all conditions => (Expr.predicates? params row conditions).map .all
  | .any conditions => (Expr.predicates? params row conditions).map .any

def Expr.predicates? (params : List Value) (row : String) : List Expr → Option (List Predicate)
  | [] => some []
  | e :: es => do
    let p ← e.predicate? params row
    let ps ← Expr.predicates? params row es
    return p :: ps

/-- The predicate that a comparison of a field with a query states. -/
def Query.subquery? (params : List Value) (field : String) (operation : NestedOperation) :
    Query → Option Predicate
  | .select item table qualifier condition => do
    let selected ← item.field? qualifier
    let filter ← condition.predicate? params qualifier
    if selected = field then some (.subquery field operation table filter) else none

end

namespace Predicate

/-! ### Normal forms -/

/-- Predicates under a glue: no predicate is a constant, and a single one stands for itself. -/
def junction : Glue → List Predicate → Predicate
  | .and, [] => .everything
  | .or, [] => .nothing
  | _, [p] => p
  | .and, ps => .all ps
  | .or, ps => .any ps

mutual

/-- What the text of a predicate keeps. -/
def normal : Predicate → Predicate
  | .member field negated values => if values = [] then .nothing else .member field negated values
  | .all ps => junction .and (normalAll ps)
  | .any ps => junction .or (normalAll ps)
  | .subquery field operation table filter =>
    if operation = .isNull then .isNull field else .subquery field operation table filter.normal
  | .everything => .everything
  | .nothing => .nothing
  | .compare field c value => .compare field c value
  | .like field pattern escaped => .like field pattern escaped
  | .isNull field => .isNull field

def normalAll : List Predicate → List Predicate
  | [] => []
  | p :: ps => p.normal :: normalAll ps

end

theorem eval_junction_and (db : Database) (row : Row) (ps : List Predicate) :
    (junction .and ps).eval db row = evalAll db row ps := by
  match ps with
  | [] => rfl
  | [p] =>
    show p.eval db row = (p.eval db row).and .true
    cases p.eval db row <;> rfl
  | _ :: _ :: _ => rfl

theorem eval_junction_or (db : Database) (row : Row) (ps : List Predicate) :
    (junction .or ps).eval db row = evalAny db row ps := by
  match ps with
  | [] => rfl
  | [p] =>
    show p.eval db row = (p.eval db row).or .false
    cases p.eval db row <;> rfl
  | _ :: _ :: _ => rfl

mutual

/-- **Normal forms mean the same**: a predicate and its normal form have one truth value. -/
theorem eval_normal (db : Database) (row : Row) :
    (p : Predicate) → p.normal.eval db row = p.eval db row
  | .everything | .nothing | .compare .. | .like .. | .isNull _ => rfl
  | .member field negated values => by
    by_cases hvalues : values = [] <;> simp [normal, eval, hvalues]
  | .all ps => by
    rw [normal, eval_junction_and, evalAll_normalAll]
    rfl
  | .any ps => by
    rw [normal, eval_junction_or, evalAny_normalAll]
    rfl
  | .subquery field operation table filter => by
    have hfilter : ∀ r, filter.normal.eval db r = filter.eval db r :=
      fun r => eval_normal db r filter
    by_cases hnull : operation = .isNull
    · subst hnull
      rfl
    · simp [normal, eval, hnull, hfilter]

theorem evalAll_normalAll (db : Database) (row : Row) :
    (ps : List Predicate) → evalAll db row (normalAll ps) = evalAll db row ps
  | [] => rfl
  | p :: ps => by
    rw [normalAll, evalAll, eval_normal db row p, evalAll_normalAll db row ps, evalAll]

theorem evalAny_normalAll (db : Database) (row : Row) :
    (ps : List Predicate) → evalAny db row (normalAll ps) = evalAny db row ps
  | [] => rfl
  | p :: ps => by
    rw [normalAll, evalAny, eval_normal db row p, evalAny_normalAll db row ps, evalAny]

end

/-! ### Trees of predicates resolve -/

/-- The values stand in a row among the parameters, from the placeholder `n` on. -/
def PlacedAt (params : List Value) (n : Nat) (values : List Value) : Prop :=
  ∃ before after, params = before ++ values ++ after ∧ n = before.length + 1

theorem PlacedAt.left {params : List Value} {n : Nat} {vs ws : List Value}
    (h : PlacedAt params n (vs ++ ws)) : PlacedAt params n vs := by
  obtain ⟨before, after, rfl, hn⟩ := h
  exact ⟨before, ws ++ after, by simp, hn⟩

theorem PlacedAt.right {params : List Value} {n : Nat} {vs ws : List Value}
    (h : PlacedAt params n (vs ++ ws)) : PlacedAt params (n + vs.length) ws := by
  obtain ⟨before, after, rfl, rfl⟩ := h
  exact ⟨before ++ vs, after, by simp, by simp; omega⟩

theorem PlacedAt.value? {params : List Value} {n : Nat} {v : Value} {vs : List Value}
    (h : PlacedAt params n (v :: vs)) : (Operand.placeholder n).value? params = some v := by
  obtain ⟨before, after, rfl, rfl⟩ := h
  simp [Operand.value?]

theorem PlacedAt.mapM_value? {params : List Value} {n : Nat} {vs : List Value}
    (h : PlacedAt params n vs) :
    ((List.range' n vs.length).map .placeholder).mapM (Operand.value? params) = some vs := by
  induction vs generalizing n with
  | nil => rfl
  | cons v vs ih =>
    have hrest : PlacedAt params (n + 1) vs := by
      have hright : PlacedAt params n ([v] ++ vs) := h
      exact hright.right
    rw [List.length_cons, List.range'_succ, List.map_cons, List.mapM_cons, h.value?, ih hrest]
    rfl

theorem field?_columnOperand (b : Binding) (field : String) :
    (columnOperand b field).field? b.qualifier = some field := by
  simp [columnOperand, Operand.field?]

theorem escaped?_likeEscape (escaped : Bool) :
    escaped? (if escaped then some (String.singleton likeEscape) else none) = some escaped := by
  cases escaped <;> simp [escaped?]

theorem predicates?_cons {params : List Value} {row : String} {e : Expr} {es : List Expr}
    {ps : List Predicate} (h : Expr.predicates? params row (e :: es) = some ps) :
    ∃ q qs, e.predicate? params row = some q ∧ Expr.predicates? params row es = some qs ∧
      ps = q :: qs := by
  rw [Expr.predicates?] at h
  obtain ⟨q, hq, h⟩ := Option.bind_eq_some_iff.mp h
  obtain ⟨qs, hqs, h⟩ := Option.bind_eq_some_iff.mp h
  exact ⟨q, qs, hq, hqs, (Option.some.inj h).symm⟩

/-- A junction of trees states the junction of what they state: the tree of a single condition is
the condition. -/
theorem predicate?_junctionExpr (glue : Glue) {params : List Value} {row : String}
    {es : List Expr} {ps : List Predicate} (h : Expr.predicates? params row es = some ps) :
    (junctionExpr glue es).predicate? params row = some (junction glue ps) := by
  match es with
  | [] =>
    obtain rfl : [] = ps := Option.some.inj h
    cases glue <;> rfl
  | [e] =>
    obtain ⟨q, qs, hq, hqs, rfl⟩ := predicates?_cons h
    obtain rfl : [] = qs := Option.some.inj hqs
    cases glue <;> exact hq
  | e :: f :: es =>
    obtain ⟨q, qs, -, htail, rfl⟩ := predicates?_cons h
    obtain ⟨r, rs, -, -, rfl⟩ := predicates?_cons htail
    cases glue <;> simp [junctionExpr, Expr.glued, Expr.predicate?, h, junction]

mutual

/-- **The tree of a predicate resolves to its normal form.** -/
theorem predicate?_expr {params : List Value} (b : Binding) (next n : Nat) :
    (p : Predicate) → PlacedAt params n p.values →
      (p.expr b next n).predicate? params b.qualifier = some p.normal
  | .everything, _ => rfl
  | .nothing, _ => rfl
  | .compare field c value, h => by
    have hvalue := h.value?
    simp [expr, Expr.predicate?, field?_columnOperand, hvalue, normal]
  | .like field pattern escaped, h => by
    have hpattern : (Operand.placeholder n).pattern? params = some pattern := by
      simp [Operand.pattern?, h.value?]
    simp [expr, Expr.predicate?, field?_columnOperand, hpattern, escaped?_likeEscape, normal]
  | .member field negated values, h => by
    rw [expr, normal]
    split
    · rfl
    · have hvalues : ((List.range' n values.length).map .placeholder).mapM
          (Operand.value? params) = some values := PlacedAt.mapM_value? h
      rw [Expr.predicate?, field?_columnOperand, hvalues]
      rfl
  | .isNull field, _ => by simp [expr, Expr.predicate?, field?_columnOperand, normal]
  | .all ps, h => predicate?_junctionExpr .and (predicates?_exprAll b next n ps h)
  | .any ps, h => predicate?_junctionExpr .or (predicates?_exprAll b next n ps h)
  | .subquery field operation table filter, h => by
    have hcolumn := field?_columnOperand b field
    by_cases hnull : operation = .isNull
    · subst hnull
      simp [expr, Expr.predicate?, hcolumn, normal]
    -- the filter binds the same values, and its column is of the row of the inner alias
    · have hplaced : PlacedAt params n filter.values := by simpa [values, hnull] using h
      have hfilter := predicate?_expr (.numbered table next) (next + 1) n filter hplaced
      have hselected := field?_columnOperand (.numbered table next) field
      have hquery : ∀ o, Query.subquery? params field o
          (.select (columnOperand (.numbered table next) field) table
            (Binding.numbered table next).qualifier
            (filter.expr (.numbered table next) (next + 1) n)) =
          some (.subquery field o table filter.normal) := by
        simp [Query.subquery?, hselected, hfilter]
      cases operation with
      | isNull => exact absurd rfl hnull
      | member negated => simp [expr, Expr.predicate?, hcolumn, hquery, normal]
      | compare c => simp [expr, Expr.predicate?, hcolumn, hquery, normal]

theorem predicates?_exprAll {params : List Value} (b : Binding) (next n : Nat) :
    (ps : List Predicate) → PlacedAt params n (valuesAll ps) →
      Expr.predicates? params b.qualifier (exprAll b next n ps) = some (normalAll ps)
  | [], _ => rfl
  | p :: ps, h => by
    have hp := predicate?_expr b next n p h.left
    have hps := predicates?_exprAll b (next + p.openings) (n + p.values.length) ps h.right
    simp [exprAll, Expr.predicates?, hp, hps, normalAll]

end

/-! ### The round trip -/

/-- A text has this syntax tree. -/
def Parses (sql : String) (e : Expr) : Prop :=
  ∃ ls, Lexeme.lex? sql = some ls ∧ Derives .disjunction ls e

theorem parses_render (b : Binding) (hb : Lexeme.IsName b.qualifier) (p : Predicate) :
    Parses (p.render b).sql (p.expr b 1 1) := by
  have hreadable := readable_tokens hb 1 p
  exact ⟨_, Token.lex?_layout hreadable.aliased hreadable.applied, derives_tokens b 1 1 p⟩

theorem Parses.unique {sql : String} {e f : Expr} (he : Parses sql e) (hf : Parses sql f) :
    e = f := by
  obtain ⟨ls, hls, he⟩ := he
  obtain ⟨ks, hks, hf⟩ := hf
  obtain rfl : ls = ks := Option.some.inj (hls.symm.trans hks)
  exact derives_unique he hf

/-- **Rendering is read back.** The text of a predicate has one syntax tree, and with the bound
values in place the tree states the predicate in normal form. -/
theorem render_reads_back (table : String) (p : Predicate) :
    ∃ e, (∀ f, Parses (p.render (.root table)).sql f ↔ f = e) ∧
      e.predicate? (p.render (.root table)).params (Binding.root table).qualifier =
        some p.normal := by
  have hname : Lexeme.IsName (Binding.root table).qualifier := Lexeme.isName_numbered table 0
  have hparses := parses_render (.root table) hname p
  refine ⟨p.expr (.root table) 1 1, fun f => ⟨fun hf => hf.unique hparses, ?_⟩, ?_⟩
  · rintro rfl
    exact hparses
  · have hparams : (p.render (.root table)).params = p.values := bindings_tokens _ 1 p
    rw [hparams]
    exact predicate?_expr (.root table) 1 1 p ⟨[], [], by simp, rfl⟩

end Predicate

end FilterQuery.Sql
