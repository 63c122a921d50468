import FilterQuery.Sql.Predicate
import FilterQuery.Text.Lowercase

/-!
# What SQL answers

A predicate is evaluated on one row of a database, in the three truth values of SQL. A test of a
null is `UNKNOWN`; so is a test of values that do not compare. `AND`, `OR` and `NOT` carry
`UNKNOWN` on, and a query selects the rows on which its condition is `TRUE`. What a query selects
keeps its nulls, so that `NOT IN` is not `TRUE` beside a null unless nothing is selected at all.
-/

namespace FilterQuery.Sql

/-! ### Truth values -/

/-- A truth value of SQL. -/
inductive Truth where
  | true
  | false
  | unknown
deriving DecidableEq, Repr

def Truth.ofBool (b : Bool) : Truth :=
  if b then .true else .false

/-- `NOT`, if asked for. -/
def Truth.negate : (negated : Bool) → Truth → Truth
  | .true, .true => .false
  | .true, .false => .true
  | _, t => t

def Truth.and : Truth → Truth → Truth
  | .false, _ | _, .false => .false
  | .true, .true => .true
  | _, _ => .unknown

def Truth.or : Truth → Truth → Truth
  | .true, _ | _, .true => .true
  | .false, .false => .false
  | _, _ => .unknown

def Truth.any (ts : List Truth) : Truth :=
  ts.foldr Truth.or .false

/-! Only `TRUE` selects a row, so it matters when a truth value is `TRUE`; and below a `NOT`, when
it is `FALSE`. -/

@[simp] theorem Truth.ofBool_eq_true {b : Bool} : Truth.ofBool b = .true ↔ b := by
  cases b <;> simp [Truth.ofBool]

@[simp] theorem Truth.ofBool_eq_false {b : Bool} : Truth.ofBool b = .false ↔ ¬ b := by
  cases b <;> simp [Truth.ofBool]

@[simp] theorem Truth.negate_false (t : Truth) : t.negate Bool.false = t := by
  cases t <;> rfl

@[simp] theorem Truth.negate_unknown (negated : Bool) :
    Truth.unknown.negate negated = .unknown := by
  cases negated <;> rfl

theorem Truth.negate_ofBool (negated b : Bool) :
    (Truth.ofBool b).negate negated = .ofBool (b != negated) := by
  cases negated <;> cases b <;> rfl

theorem Truth.negate_true_eq_true {t : Truth} : t.negate Bool.true = .true ↔ t = .false := by
  cases t <;> simp [Truth.negate]

theorem Truth.and_eq_true {t u : Truth} : t.and u = .true ↔ t = .true ∧ u = .true := by
  cases t <;> cases u <;> simp [Truth.and]

theorem Truth.or_eq_true {t u : Truth} : t.or u = .true ↔ t = .true ∨ u = .true := by
  cases t <;> cases u <;> simp [Truth.or]

theorem Truth.or_eq_false {t u : Truth} : t.or u = .false ↔ t = .false ∧ u = .false := by
  cases t <;> cases u <;> simp [Truth.or]

theorem Truth.any_eq_true {ts : List Truth} : Truth.any ts = .true ↔ .true ∈ ts := by
  induction ts with
  | nil => simp [Truth.any]
  | cons t ts ih =>
    have hcons : Truth.any (t :: ts) = t.or (Truth.any ts) := rfl
    rw [hcons, Truth.or_eq_true, ih, List.mem_cons, eq_comm]

theorem Truth.any_eq_false {ts : List Truth} : Truth.any ts = .false ↔ ∀ t ∈ ts, t = .false := by
  induction ts with
  | nil => simp [Truth.any]
  | cons t ts ih =>
    have hcons : Truth.any (t :: ts) = t.or (Truth.any ts) := rfl
    rw [hcons, Truth.or_eq_false, ih, List.forall_mem_cons]

/-- Decided conditions are joined as decided conditions. -/
theorem Truth.any_map_ofBool {α : Type} (f : α → Bool) (xs : List α) :
    Truth.any (xs.map fun x => .ofBool (f x)) = .ofBool (xs.any f) := by
  induction xs with
  | nil => rfl
  | cons x xs ih =>
    show (Truth.ofBool (f x)).or (Truth.any (xs.map _)) = _
    rw [ih, List.any_cons]
    cases f x <;> cases xs.any f <;> rfl

/-! ### Comparing values -/

/-- The order of two values. Nulls and values of different kinds do not compare. -/
def Value.compare? : Value → Value → Option Ordering
  | .string s, .string t => some (compare s t)
  | .integer i, .integer j => some (compare i j)
  | .float x, .float y => x.compare? y
  | .boolean a, .boolean b => some (compare a b)
  | .timestamp i, .timestamp j => some (compare i j)
  | _, _ => none

def Value.test (c : Comparison) (v w : Value) : Truth :=
  match v.compare? w with
  | some o => .ofBool (c.accepts o)
  | none => .unknown

def Value.among (v : Value) (ws : List Value) : Truth :=
  .any (ws.map (v.test .equal))

theorem Value.among_eq_true {v : Value} {ws : List Value} :
    v.among ws = .true ↔ ∃ w ∈ ws, v.test .equal w = .true := by
  rw [Value.among, Truth.any_eq_true, List.mem_map]

theorem Value.among_eq_false {v : Value} {ws : List Value} :
    v.among ws = .false ↔ ∀ w ∈ ws, v.test .equal w = .false := by
  rw [Value.among, Truth.any_eq_false, List.forall_mem_map]

theorem Value.test_null (c : Comparison) (w : Value) : Value.null.test c w = .unknown := rfl

theorem Value.among_null {ws : List Value} (h : ws ≠ []) : Value.null.among ws = .unknown := by
  obtain ⟨w, ws, rfl⟩ := List.exists_cons_of_ne_nil h
  -- `UNKNOWN OR t` is `UNKNOWN`, as no later test is `TRUE`
  have hrest : Value.null.among ws ≠ .true := by
    intro htrue
    obtain ⟨v, -, hv⟩ := Value.among_eq_true.mp htrue
    simp [Value.test_null] at hv
  show Truth.unknown.or (Value.null.among ws) = .unknown
  cases hcase : Value.null.among ws with
  | true => exact absurd hcase hrest
  | false => rfl
  | unknown => rfl

/-! ### Patterns -/

inductive LikePart where
  | anyRun
  | anyOne
  | literal (c : Char)
deriving DecidableEq, Repr

/-- The parts of a pattern. Behind an escape character stands a wildcard or the escape character
again, which then stands for itself; anything else is no pattern. -/
def likeParts? (escape : Option Char) : List Char → Option (List LikePart)
  | [] => some []
  | [c] =>
    if escape = some c then none
    else if c = '%' then some [.anyRun]
    else if c = '_' then some [.anyOne]
    else some [.literal c]
  | c :: d :: cs =>
    if escape = some c then
      if d = c ∨ d = '%' ∨ d = '_' then (likeParts? escape cs).map (.literal d :: ·) else none
    else if c = '%' then (likeParts? escape (d :: cs)).map (.anyRun :: ·)
    else if c = '_' then (likeParts? escape (d :: cs)).map (.anyOne :: ·)
    else (likeParts? escape (d :: cs)).map (.literal c :: ·)

/-- Whether some end of a text passes a test. -/
def anyEnd (test : List Char → Bool) : List Char → Bool
  | [] => test []
  | c :: cs => test (c :: cs) || anyEnd test cs

/-- Whether a text is made of the parts of a pattern. -/
def likeFits : List LikePart → List Char → Bool
  | [] => List.isEmpty
  | .anyRun :: parts => anyEnd (likeFits parts)
  | .anyOne :: parts => fun
    | [] => false
    | _ :: cs => likeFits parts cs
  | .literal c :: parts => fun
    | [] => false
    | d :: cs => c == d && likeFits parts cs

/-- The truth value of `LOWER(v) LIKE pattern`, with the escape character or without. -/
def Value.likeLower (v : Value) (pattern : String) (escaped : Bool) : Truth :=
  match v with
  | .string s =>
    match likeParts? (if escaped then some likeEscape else none) pattern.toList with
    | some parts => .ofBool (likeFits parts (Text.lowercase s.toList))
    | none => .unknown
  | _ => .unknown

/-! ### Predicates -/

/-- A row: the value of each column. -/
abbrev Row := String → Value

/-- A database: the rows of each table. -/
abbrev Database := String → List Row

/-- The truth value of a comparison with what a scalar subquery selects. No row at all counts as a
null. More than one row is an error, which selects nothing either. -/
def Value.testSelected (c : Comparison) (v : Value) : (selected : List Value) → Truth
  | [w] => v.test c w
  | _ => .unknown

namespace Predicate

mutual

/-- The truth value of a predicate on a row. -/
def eval (db : Database) (row : Row) : Predicate → Truth
  | .everything => .true
  | .nothing => .false
  | .compare field c value => (row field).test c value
  | .like field pattern escaped => (row field).likeLower pattern escaped
  | .member field negated values =>
    if values = [] then .false else ((row field).among values).negate negated
  | .isNull field => .ofBool (row field = .null)
  | .all ps => evalAll db row ps
  | .any ps => evalAny db row ps
  | .subquery field operation table filter =>
    let selected := ((db table).filter fun r => filter.eval db r = .true).map (· field)
    match operation with
    | .isNull => .ofBool (row field = .null)
    | .member negated => ((row field).among selected).negate negated
    | .compare c => (row field).testSelected c selected

def evalAll (db : Database) (row : Row) : List Predicate → Truth
  | [] => .true
  | p :: ps => (p.eval db row).and (evalAll db row ps)

def evalAny (db : Database) (row : Row) : List Predicate → Truth
  | [] => .false
  | p :: ps => (p.eval db row).or (evalAny db row ps)

end

theorem evalAll_eq_true {db : Database} {row : Row} {ps : List Predicate} :
    evalAll db row ps = .true ↔ ∀ p ∈ ps, p.eval db row = .true := by
  induction ps with
  | nil => simp [evalAll]
  | cons p ps ih => rw [evalAll, Truth.and_eq_true, ih, List.forall_mem_cons]

theorem evalAny_eq_true {db : Database} {row : Row} {ps : List Predicate} :
    evalAny db row ps = .true ↔ ∃ p ∈ ps, p.eval db row = .true := by
  induction ps with
  | nil => simp [evalAny]
  | cons p ps ih =>
    rw [evalAny, Truth.or_eq_true, ih]
    simp

end Predicate

end FilterQuery.Sql
