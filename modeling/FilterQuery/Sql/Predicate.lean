import FilterQuery.Backend
import FilterQuery.Sql.Token

/-!
# SQL predicates

A predicate names fields and no aliases. It is written against a bound table; a subquery binds its
table to a fresh alias and writes its own filter against that, so that nothing inside a subquery
refers to the row outside.
-/

namespace FilterQuery.Sql

/-- A condition on one row of a table. -/
inductive Predicate where
  | everything
  | nothing
  | compare (field : String) (c : Comparison) (value : Value)
  /-- The field in lower case fits a pattern, with or without an escape character. -/
  | like (field pattern : String) (escaped : Bool)
  | member (field : String) (negated : Bool) (values : List Value)
  | isNull (field : String)
  | all (predicates : List Predicate)
  | any (predicates : List Predicate)
  /-- The field compares so with the same field of the rows of a table that fulfil a filter. -/
  | subquery (field : String) (operation : NestedOperation) (table : String) (filter : Predicate)
deriving Inhabited

namespace Predicate

/-! ### Aliases -/

mutual

/-- How many aliases the text of a predicate opens: one for each subquery that is written out. -/
def openings : Predicate → Nat
  | .all ps => openingsAll ps
  | .any ps => openingsAll ps
  | .subquery _ operation _ filter => if operation = .isNull then 0 else 1 + filter.openings
  | _ => 0

/-- How many aliases the texts of predicates open together. -/
def openingsAll : List Predicate → Nat
  | [] => 0
  | p :: ps => p.openings + openingsAll ps

end

/-! ### Tokens -/

/-- Tokens between brackets. -/
def bracketed (tokens : List Token) : List Token :=
  .opening :: tokens ++ [.closing]

/-- Lists of tokens, one after the other with a token between. -/
def separated (separator : Token) (parts : List (List Token)) : List Token :=
  [separator].intercalate parts

/-- A condition that is the same for every row. -/
def constantTokens (holds : Bool) : List Token :=
  [.number 1, .operator .equal, .number (if holds then 1 else 0)]

/-- Several conditions under a glue: a constant if there are none, a single one as it is, and
several each between brackets. -/
def junctionTokens (glue : Glue) : List (List Token) → List Token
  | [] => constantTokens (glue = .and)
  | [part] => part
  | parts =>
    separated (.keyword (match glue with | .and => .and | .or => .or)) (parts.map bracketed)

/-- The test for null. -/
def nullTokens (b : Binding) (field : String) : List Token :=
  [.column b field, .keyword .is, .keyword .null]

/-- The test for membership up to its list. -/
def memberTokens (b : Binding) (field : String) (negated : Bool) : List Token :=
  .column b field :: (if negated then [.keyword .not] else []) ++ [.keyword .in]

mutual

/-- The tokens of a predicate about the row of `b`. The aliases it opens are numbered from
`next`. -/
def tokens (b : Binding) (next : Nat) : Predicate → List Token
  | .everything => constantTokens true
  | .nothing => constantTokens false
  | .compare field c value => [.column b field, .operator c, .bound value]
  | .like field pattern escaped =>
    .keyword .lower :: bracketed [.column b field] ++
      [.keyword .like, .bound (.string pattern)] ++
      (if escaped then [.keyword .escape, .escapeMark] else [])
  | .member field negated values =>
    if values = [] then constantTokens false
    else memberTokens b field negated ++
      bracketed (separated .comma (values.map fun v => [.bound v]))
  | .isNull field => nullTokens b field
  | .all ps => junctionTokens .and (tokensAll b next ps)
  | .any ps => junctionTokens .or (tokensAll b next ps)
  | .subquery field operation table filter =>
    let inner := Binding.numbered table next
    let select := bracketed
      ([.keyword .select, .column inner field, .keyword .from, .table inner, .keyword .where] ++
        filter.tokens inner (next + 1))
    match operation with
    | .isNull => nullTokens b field
    | .member negated => memberTokens b field negated ++ select
    | .compare c => [.column b field, .operator c] ++ select

/-- The tokens of each of several predicates about the row of `b`. -/
def tokensAll (b : Binding) (next : Nat) : List Predicate → List (List Token)
  | [] => []
  | p :: ps => p.tokens b next :: tokensAll b (next + p.openings) ps

end

/-- The text of a predicate about the row of `b`, with its bound values. -/
def render (b : Binding) (p : Predicate) : Fragment :=
  Token.fragment (p.tokens b 1)

/-! ### As a backend -/

/-- The predicate of a condition. -/
def ofCondition : Condition → Predicate
  | .everything => .everything
  | .nothing => .nothing
  | .compare field c value => .compare field c (.ofScalar value)
  | .member field negated values => .member field negated (values.map .ofScalar)
  | .isNull field => .isNull field
  | .like field pattern => .like field pattern false
  | .contains field tokens =>
    let likes := tokens.map fun token =>
      Predicate.like field (String.ofList ('%' :: escapeLike token.toList ++ ['%'])) true
    match likes with
    | [] => .everything
    | [single] => single
    | likes => .all likes

/-- Filters as predicates on a table, whose subqueries select from the same table. -/
def backend (table : String) : Backend Predicate where
  condition c := .ok (ofCondition c)
  everything := .everything
  nothing := .nothing
  conjunction := .all
  disjunction := .any
  nested field operation subquery := .ok (.subquery field operation table subquery)

end Predicate

end FilterQuery.Sql
