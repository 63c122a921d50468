import FilterQuery.Backend
import FilterQuery.Memory.Comparison

/-!
# Filters on rows in memory

A filter is evaluated on one row of a collection. Subqueries look through the whole collection, and
their own filter sees only the row that they are looking at. A field that is missing or null
fulfils nothing but the test for null.
-/

namespace FilterQuery.Memory

/-- A filter on the rows of a collection. -/
inductive Predicate where
  | condition (c : Condition)
  | all (predicates : List Predicate)
  | any (predicates : List Predicate)
  /-- The field compares so with the same field of the rows that fulfil a filter. -/
  | nested (field : String) (operation : NestedOperation) (subquery : Predicate)
deriving Inhabited

/-- Whether a row fulfils a condition. -/
def fulfils (row : Json) : Condition → Bool
  | .everything => true
  | .nothing => false
  | .compare field c value =>
    ((field? row field).bind (compareField · value)).any c.accepts
  | .member field negated values =>
    (field? row field).any fun stored =>
      values.any (fun value => compareField stored value == some .eq) != negated
  | .isNull field => (field? row field).isNone
  | .like field pattern =>
    ((field? row field).bind fieldText?).any fun text =>
      Pattern.fits pattern.toList text.toList
  | .contains field tokens =>
    match (field? row field).bind fieldText? with
    | none => tokens.isEmpty
    | some text =>
      let text := Text.lowercase text.toList
      tokens.all fun token => Pattern.occursIn token.toList text

/-- Whether a value stands in a nested operation to the values that a subquery selects. A
comparison needs exactly one selected value. -/
def holdsOfSelected (operation : NestedOperation) (outer : Json) (selected : List Json) : Bool :=
  match operation with
  | .isNull => false
  | .member negated =>
    selected.any (fun value => compareFields outer value == some .eq) != negated
  | .compare c =>
    match selected with
    | [value] => (compareFields outer value).any c.accepts
    | _ => false

namespace Predicate

mutual

/-- Whether a row of a collection fulfils a filter. -/
def holds (rows : List Json) (row : Json) : Predicate → Bool
  | .condition c => fulfils row c
  | .all ps => holdsAll rows row ps
  | .any ps => holdsAny rows row ps
  | .nested field operation subquery =>
    match operation, field? row field with
    | .isNull, outer => outer.isNone
    | _, none => false
    | operation, some outer =>
      holdsOfSelected operation outer
        ((rows.filter fun candidate => subquery.holds rows candidate).filterMap (field? · field))

/-- Whether a row fulfils all of several filters. -/
def holdsAll (rows : List Json) (row : Json) : List Predicate → Bool
  | [] => true
  | p :: ps => p.holds rows row && holdsAll rows row ps

/-- Whether a row fulfils one of several filters. -/
def holdsAny (rows : List Json) (row : Json) : List Predicate → Bool
  | [] => false
  | p :: ps => p.holds rows row || holdsAny rows row ps

end

/-- The filter of a condition. A pattern whose matcher is reckoned too large is refused. -/
def ofCondition (c : Condition) : Except FilterError Predicate :=
  match c with
  | .like _ pattern =>
    if Pattern.matcherBytes pattern.toList ≤ Pattern.matcherLimit then .ok (.condition c)
    else .error (.patternTooLarge pattern Pattern.matcherLimit)
  | c => .ok (.condition c)

/-- Filters evaluated in memory. -/
def backend : Backend Predicate where
  condition := ofCondition
  everything := .condition .everything
  nothing := .condition .nothing
  conjunction := .all
  disjunction := .any
  nested field operation subquery := .ok (.nested field operation subquery)

end Predicate

end FilterQuery.Memory
