import FilterQuery.Operation
import FilterQuery.Pattern
import FilterQuery.Typing

/-!
# Conditions

What one parameter asks of a row, with its value typed and ready to compare. Conditions are the
same for every backend; each backend says how it expresses one.
-/

namespace FilterQuery

/-- A condition on one row. -/
inductive Condition where
  | everything
  | nothing
  | compare (field : String) (c : Comparison) (value : Scalar)
  /-- The field equals a value of the list, or is not null and equals none. -/
  | member (field : String) (negated : Bool) (values : List Scalar)
  | isNull (field : String)
  | like (field pattern : String)
  /-- The field contains every token, all in lower case. -/
  | contains (field : String) (tokens : List String)
deriving DecidableEq, Inhabited

namespace Condition

/-- The value of a condition that needs one. -/
def requiredValue (p : Param) : Except FilterError ParamValue :=
  match p.value with
  | some v => .ok v
  | none => .error (.missingValue p.name)

/-- The pattern of a `like` value: in lower case, and between wildcards if it has none. -/
def likePattern (raw : String) : List Char :=
  let cs := raw.toList
  let pattern :=
    if cs.contains Pattern.wildcard then cs else Pattern.wildcard :: (cs ++ [Pattern.wildcard])
  Text.lowercase pattern

/-- The tokens of a `contains` value: its elements between commas, trimmed and in lower case,
without the blank ones. -/
def containsTokens (raw : String) : List String :=
  (((raw.toList.splitOn ',').map Text.trim).filter (· ≠ [])).map fun token =>
    String.ofList (Text.lowercase token)

/-- The condition that a parameter asks for with an operation. Equality and inequality need a
value; any other comparison without a value asks for nothing. An empty list has no members and
excludes every row in either sense. -/
def ofParam (operation : SearchOperation) (p : Param) : Except FilterError Condition :=
  match operation with
  | .compare c =>
    if p.value.isNone ∧ c ≠ .equal ∧ c ≠ .notEqual then .ok .everything
    else do .ok (.compare p.name c (← (← requiredValue p).toScalar))
  | .like => do .ok (.like p.name (String.ofList (likePattern (← requiredValue p).raw)))
  | .member negated => do
    match ← ParamValue.toScalars p.value with
    | [] => .ok .nothing
    | values => .ok (.member p.name negated values)
  | .isNull => .ok (.isNull p.name)
  | .contains => do .ok (.contains p.name (containsTokens (← requiredValue p).raw))

end Condition

end FilterQuery
