import FilterQuery.Request.Encode
import FilterQuery.Scalar

/-!
# Values bound in SQL

A value never becomes part of a statement's text. It is bound to a placeholder and sent beside it.
-/

namespace FilterQuery.Sql

/-- A bound value. -/
inductive Value where
  | string (s : String)
  | integer (i : Int)
  | float (x : Binary64)
  | boolean (b : Bool)
  | timestamp (i : Instant)
  | null
deriving DecidableEq, Inhabited

/-- The bound value of a scalar. -/
def Value.ofScalar : Scalar → Value
  | .string s => .string s
  | .long i => .integer i
  | .double x => .float x
  | .boolean b => .boolean b
  | .instant i => .timestamp i

/-- The name of the kind of a bound value. -/
def Value.kind : Value → String
  | .string _ => "string"
  | .integer _ => "integer"
  | .float _ => "float"
  | .boolean _ => "boolean"
  | .timestamp _ => "timestamp"
  | .null => "null"

/-- A bound value as JSON. -/
def Value.toJson : Value → Json
  | .string s => .string s
  | .integer i => .integer i
  | .float x => .ofDouble x
  | .boolean b => .bool b
  | .timestamp i => .string i.toJsonText
  | .null => .null

/-- A piece of SQL with the values of its placeholders, which are numbered from one. -/
structure Fragment where
  sql : String
  /-- The values in the order of their placeholders. -/
  params : List Value
deriving DecidableEq, Inhabited

namespace Fragment

/-- The placeholder with a number. -/
def placeholder (n : Nat) : String :=
  "?" ++ toString n

/-- The fragment with one more value, and the placeholder for it. The text is left alone. -/
def bind (f : Fragment) (v : Value) : Fragment × String :=
  let params := f.params ++ [v]
  ({ f with params }, placeholder params.length)

/-- Whether there is no text. -/
def isEmpty (f : Fragment) : Bool :=
  f.sql.isEmpty

/-- A fragment as JSON. -/
def toJson (f : Fragment) : Json :=
  .object [("sql", .string f.sql), ("params", .array (f.params.map Value.toJson))]

end Fragment

end FilterQuery.Sql
