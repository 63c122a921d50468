import FilterQuery.Json.Basic
import FilterQuery.Text.Lowercase
import FilterQuery.Time.Instant

/-!
# Scalars

The values that conditions compare: longs, doubles, booleans, instants and texts. A text is read as
a scalar of a type by the rules of that type, and two scalars are ordered if they are of one type
or both numbers.
-/

namespace FilterQuery

/-- The type of a scalar. -/
inductive ScalarType where
  /-- 64-bit integers. -/
  | long
  /-- Finite doubles. -/
  | double
  | boolean
  | instant
  | string
deriving DecidableEq, Repr, Inhabited

/-- The types in the order in which they are tried on a value. -/
def ScalarType.all : List ScalarType :=
  [.long, .double, .boolean, .instant, .string]

/-- The name of a type. -/
def ScalarType.name : ScalarType → String
  | .long => "long"
  | .double => "double"
  | .boolean => "boolean"
  | .instant => "instant"
  | .string => "string"

/-- A value with its type. -/
inductive Scalar where
  | string (s : String)
  | long (i : Int)
  | double (x : Binary64)
  | boolean (b : Bool)
  | instant (i : Instant)
deriving DecidableEq, Inhabited

/-- The words that stand for booleans, in lower case. -/
def booleanWords : List (String × Bool) :=
  [("true", true), ("yes", true), ("on", true), ("y", true), ("t", true),
    ("false", false), ("no", false), ("off", false), ("n", false), ("f", false)]

/-- Reads one of the words for a boolean, in any case. -/
def readBoolean? (s : String) : Option Bool :=
  booleanWords.lookup (String.ofList (Text.lowercase s.toList))

/-- Reads a text as a scalar of a type. Every text is a string. -/
def ScalarType.read? (t : ScalarType) (s : String) : Option Scalar :=
  match t with
  | .long => (Numeral.long? s).map .long
  | .double => (Binary64.readFinite? s).map .double
  | .boolean => (readBoolean? s).map .boolean
  | .instant => (Instant.read? s).map .instant
  | .string => some (.string s)

namespace Scalar

/-- The type of a scalar. -/
def type : Scalar → ScalarType
  | .string _ => .string
  | .long _ => .long
  | .double _ => .double
  | .boolean _ => .boolean
  | .instant _ => .instant

/-- The order of scalars. Texts are ordered by code points, and a long meets a double as the double
nearest to it. Scalars of other pairs of types are not comparable. -/
def compare? : Scalar → Scalar → Option Ordering
  | .string a, .string b => some (compare a b)
  | .long a, .long b => some (compare a b)
  | .long a, .double b => (Binary64.ofInt a).compare? b
  | .double a, .long b => a.compare? (Binary64.ofInt b)
  | .double a, .double b => a.compare? b
  | .boolean a, .boolean b => some (compare a b)
  | .instant a, .instant b => some (compare a b)
  | _, _ => none

/-- Equality of scalars of one type; doubles are equal as numbers. -/
def agrees : Scalar → Scalar → Bool
  | .double x, .double y => x.agrees y
  | a, b => a == b

/-- A scalar as JSON, without its type. -/
def toJson : Scalar → Json
  | .string s => .string s
  | .long i => .integer i
  | .double x => .ofDouble x
  | .boolean b => .bool b
  | .instant i => .string i.toJsonText

/-- The plain text of a scalar. -/
def toText : Scalar → String
  | .string s => s
  | .long i => toString i
  | .double x => x.toText
  | .boolean b => if b then "true" else "false"
  | .instant i => i.toText

end Scalar

end FilterQuery
