import FilterQuery.Scalar
import FilterQuery.Json.Printer

/-!
# Comparing stored values

How a field of a row compares with a scalar, and how two fields compare with each other. A text in
a row is read as the type of the scalar it is compared with, so that a stored text is a date where
dates are asked for and a plain text elsewhere. Values that cannot be compared fulfil no
comparison.
-/

namespace FilterQuery.Memory

/-- A text as a scalar of the type of another. Unlike the text of a request, a stored text may be a
double that is infinite or no number. -/
def textAs (s : String) : ScalarType → Option Scalar
  | .string => some (.string s)
  | .long => (Numeral.long? s).map .long
  | .double => (Binary64.read? s).map .double
  | .boolean => (readBoolean? s).map .boolean
  | .instant => (Instant.read? s).map .instant

/-- A stored value as a scalar that can be compared with one of type `target`. -/
def fieldAs (field : Json) (target : ScalarType) : Option Scalar :=
  match field with
  | .integer i => some (if Numeral.isLong i then .long i else .double (.ofInt i))
  | .float x => some (.double x)
  | .bool b => some (.boolean b)
  | .string s => textAs s target
  | _ => none

/-- The order of a stored value and a scalar. -/
def compareField (field : Json) (target : Scalar) : Option Ordering :=
  (fieldAs field target.type).bind (·.compare? target)

/-- The order of two stored values of one kind. Longs are compared exactly and other pairs of
numbers as doubles; two texts that are both instants are compared as instants, and else by code
points. -/
def compareFields (a b : Json) : Option Ordering :=
  match a, b with
  | .string s, .string t =>
    match Instant.read? s, Instant.read? t with
    | some i, some j => some (compare i j)
    | _, _ => some (compare s t)
  | .bool a, .bool b => some (compare a b)
  | .integer i, .integer j =>
    if Numeral.isLong i && Numeral.isLong j then some (compare i j)
    else (Binary64.ofInt i).compare? (Binary64.ofInt j)
  | a, b => do (← a.asDouble?).compare? (← b.asDouble?)

/-- The text of a stored scalar, to look for patterns in. -/
def fieldText? : Json → Option String
  | .string s => some s
  | .integer i => some (toString i)
  | .float x => some (Json.floatText x)
  | .bool b => some (if b then "true" else "false")
  | _ => none

/-- A field of a row, unless it is missing or null. -/
def field? (row : Json) (name : String) : Option Json :=
  (row.member? name).filter fun value => !value.isNull

end FilterQuery.Memory
