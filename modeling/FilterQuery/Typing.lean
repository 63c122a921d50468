import FilterQuery.FilterError
import FilterQuery.Request.Decode
import FilterQuery.Request.Encode
import FilterQuery.Text.Blank

/-!
# Typing the values of a request

A value that came as text takes the first type that accepts the text; any other scalar keeps its
type. A text that is an instant is never accepted as a string, so the order of the types could put
strings anywhere after longs without losing an instant.

A list takes its type from its first element alone.
-/

namespace FilterQuery

/-- The text of a value as it came in. -/
def ParamValue.raw : ParamValue → String
  | .bool b => if b then "true" else "false"
  | .integer i => toString i
  | .float x => x.toText
  | .text s => s
  | .instant i => i.toText
  | .group g => g.toJson.compact
  | .structured j => j.compact

/-- The group that the value of a nested operation is, if it is one. -/
def ParamValue.asGroup : ParamValue → Except NestedFault Group
  | .group g => .ok g
  | .structured j => (Group.ofJson j).mapError .malformed
  | v => .error (.scalar v.raw)

namespace ScalarType

/-- Whether a text is accepted as a value of a type. An instant is not accepted as a string. -/
def acceptsText (t : ScalarType) (s : String) : Bool :=
  match t with
  | .string => (Instant.read? s).isNone
  | t => (t.read? s).isSome

/-- Whether a value is accepted as a value of a type. -/
def accepts : ScalarType → ParamValue → Bool
  | .long, .integer _ => true
  | .double, .float x => x.isFinite
  | .boolean, .bool _ => true
  | .instant, .instant _ => true
  | t, .text s => t.acceptsText s
  | _, _ => false

/-- The scalar of a type that a value stands for. An integer also stands for a double. -/
def cast? : ScalarType → ParamValue → Option Scalar
  | .long, .integer i => some (.long i)
  | .double, .float x => if x.isFinite then some (.double x) else none
  | .double, .integer i => some (.double (.ofInt i))
  | .boolean, .bool b => some (.boolean b)
  | .instant, .instant i => some (.instant i)
  | t, .text s => t.read? s
  | _, _ => none

/-- The scalar of a type that a value must stand for. -/
def cast (t : ScalarType) (v : ParamValue) : Except FilterError Scalar :=
  match t.cast? v with
  | some s => .ok s
  | none => .error (.castFailed v.raw t)

/-- The first type that accepts a value. -/
def infer? (v : ParamValue) : Option ScalarType :=
  all.find? (·.accepts v)

/-- The first type that accepts a value, which must have one. -/
def infer (v : ParamValue) : Except FilterError ScalarType :=
  match infer? v with
  | some t => .ok t
  | none => .error (.noMatchingType v.raw)

end ScalarType

/-- Reads a scalar from JSON, where a text is a string whatever it looks like. -/
def Scalar.ofJson : Json → Except DecodeError Scalar
  | .string s => .ok (.string s)
  | .integer i => .ok (if Numeral.isLong i then .long i else .double (.ofInt i))
  | .float x => .ok (.double x)
  | .bool b => .ok (.boolean b)
  | _ => .error (.noAlternative "TypedValue")

/-- Reads the name of a type. -/
def ScalarType.ofJson : Json → Except DecodeError ScalarType :=
  Json.word (ScalarType.all.map fun t => (t.name, t))

/-- The scalar that a value stands for. -/
def ParamValue.toScalar (v : ParamValue) : Except FilterError Scalar :=
  match v with
  | .float x =>
    if x.isFinite then .ok (.double x) else .error (.nonFiniteNumber x.toText)
  | v => do (← ScalarType.infer v).cast v

/-- The elements of a list in text. -/
def listElements (s : String) : List ParamValue :=
  (s.toList.splitOn ',').map fun element => .text (String.ofList element)

/-- The scalars that a value lists. A text is split at commas, and all its elements are cast to the
type of the first; an absent or blank value lists nothing, and a scalar lists itself. -/
def ParamValue.toScalars : Option ParamValue → Except FilterError (List Scalar)
  | none => .ok []
  | some (.text s) =>
    if Text.isAllBlank s then .ok []
    else
      match listElements s with
      | [] => .ok []
      | first :: rest => do
        let type ← ScalarType.infer first
        (first :: rest).mapM type.cast
  | some v => do .ok [← v.toScalar]

end FilterQuery
