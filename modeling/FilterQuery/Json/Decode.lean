import FilterQuery.Json.Printer
import FilterQuery.Text.Quoted

/-!
# Reading data out of JSON

What a typed reader expects of a JSON value and how it says that the value is something else.
Records are read from an object, by member names, or from an array, by position. Members are read
in the order of the input, and the first that cannot be read is reported.
-/

namespace FilterQuery

/-- Why a JSON value does not hold the data expected of it. -/
inductive DecodeError where
  | invalidType (found expected : String)
  | invalidValue (found expected : String)
  | invalidLength (length : Nat) (expected : String)
  | missingField (name : String)
  | unknownField (name : String) (allowed : List String)
  | unknownVariant (name : String) (allowed : List String)
  /-- No alternative of a value without a tag fits. -/
  | noAlternative (name : String)
deriving DecidableEq, Repr

namespace DecodeError

/-- A name between backquotes. -/
def backquoted (name : String) : String :=
  "\x60" ++ name ++ "\x60"

/-- The names allowed, as the end of a sentence. -/
def oneOf : List String → String
  | [a] => backquoted a
  | [a, b] => backquoted a ++ " or " ++ backquoted b
  | names => "one of " ++ String.intercalate ", " (names.map backquoted)

/-- The text of an error. -/
def message : DecodeError → String
  | .invalidType found expected => "invalid type: " ++ found ++ ", expected " ++ expected
  | .invalidValue found expected => "invalid value: " ++ found ++ ", expected " ++ expected
  | .invalidLength length expected =>
    "invalid length " ++ toString length ++ ", expected " ++ expected
  | .missingField name => "missing field " ++ backquoted name
  | .unknownField name allowed =>
    "unknown field " ++ backquoted name ++ ", expected " ++ oneOf allowed
  | .unknownVariant name allowed =>
    "unknown variant " ++ backquoted name ++ ", expected " ++ oneOf allowed
  | .noAlternative name => "data did not match any variant of untagged enum " ++ name

end DecodeError

namespace Json

/-- What a value is, in the words of an error. -/
def describe : Json → String
  | .null => "null"
  | .bool b => "boolean " ++ DecodeError.backquoted (if b then "true" else "false")
  | .integer i => "integer " ++ DecodeError.backquoted (toString i)
  | .float x => "floating point " ++ DecodeError.backquoted (floatText x)
  | .string s => "string " ++ Text.quoted s
  | .array _ => "sequence"
  | .object _ => "map"

/-- The error of a value that is of another kind than expected. -/
def mismatch (j : Json) (expected : String) : DecodeError :=
  .invalidType j.describe expected

/-- Reads a text. -/
def text : Json → Except DecodeError String
  | .string s => .ok s
  | j => .error (j.mismatch "a string")

/-- Reads the items of an array. -/
def items : Json → Except DecodeError (List Json)
  | .array items => .ok items
  | j => .error (j.mismatch "a sequence")

/-- Reads an integer from `low` to `high`; `expected` names the range. -/
def integerIn (expected : String) (low high : Int) : Json → Except DecodeError Int
  | .integer i =>
    if low ≤ i ∧ i ≤ high then .ok i
    else .error (.invalidValue (describe (.integer i)) expected)
  | j => .error (j.mismatch expected)

/-- Reads a natural number up to `high`; `expected` names the range. -/
def natural (expected : String) (high : Nat) (j : Json) : Except DecodeError Nat :=
  (integerIn expected 0 high j).map Int.toNat

/-- Reads a value that may be absent, where `null` stands for absence. -/
def optional {α : Type} (read : Json → Except DecodeError α) : Json → Except DecodeError (Option α)
  | .null => .ok none
  | j => (read j).map some

/-- Reads one of some words, or an object with a single member of that name and the value `null`.
The words come with their meanings; `allowed` lists them for an error. -/
def word {α : Type} (meanings : List (String × α)) (j : Json) : Except DecodeError α :=
  let meaning (name : String) : Except DecodeError α :=
    match meanings.lookup name with
    | some a => .ok a
    | none => .error (.unknownVariant name (meanings.map (·.1)))
  match j with
  | .string name => meaning name
  | .object [(name, value)] => do
    let a ← meaning name
    if value.isNull then .ok a else .error (value.mismatch "unit")
  | .object _ => .error (.invalidValue "map" "map with a single key")
  | j => .error (j.mismatch "string or map")

/-! ### Records -/

/-- One field of a record under construction: its name and how a value is put in. -/
structure Field (σ : Type) where
  name : String
  put : σ → Json → Except DecodeError σ

/-- Reads an array into a record by position. Fields without an element keep what the record has;
elements without a field are refused once all fields are read. -/
def readElements {σ : Type} (length : Nat) :
    List (Field σ) → σ → List Json → Except DecodeError σ
  | _, record, [] => .ok record
  | [], _, _ :: _ => .error (.invalidLength length "fewer elements in array")
  | field :: fields, record, j :: rest => do
    readElements length fields (← field.put record j) rest

/-- Reads the members of an object into a record by name; members without a field are passed
over. -/
def readMembers {σ : Type} (fields : List (Field σ)) (record : σ) :
    List (String × Json) → Except DecodeError σ
  | [] => .ok record
  | (name, j) :: rest =>
    match fields.find? (·.name == name) with
    | some field => do readMembers fields (← field.put record j) rest
    | none => readMembers fields record rest

/-- Reads an array or an object into a record that begins as `record`. -/
def readRecord {σ : Type} (name : String) (fields : List (Field σ)) (record : σ) :
    Json → Except DecodeError σ
  | .array items => readElements items.length fields record items
  | .object members => readMembers fields record members
  | j => .error (j.mismatch ("struct " ++ name))

/-- The error of a record read from `j` that lacks a required field. The required fields of every
record come first, so an array that lacks one has as many elements as fields were found. -/
def lacking (j : Json) (name field : String) (fieldCount : Nat) : DecodeError :=
  match j with
  | .array items =>
    .invalidLength items.length
      ("struct " ++ name ++ " with " ++ toString fieldCount ++ " elements")
  | _ => .missingField field

end Json

end FilterQuery
