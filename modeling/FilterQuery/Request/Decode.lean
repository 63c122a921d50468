import FilterQuery.Request.Basic
import FilterQuery.Json.Decode

/-!
# Requests from JSON

Readers of the wire form. Every record is read from an object or from an array of its fields in
order. The value of a condition is never refused: what is neither a scalar nor readable as a group
is kept as it is.
-/

namespace FilterQuery

/-- Reads a glue. -/
def Glue.ofJson : Json → Except DecodeError Glue :=
  Json.word [("AND", .and), ("and", .and), ("OR", .or), ("or", .or)]

/-- A word that is no glue. -/
structure UnknownGlue where
  text : String
deriving DecidableEq, Repr

/-- The text of the error. -/
def UnknownGlue.message (e : UnknownGlue) : String :=
  "unknown glue operation: " ++ e.text

/-- The glue whose word this is, in any case. No character outside ASCII has an upper case with the
letters of these words, so that the case of ASCII letters is all that counts. -/
def Glue.ofText (s : String) : Except UnknownGlue Glue :=
  match String.ofList (s.toList.map Char.toUpper) with
  | "AND" => .ok .and
  | "OR" => .ok .or
  | _ => .error ⟨s⟩

/-- The members that a group can have. -/
def Group.memberNames : List String := ["baseSearchParams", "internalGlue"]

/-- The fields of a condition read so far. -/
structure Param.Draft where
  name : Option String := none
  value : Option ParamValue := none
  operation : Option String := none

/-- The condition that a draft holds, if it has a name. -/
def Param.Draft.finish (j : Json) (d : Param.Draft) : Except DecodeError Param :=
  match d.name with
  | some name => .ok ⟨name, d.value, d.operation⟩
  | none => .error (j.lacking "BaseSearchParam" "name" 3)

/-- The value, where `null` stands for no value. -/
def ParamValue.unlessNull : ParamValue → Option ParamValue
  | .structured .null => none
  | v => some v

mutual

/-- Reads a value. A number that is no long is a double, and an array or object that cannot be read
as a group stays what it is. -/
def ParamValue.ofJson : Json → ParamValue
  | .null => .structured .null
  | .bool b => .bool b
  | .integer i => if Numeral.isLong i then .integer i else .float (.ofInt i)
  | .float x => .float x
  | .string s => .text s
  | .array items =>
    match Group.ofItems items with
    | .ok g => .group g
    | .error _ => .structured (.array items)
  | .object members =>
    match Group.ofMembers members default with
    | .ok g => .group g
    | .error _ => .structured (.object members)

/-- Reads a group from an array. -/
def Group.ofItems : List Json → Except DecodeError Group
  | [] => .ok default
  | [params] => do .ok ⟨← Param.listOfJson params, .and⟩
  | [params, glue] => do .ok ⟨← Param.listOfJson params, ← Glue.ofJson glue⟩
  | params :: glue :: rest => do
    let _ ← Param.listOfJson params
    let _ ← Glue.ofJson glue
    .error (.invalidLength (rest.length + 2) "fewer elements in array")

/-- Reads a group from the members of an object, on top of what is known of it. -/
def Group.ofMembers : List (String × Json) → Group → Except DecodeError Group
  | [], g => .ok g
  | (name, j) :: rest, g =>
    if name = "baseSearchParams" then do
      Group.ofMembers rest { g with params := ← Param.listOfJson j }
    else if name = "internalGlue" then do
      Group.ofMembers rest { g with glue := ← Glue.ofJson j }
    else .error (.unknownField name Group.memberNames)

/-- Reads a list of conditions. -/
def Param.listOfJson : Json → Except DecodeError (List Param)
  | .array items => Param.allOfJson items
  | j => .error (j.mismatch "a sequence")

/-- Reads conditions one by one. -/
def Param.allOfJson : List Json → Except DecodeError (List Param)
  | [] => .ok []
  | j :: rest => do
    let p ← Param.ofJson j
    .ok (p :: (← Param.allOfJson rest))

/-- Reads a condition. -/
def Param.ofJson : Json → Except DecodeError Param
  | .array items => do (← Param.draftOfItems items).finish (.array items)
  | .object members => do (← Param.draftOfMembers members {}).finish (.object members)
  | j => .error (j.mismatch "struct BaseSearchParam")

/-- Reads the fields of a condition from an array. -/
def Param.draftOfItems : List Json → Except DecodeError Param.Draft
  | [] => .ok {}
  | [name] => do .ok { name := ← name.text }
  | [name, value] => do
    .ok { name := ← name.text, value := (ParamValue.ofJson value).unlessNull }
  | [name, value, operation] => do
    .ok { name := ← name.text, value := (ParamValue.ofJson value).unlessNull,
          operation := ← operation.optional Json.text }
  | name :: _ :: operation :: rest => do
    let _ ← name.text
    let _ ← operation.optional Json.text
    .error (.invalidLength (rest.length + 3) "fewer elements in array")

/-- Reads the fields of a condition from the members of an object, on top of what is known of
them. -/
def Param.draftOfMembers : List (String × Json) → Param.Draft → Except DecodeError Param.Draft
  | [], d => .ok d
  | (name, j) :: rest, d =>
    if name = "name" then do
      Param.draftOfMembers rest { d with name := ← j.text }
    else if name = "value" then
      Param.draftOfMembers rest { d with value := (ParamValue.ofJson j).unlessNull }
    else if name = "operation" then do
      Param.draftOfMembers rest { d with operation := ← j.optional Json.text }
    else Param.draftOfMembers rest d

end

/-- Reads a group. -/
def Group.ofJson : Json → Except DecodeError Group
  | .array items => Group.ofItems items
  | .object members => Group.ofMembers members default
  | j => .error (j.mismatch "struct ComplexSearchParam")

/-- Reads what a request says about its page. -/
def PageAttribute.ofJson : Json → Except DecodeError PageAttribute :=
  Json.readRecord "PageAttribute"
    [⟨"limit", fun p j => do
        .ok { p with limit := ← j.optional (Json.natural "u32" Numeral.limitMax) }⟩,
      ⟨"offset", fun p j => do
        .ok { p with offset := ← j.optional (Json.natural "u64" Numeral.countMax) }⟩,
      ⟨"sortBy", fun p j => do .ok { p with sortBy := ← j.optional Json.text }⟩]
    {}

/-- Reads a flat request. -/
def FlatRequest.ofJson : Json → Except DecodeError FlatRequest :=
  Json.readRecord "CommonOperationShell"
    [⟨"baseSearchParams", fun r j => do .ok { r with params := ← Param.listOfJson j }⟩,
      ⟨"glue", fun r j => do .ok { r with glue := ← Glue.ofJson j }⟩,
      ⟨"pageAttribute", fun r j => do .ok { r with page := ← j.optional PageAttribute.ofJson }⟩]
    {}

/-- Reads a grouped request. -/
def GroupedRequest.ofJson : Json → Except DecodeError GroupedRequest :=
  Json.readRecord "MultipleOperationShell"
    [⟨"search", fun r j => do .ok { r with groups := ← (← j.items).mapM Group.ofJson }⟩,
      ⟨"externalGlue", fun r j => do .ok { r with glue := ← Glue.ofJson j }⟩,
      ⟨"pageAttribute", fun r j => do .ok { r with page := ← j.optional PageAttribute.ofJson }⟩]
    {}

/-- Why a JSON document is no request. -/
inductive RequestError where
  | notAnObject
  | flat (cause : DecodeError)
  | grouped (cause : DecodeError)
deriving DecidableEq, Repr

/-- What was attempted when an error arose, and the error behind it if there is one. -/
def RequestError.parts : RequestError → String × Option String
  | .notAnObject => ("request must be a JSON object", none)
  | .flat cause => ("invalid request", some cause.message)
  | .grouped cause => ("invalid grouped request", some cause.message)

/-- The text of an error. -/
def RequestError.message (e : RequestError) : String :=
  match e.parts with
  | (context, none) => context
  | (context, some cause) => context ++ ": " ++ cause

/-- Reads a request: an object with a member `search` is a grouped one, any other object a flat
one. -/
def Request.ofJson : Json → Except RequestError Request
  | .object members =>
    if (members.lookup "search").isSome then
      ((GroupedRequest.ofJson (.object members)).map Request.grouped).mapError .grouped
    else ((FlatRequest.ofJson (.object members)).map Request.flat).mapError .flat
  | _ => .error .notAnObject

/-- Reads a direction. -/
def Direction.ofJson : Json → Except DecodeError Direction :=
  Json.word [("ASC", .ascending), ("DESC", .descending)]

/-- Reads a sort key. -/
def SortKey.ofJson (j : Json) : Except DecodeError SortKey := do
  let (field, direction) ← j.readRecord "SortOrder"
    [⟨"field", fun d j => do .ok (some (← j.text), d.2)⟩,
      ⟨"direction", fun d j => do .ok (d.1, some (← Direction.ofJson j))⟩]
    ((none, none) : Option String × Option Direction)
  match field, direction with
  | none, _ => .error (j.lacking "SortOrder" "field" 2)
  | _, none => .error (j.lacking "SortOrder" "direction" 2)
  | some field, some direction => .ok ⟨field, direction⟩

/-- The fields of a page read so far. -/
structure Page.Draft where
  offset : Option Nat := none
  limit : Option Nat := none
  orders : Option (List SortKey) := none

/-- Reads a page. -/
def Page.ofJson (j : Json) : Except DecodeError Page := do
  let d ← j.readRecord "PageRequest"
    [⟨"offset", fun d j => do .ok { d with offset := some (← j.natural "u64" Numeral.countMax) }⟩,
      ⟨"limit", fun d j => do .ok { d with limit := some (← j.natural "u32" Numeral.limitMax) }⟩,
      ⟨"orders", fun d j => do .ok { d with orders := some (← (← j.items).mapM SortKey.ofJson) }⟩]
    ({} : Page.Draft)
  match d.offset, d.limit, d.orders with
  | none, _, _ => .error (j.lacking "PageRequest" "offset" 3)
  | _, none, _ => .error (j.lacking "PageRequest" "limit" 3)
  | _, _, none => .error (j.lacking "PageRequest" "orders" 3)
  | some offset, some limit, some orders => .ok ⟨offset, limit, orders⟩

end FilterQuery
