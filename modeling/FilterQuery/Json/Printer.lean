import FilterQuery.Json.Basic

/-!
# Writing JSON

Two layouts of one value: compact, without any space, and indented by two spaces a level.
-/

namespace FilterQuery.Json

/-- One character of a JSON string. Quotes, backslashes and controls are escaped and nothing else
is. -/
def escapedChar (c : Char) : List Char :=
  match c with
  | '"' => ['\\', '"']
  | '\\' => ['\\', '\\']
  | '\n' => ['\\', 'n']
  | '\r' => ['\\', 'r']
  | '\t' => ['\\', 't']
  | c =>
    if c.toNat = 0x08 then ['\\', 'b']
    else if c.toNat = 0x0C then ['\\', 'f']
    else if c.toNat < 0x20 then
      ['\\', 'u', '0', '0', Nat.digitChar (c.toNat / 16), Nat.digitChar (c.toNat % 16)]
    else [c]

/-- A text as a JSON string. -/
def stringText (s : String) : String :=
  "\"" ++ String.ofList (s.toList.flatMap escapedChar) ++ "\""

/-- A double as a JSON number; infinities and not-a-number have none and become `null`. -/
def floatText (x : Binary64) : String :=
  x.jsonText?.getD "null"

mutual

/-- The text of a value without spaces. -/
def compact : Json → String
  | .null => "null"
  | .bool b => if b then "true" else "false"
  | .integer i => toString i
  | .float x => floatText x
  | .string s => stringText s
  | .array items => "[" ++ String.intercalate "," (compactItems items) ++ "]"
  | .object members => "\x7b" ++ String.intercalate "," (compactMembers members) ++ "\x7d"

/-- The texts of the items of an array. -/
def compactItems : List Json → List String
  | [] => []
  | item :: items => item.compact :: compactItems items

/-- The texts of the members of an object. -/
def compactMembers : List (String × Json) → List String
  | [] => []
  | (name, value) :: members => (stringText name ++ ":" ++ value.compact) :: compactMembers members

end

/-- The lines of an array or object: one line per element between the brackets, or the brackets
alone if there is nothing between them. -/
def bracketed (opening closing margin : String) (lines : List String) : String :=
  if lines = [] then opening ++ closing
  else
    let inner := lines.map fun line => margin ++ "  " ++ line
    opening ++ "\n" ++ String.intercalate ",\n" inner ++ "\n" ++ margin ++ closing

mutual

/-- The text of a value over several lines, where `margin` begins the line it stands on. -/
def indentedAt (margin : String) : Json → String
  | .array items => bracketed "[" "]" margin (indentedItems (margin ++ "  ") items)
  | .object members => bracketed "\x7b" "\x7d" margin (indentedMembers (margin ++ "  ") members)
  | .null => "null"
  | .bool b => if b then "true" else "false"
  | .integer i => toString i
  | .float x => floatText x
  | .string s => stringText s

/-- The texts of the items of an array over several lines. -/
def indentedItems (margin : String) : List Json → List String
  | [] => []
  | item :: items => indentedAt margin item :: indentedItems margin items

/-- The texts of the members of an object over several lines. -/
def indentedMembers (margin : String) : List (String × Json) → List String
  | [] => []
  | (name, value) :: members =>
    (stringText name ++ ": " ++ indentedAt margin value) :: indentedMembers margin members

end

/-- The text of a value over several lines, two spaces a level. -/
def indented (j : Json) : String :=
  indentedAt "" j

end FilterQuery.Json
