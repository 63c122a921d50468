import FilterQuery.Request.Encode
import FilterQuery.Request.Decode

/-!
# Configuration

The settings that planning depends on.
-/

namespace FilterQuery

/-- The settings of an engine. -/
structure Config where
  defaultLimit : Nat := 200
  defaultOffset : Nat := 0
  /-- What a code begins with if its value is a group for a subquery. -/
  nestedMarker : String := "nst:"
  /-- How deep groups may stand inside each other in one parameter. -/
  maxNestingDepth : Nat := 4
deriving DecidableEq, Repr, Inhabited

namespace Config

/-- What follows the mark of nesting in a code. No code is nested if the mark is empty. -/
def stripMarker? (c : Config) (code : String) : Option String :=
  let marker := c.nestedMarker.toList
  if marker ≠ [] ∧ marker.isPrefixOf code.toList then
    some (String.ofList (code.toList.drop marker.length))
  else none

/-- Reads a configuration; what is left out keeps its default. -/
def ofJson : Json → Except DecodeError Config :=
  Json.readRecord "EngineConfig"
    [⟨"defaultLimit", fun c j => do
        .ok { c with defaultLimit := ← j.natural "u32" Numeral.limitMax }⟩,
      ⟨"defaultOffset", fun c j => do
        .ok { c with defaultOffset := ← j.natural "u64" Numeral.countMax }⟩,
      ⟨"nestedMarker", fun c j => do .ok { c with nestedMarker := ← j.text }⟩,
      ⟨"maxNestingDepth", fun c j => do
        .ok { c with maxNestingDepth := ← j.natural "usize" Numeral.countMax }⟩]
    {}

/-- The wire form of a configuration. -/
def toJson (c : Config) : Json :=
  .object [("defaultLimit", .integer c.defaultLimit), ("defaultOffset", .integer c.defaultOffset),
    ("nestedMarker", .string c.nestedMarker), ("maxNestingDepth", .integer c.maxNestingDepth)]

end Config

end FilterQuery
