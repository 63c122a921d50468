import FilterQuery.Engine

/-!
# Describing an engine

One line of text that shows the backend, the settings and the overridden fields of an engine, for
logs.
-/

namespace FilterQuery

/-- A record with named fields in a description. -/
def describeRecord (name : String) (fields : List (String × String)) : String :=
  name ++ " \x7b " ++
    String.intercalate ", " (fields.map fun (field, text) => field ++ ": " ++ text) ++ " \x7d"

/-- The description of a configuration. -/
def Config.describe (c : Config) : String :=
  describeRecord "EngineConfig"
    [("default_limit", toString c.defaultLimit), ("default_offset", toString c.defaultOffset),
      ("nested_marker", Text.quoted c.nestedMarker),
      ("max_nesting_depth", toString c.maxNestingDepth)]

/-- The description of a registry of overrides: its fields in the order of their code points. -/
def Overrides.describe {F : Type} (o : Overrides F) : String :=
  describeRecord "ManualOperationRegistry"
    [("fields", Text.quotedList (o.fields.mergeSort fun a b => compare a b != .gt))]

/-- The description of a backend for SQL. -/
def describeSqlBackend (table : String) : String :=
  describeRecord "SqlOperationProvider" [("table", Text.quoted table)]

/-- The description of the backend for document stores. -/
def describeDocumentBackend : String := "DocumentOperationProvider"

/-- The description of the backend in memory. -/
def describeMemoryBackend : String := "MemoryOperationProvider"

/-- The description of an engine, given that of its backend. -/
def Engine.describe {F : Type} (backend : String) (e : Engine F) : String :=
  describeRecord "OperationService"
    [("provider", backend), ("config", e.config.describe),
      ("manual_operations", e.overrides.describe)]

end FilterQuery
