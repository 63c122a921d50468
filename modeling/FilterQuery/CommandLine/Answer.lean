import FilterQuery.CommandLine.Arguments
import FilterQuery.Document.Filter
import FilterQuery.Engine
import FilterQuery.Json.Reader
import FilterQuery.Memory.Query
import FilterQuery.Sql.Statement

/-!
# What the command answers

The answer of the command depends on its arguments, the environment, standard input and the files
it reads. Standard input can be read once; whoever reads it again finds it empty.
-/

namespace FilterQuery.CommandLine

/-- What the command writes and ends with. -/
structure Answer where
  code : Nat
  output : String := ""
  errors : String := ""
deriving DecidableEq, Repr

/-- Why an invocation fails. -/
inductive Failure where
  | unreadable (path cause : String)
  | notJson (path : String)
  | notRows (path : String)
  | request (cause : RequestError)
  | filter (cause : FilterError)
deriving DecidableEq, Repr

/-- What failed, and the cause behind it if there is one. -/
def Failure.parts : Failure → String × Option String
  | .unreadable path cause =>
    (if path = "-" then "failed to read standard input" else "failed to read " ++ path, some cause)
  | .notJson path => (path ++ " is not valid JSON", none)
  | .notRows path => (path ++ " must hold a JSON array of rows", none)
  | .request cause => cause.parts
  | .filter cause => (cause.message, none)

/-- A text with every line moved to the right. -/
def indentLines (margin text : String) : String :=
  String.ofList (margin.toList ++ text.toList.flatMap fun c =>
    if c = '\n' then '\n' :: margin.toList else [c])

/-- The text of a failure. -/
def Failure.message (f : Failure) : String :=
  match f.parts with
  | (context, none) => "Error: " ++ context ++ "\n"
  | (context, some cause) =>
    "Error: " ++ context ++ "\n\nCaused by:\n" ++ indentLines "    " cause ++ "\n"

/-- Where the command reads from. -/
structure Sources where
  standardInput : Except String String
  file : String → Except String String

/-- Reads a JSON document. -/
def Sources.json (s : Sources) (path : String) : Except Failure Json := do
  let source := if path = "-" then s.standardInput else s.file path
  let text ← source.mapError (.unreadable path)
  match Json.read? text with
  | some j => .ok j
  | none => .error (.notJson path)

/-- The sources after a document was read from them. -/
def Sources.after (s : Sources) (path : String) : Sources :=
  if path = "-" then { s with standardInput := .ok "" } else s

/-- Reads the rows of a file. -/
def Sources.rows (s : Sources) (path : String) : Except Failure (List Json) := do
  match ← s.json path with
  | .array rows => .ok rows
  | _ => .error (.notRows path)

/-- What an invocation writes as JSON. -/
def Invocation.result (i : Invocation) (sources : Sources) : Except Failure Json := do
  let request ← (Request.ofJson (← sources.json i.request)).mapError .request
  match i.target with
  | .sql table columns =>
    let engine : Engine Sql.Predicate :=
      { backend := Sql.Predicate.backend table, config := i.config }
    let plan ← (engine.plan i.sortFields request).mapError .filter
    let selection : Sql.Selection := { table, columns }
    .ok (selection.statement plan.filter plan.page).toJson
  | .document =>
    let engine : Engine Json := { backend := Document.backend, config := i.config }
    let plan ← (engine.plan i.sortFields request).mapError .filter
    .ok (Document.query plan.filter plan.page)
  | .eval path =>
    let rows ← (sources.after i.request).rows path
    let engine : Engine Memory.Predicate :=
      { backend := Memory.Predicate.backend, config := i.config }
    let plan ← (engine.plan i.sortFields request).mapError .filter
    .ok (.array ((Memory.execute rows plan.filter plan.page).filterMap (rows[·]?)))

/-- The answer to an invocation. -/
def Invocation.answer (i : Invocation) (sources : Sources) : Answer :=
  match i.problems with
  | [] =>
    match i.result sources with
    | .ok j => { code := 0, output := j.indented ++ "\n" }
    | .error f => { code := 1, errors := f.message }
  | problems =>
    { code := 1
      errors := String.join (problems.map fun p => "Configuration error: " ++ p ++ "\n") }

/-- The answer where the arguments amount to no invocation. -/
def Stop.answer : Stop → Answer
  | .help => { code := 0, output := helpText }
  | .usage => { code := 2, errors := helpText }

/-- The answer of the command. -/
def answer (environment : String → Option String) (args : List String) (sources : Sources) :
    Answer :=
  match Invocation.ofArguments environment args with
  | .ok i => i.answer sources
  | .error stop => stop.answer

/-- The files that an invocation reads, `-` for standard input. -/
def Invocation.paths (i : Invocation) : List String :=
  i.request :: (match i.target with | .eval rows => [rows] | _ => [])

end FilterQuery.CommandLine
