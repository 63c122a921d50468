import FilterQuery.Config
import FilterQuery.Text.Blank

/-!
# Arguments of the command

The command has a subcommand for each backend. A setting can be given after the subcommand, before
it or in the environment; of several places the first of these counts.

Arguments follow the usual rules: `--name value` or `--name=value`, `--` before arguments that are
no options, and `-` as an ordinary argument.
-/

namespace FilterQuery.CommandLine

/-- Why arguments do not amount to an invocation. -/
inductive Stop where
  | help
  | usage
deriving DecidableEq, Repr

/-- What is written when help is asked for. -/
def helpText : String :=
  "Usage: quarry [OPTIONS] <sql|document|eval> [OPTIONS] <REQUEST>\n"

/-- How often an option can be given. -/
inductive Arity where
  | once
  /-- Any number of times, each with a list between commas. -/
  | list
deriving DecidableEq, Repr

/-- What was found among arguments. -/
structure Found where
  options : List (String × String) := []
  operands : List String := []
deriving Repr

namespace Found

/-- The last value of an option. -/
def value? (f : Found) (name : String) : Option String :=
  (f.options.filter (·.1 == name)).getLast?.map (·.2)

/-- All values of an option that is a list. -/
def values (f : Found) (name : String) : List String :=
  (f.options.filter (·.1 == name)).flatMap fun option =>
    (option.2.toList.splitOn ',').map String.ofList

/-- What was found together with one more option. -/
def addOption (f : Found) (arity : Arity) (name value : String) : Except Stop Found :=
  if arity = .once ∧ (f.value? name).isSome then .error .usage
  else .ok { f with options := f.options ++ [(name, value)] }

end Found

/-- Whether an argument has the form of an option. -/
def isOption (arg : String) : Bool :=
  arg.startsWith "-" && arg != "-"

/-- The name and the value in an argument `--name=value`, or the name alone. -/
def splitOption (arg : String) : String × Option String :=
  let cs := arg.toList.drop 2
  let name := String.ofList (cs.takeWhile (· != '='))
  match cs.dropWhile (· != '=') with
  | [] => (name, none)
  | _ :: value => (name, some (String.ofList value))

/-- Sorts arguments into options and operands. Where there are `subcommands`, the first operand must
be one of them, and is returned with the arguments after it. -/
def scan (known : List (String × Arity)) (subcommands : List String) :
    List String → Found → Except Stop (Found × Option (String × List String))
  | [], found => .ok (found, none)
  | arg :: rest, found =>
    if arg = "--" then .ok ({ found with operands := found.operands ++ rest }, none)
    else if arg = "--help" then .error .help
    else if arg.startsWith "--" then
      let (name, attached) := splitOption arg
      match known.lookup name, attached with
      | none, _ => .error .usage
      | some arity, some value =>
        (found.addOption arity name value).bind (scan known subcommands rest)
      | some arity, none =>
        match rest with
        | [] => .error .usage
        | value :: rest =>
          if isOption value then .error .usage
          else (found.addOption arity name value).bind (scan known subcommands rest)
    else if isOption arg then
      if arg.startsWith "-h" then .error .help else .error .usage
    else if subcommands.contains arg then .ok (found, some (arg, rest))
    else if subcommands ≠ [] then .error .usage
    else scan known subcommands rest { found with operands := found.operands ++ [arg] }

/-! ### Settings -/

/-- The name of the variable of the environment for a setting. -/
def variableName (option : String) : String :=
  "QUARRY_" ++ String.ofList (option.toList.map fun c => if c = '-' then '_' else c.toUpper)

/-- A setting of the command. -/
structure Setting where
  option : String
  /-- Puts a value into a configuration, unless the value makes no sense. -/
  put : Config → String → Option Config

/-- The settings of the command. The log level changes nothing that is answered. -/
def settings : List Setting :=
  [⟨"log-level", fun c _ => some c⟩,
    ⟨"default-limit", fun c text =>
      ((Numeral.integer? text.toList).filter fun i => 0 ≤ i && i ≤ (Numeral.limitMax : Int)).map
        fun i => { c with defaultLimit := i.toNat }⟩,
    ⟨"default-offset", fun c text =>
      (Numeral.count? text.toList).map fun n => { c with defaultOffset := n }⟩,
    ⟨"nested-marker", fun c text => some { c with nestedMarker := text }⟩,
    ⟨"max-nesting-depth", fun c text =>
      (Numeral.count? text.toList).map fun n => { c with maxNestingDepth := n }⟩]

/-- The configuration with one setting from the places where it can stand. Each place is looked at
before and after the subcommand, and what stands there must make sense even if it yields. -/
def applySetting (environment : String → Option String) (before after : Found) (c : Config)
    (s : Setting) : Except Stop Config :=
  let fallback := environment (variableName s.option)
  let given := [(before.value? s.option).or fallback, (after.value? s.option).or fallback]
  let chosen := ((after.value? s.option).or (before.value? s.option)).or fallback
  if given.all fun text => text.all fun text => (s.put c text).isSome then
    match chosen with
    | none => .ok c
    | some text => .ok ((s.put c text).getD c)
  else .error .usage

/-! ### Invocations -/

/-- What is to be written. -/
inductive Target where
  | sql (table : String) (columns : List String)
  | document
  | eval (rows : String)
deriving DecidableEq, Repr

/-- A call of the command. -/
structure Invocation where
  config : Config
  target : Target
  /-- The file of the request, or `-` for standard input. -/
  request : String
  sortFields : List String
deriving Repr

/-- The subcommands; the last one explains the others. -/
def subcommands : List String :=
  ["sql", "document", "eval", "help"]

/-- The options that every place takes. -/
def commonOptions : List (String × Arity) :=
  settings.map fun s => (s.option, .once)

/-- The options of a subcommand. -/
def subcommandOptions : (subcommand : String) → List (String × Arity)
  | "sql" => [("table", .once), ("columns", .list), ("sort-fields", .list)]
  | "eval" => [("rows", .once), ("sort-fields", .list)]
  | _ => [("sort-fields", .list)]

/-- The value of an option that must be given. -/
def required (f : Found) (name : String) : Except Stop String :=
  match f.value? name with
  | some value => .ok value
  | none => .error .usage

/-- The path of a file, which is never empty. -/
def path (text : String) : Except Stop String :=
  if text.isEmpty then .error .usage else .ok text

/-- What a subcommand writes, with the options found after it. -/
def targetOf (subcommand : String) (after : Found) : Except Stop Target :=
  match subcommand with
  | "sql" => do .ok (.sql (← required after "table") (after.values "columns"))
  | "eval" => do .ok (.eval (← path (← required after "rows")))
  | _ => .ok .document

/-- The invocation that arguments amount to. -/
def Invocation.ofArguments (environment : String → Option String) (args : List String) :
    Except Stop Invocation := do
  match ← scan commonOptions subcommands args {} with
  | (_, none) => .error .usage
  | (_, some ("help", topics)) =>
    if topics.all subcommands.contains then .error .help else .error .usage
  | (before, some (subcommand, rest)) =>
    let (after, _) ← scan (commonOptions ++ subcommandOptions subcommand) [] rest {}
    let config ← settings.foldlM (applySetting environment before after) {}
    let target ← targetOf subcommand after
    match after.operands with
    | [request] => .ok ⟨config, target, ← path request, after.values "sort-fields"⟩
    | _ => .error .usage

/-- What is wrong with the settings of an invocation. -/
def Invocation.problems (i : Invocation) : List String :=
  (if i.config.defaultLimit = 0 then ["Default limit cannot be 0"] else []) ++
  (if Text.isAllBlank i.config.nestedMarker then ["Nested marker cannot be blank"] else []) ++
  (match i.target with
    | .sql table _ => if Text.isAllBlank table then ["Table cannot be blank"] else []
    | _ => [])

end FilterQuery.CommandLine
