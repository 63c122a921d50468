import FilterQuery.CommandLine.Answer

/-!
# The command

Reads what the answer depends on, and writes the answer.
-/

open FilterQuery.CommandLine

/-- Why something cannot be read, in the words of the system. -/
def readFailure : IO.Error → String
  | .noFileOrDirectory .. => "No such file or directory (os error 2)"
  | .permissionDenied .. => "Permission denied (os error 13)"
  | .inappropriateType .. => "Is a directory (os error 21)"
  | e => toString e

/-- The text of bytes, or why they are no text. -/
def decodeText (bytes : ByteArray) : Except String String :=
  match String.fromUTF8? bytes with
  | some text => .ok text
  | none => .error "stream did not contain valid UTF-8"

/-- All bytes that a stream still has, read in blocks. -/
def readAll (stream : IO.FS.Stream) : IO ByteArray := do
  let mut bytes := ByteArray.empty
  repeat
    let block ← stream.read 65536
    if block.isEmpty then break
    bytes := bytes ++ block
  return bytes

/-- The text of a file or, for `-`, of standard input. -/
def readText (path : String) : IO (Except String String) := do
  try
    if path = "-" then return decodeText (← readAll (← IO.getStdin))
    return decodeText (← IO.FS.readBinFile path)
  catch e => return .error (readFailure e)

/-- The variables of the environment that the command looks at. -/
def readEnvironment : IO (List (String × String)) := do
  let names := settings.map fun s => variableName s.option
  names.filterMapM fun name => do return (← IO.getEnv name).map fun value => (name, value)

/-- Runs the command. -/
def main (args : List String) : IO UInt32 := do
  let settingTexts ← readEnvironment
  let environment (name : String) := settingTexts.lookup name
  let paths := match Invocation.ofArguments environment args with
    | .ok i => i.paths
    | .error _ => []
  let texts ← paths.eraseDups.mapM fun path => return (path, ← readText path)
  let file (path : String) := (texts.lookup path).getD (.error "No such file or directory")
  let answer := answer environment args { standardInput := file "-", file }
  IO.print answer.output
  IO.eprint answer.errors
  return answer.code.toUInt32
