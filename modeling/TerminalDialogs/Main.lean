import TerminalDialogs.Command.Shell
import TerminalDialogs.CommandLine

/-!
# The command line

The outer layer of the program: it reads arguments, variables and lines, writes
what it is told to write, and looks at the disk when a path was answered.
-/

namespace TerminalDialogs
namespace Main

open CommandLine

/-- The variables that the program looks at. -/
def variableNames : List Text :=
  [Command.sessionVariable, "ACCESSIBLE".toList, Control.addressVariable, Control.tokenVariable,
    "TUIBRIDGE_LOG_FILE".toList]

/-- The variables that are set. -/
def environment : IO (List (Text × Text)) :=
  variableNames.filterMapM fun name => do
    return (← IO.getEnv (String.ofList name)).map fun value => (name, value.toList)

/-- What an open file is: nothing can be read from a directory. -/
def entryOf (file : IO.FS.Handle) : IO Files.Entry := do
  try
    let _ ← file.read 1
    return .file 0
  catch _ => return .directory

/-- What lies at a path; a directory can be opened like a file. -/
def entryAt (path : String) : IO (Option Files.Entry) := do
  try
    return some (← entryOf (← IO.FS.Handle.mk path .read))
  catch _ => return none

/-- A tree that holds what lies at the path that was answered, if a path was
asked for. -/
def treeFor (p : Prompt) (line : Text) : IO Files.Tree := do
  match p with
  | .file options =>
      let path := Path.child options.path (Text.trim line)
      match ← entryAt (String.ofList path) with
      | some entry => return { entries := [(Files.Tree.names path, entry)] }
      | none => return {}
  | _ => return {}

/-- Writes a text and passes it on at once. -/
def say (stream : IO.FS.Stream) (said : Text) : IO Unit := do
  stream.putStr (String.ofList said)
  stream.flush

/-- Asks questions until there is a value. -/
partial def converse (input output : IO.FS.Stream) :
    Prompt.Turn → IO (Except Failure Widget.Value)
  | .done said value => do
      say output said
      return .ok value
  | .ask said p => do
      say output (said ++ p.label)
      let line := (← input.getLine).toList
      if line.isEmpty then return p.close.mapError Failure.ofWidget
      else
        match Prompt.lineText? (Utf8.encode line) with
        | none => return .error Prompt.unreadable
        | some text => converse input output (p.answer (← treeFor p text) text)

/-- Writes a report and gives its exit code. -/
def finish (r : Report) : IO UInt32 := do
  say (← IO.getStdout) r.stdout
  say (← IO.getStderr) r.stderr
  return r.code.toUInt32

/-- Makes the file for messages. -/
def makeLog : Option Text → IO Unit
  | none => return
  | some path => do
      try
        IO.FS.writeFile (String.ofList path) ""
      catch _ => say (← IO.getStderr) (logWarning path .notFound)

/-- Runs the program. -/
def run (arguments : List String) : IO UInt32 := do
  let surroundings : Surroundings :=
    { environment := ← environment
      programs := Command.fewPrograms
      deliver := fun _ => .error .noNetwork }
  let (plan, log) := plan surroundings (arguments.map String.toList)
  makeLog log
  match plan with
  | .report r => finish r
  | .ask kind stream turn =>
      let output ←
        match stream with
        | .stdout => IO.getStdout
        | .stderr => IO.getStderr
      finish (.ofValue kind (← converse (← IO.getStdin) output turn))

end Main
end TerminalDialogs

/-- The program. -/
def main (arguments : List String) : IO UInt32 := TerminalDialogs.Main.run arguments
