import TerminalDialogs.Command.Ending
import TerminalDialogs.Command.Shell.Evaluation

/-!
# A few programs

A handful of programs that print, read and end, and a shell that runs scripts
made of them.  They stand for the programs of a system wherever none can be
started.
-/

namespace TerminalDialogs
namespace Command

/-- The rounds that a script may take. -/
def manyRounds : Nat := 1000000

/-- Why no program of a name can be started. -/
def missingProgram (name : Text) : StartProblem :=
  if name = ['.'] || name = ['.', '.'] then .file .notPermitted
  else if !name.elem '/' then
    if Files.Tree.nameLimit < Utf8.size name then .file .nameTooLong else .file .notFound
  else
    match Files.Tree.pathProblem? name with
    | some problem => .file problem
    | none =>
        let parent :=
          if name.getLast? = some '/' then Tool.trimSlashes name
          else Shell.pathName (Tool.directoryName name)
        if (Text.pieces '/' name).any fun piece => Files.Tree.nameLimit < Utf8.size piece then
          .file .nameTooLong
        else if Shell.kindOf {} name ≠ .nothing then .file .notPermitted
        else
          match Shell.kindOf {} parent with
          | .file _ | .device => .file .notDirectory
          | _ => if Shell.isProgram parent then .file .notDirectory else .file .notFound

/-- The variables that a program finds in addition to those that it is given. -/
def commonVariables : List (Text × Text) := [("HOME".toList, "/root".toList)]

/-- Runs a program that is there. -/
def runThere (call : Call) (name : Text) (arguments : List Text) : Ending :=
  let settings := (call.environment ++ commonVariables).map fun p =>
    (p.1, ({ value := p.2, exported := true } : Setting))
  let shell : Shell :=
    { world := { pipes := [{ unread := call.stdin }, {}, {}] }, number := 999, settings }
  let (signal, after) := (Shell.launch manyRounds name arguments).run shell
  let content (n : Nat) : List UInt8 := (after.world.pipes[n]?.map Pipe.content).getD []
  { stdout := content 1
    stderr := content 2
    status :=
      match signal with
      | some _ => .killed
      | none => .exited after.status }

/-- The programs that are there. -/
def fewPrograms : Programs := fun call =>
  if call.argv.any fun a => a.elem '\x00' then .error .zeroByte
  else
    match call.argv with
    | [] => .error (.file .notFound)
    | name :: arguments =>
        if !Shell.isProgram name then .error (missingProgram name)
        else if call.argv.any fun a => argumentLimit ≤ Utf8.size a then .error .tooLong
        else .ok (runThere call name arguments)

end Command
end TerminalDialogs
