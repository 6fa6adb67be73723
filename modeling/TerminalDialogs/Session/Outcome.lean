import TerminalDialogs.Modal.Palette
import TerminalDialogs.Screen.Paint
import TerminalDialogs.Session.Duration

/-!
# How a command ended

A command ends with an exit code or fails for some reason, and a session can be
left before it has ended.  What is known about the end is shown below the
command's output.
-/

namespace TerminalDialogs
namespace Session

open Modal Screen

/-- How a command ended. -/
structure Outcome where
  exitCode : Int
  /-- Why there is no exit code of the command itself. -/
  failure : Option Text := none
  duration : Duration
  deriving DecidableEq, Repr

namespace Outcome

/-- The exit code of a session that was left before its command had ended. -/
def interruptedCode : Nat := 130

/-- The command ended by itself. -/
def exited (exitCode : Int) (duration : Duration) : Outcome := { exitCode, duration }

/-- The command could not be run to its end. -/
def failed (reason : Text) (duration : Duration) : Outcome :=
  { exitCode := 1, failure := some reason, duration }

/-- The session was left before the command had ended. -/
def interrupted : Outcome :=
  { exitCode := interruptedCode
    failure := some "execution interrupted".toList
    duration := .zero }

/-- Whether all went well. -/
def isSuccess (o : Outcome) : Bool := o.exitCode == 0 && o.failure.isNone

/-- The end in a few words. -/
def headline (o : Outcome) : Text :=
  if o.isSuccess then "COMPLETED SUCCESSFULLY".toList
  else
    match o.failure with
    | some reason => "FAILED: ".toList ++ reason
    | none => "EXITED WITH CODE ".toList ++ Text.ofInt o.exitCode

/-- The number of dashes above the summary. -/
def ruleWidth : Nat := 50

/-- The block that is shown below the output of a command that has ended. -/
def summary (o : Outcome) : Text :=
  let p := Palette.standalone
  let dim := Style.fg p.dim
  let status := if o.isSuccess then p.success else p.failure
  "\n\n".toList ++ paint (List.replicate ruleWidth '-') dim ++
    "\n\n".toList ++ paint o.headline ((Style.fg status).adding .bold) ++
    "\n".toList ++ paint ("Duration: ".toList ++ o.duration.render) dim ++
    "\n\n".toList ++
    paint "Press Enter to return to terminal...".toList ((Style.fg p.highlight).adding .italic) ++
    "\n".toList

end Outcome

end Session
end TerminalDialogs
