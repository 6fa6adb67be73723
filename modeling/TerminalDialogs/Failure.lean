import TerminalDialogs.Command.Ending

/-!
# Failures

Whatever goes wrong has a cause, and on its way out it may be told what was
being done at the time.  A message names all of that, the outermost first.
-/

namespace TerminalDialogs

/-- Why something failed. -/
inductive Cause where
  | widget (e : Widget.Error)
  /-- There is no terminal for the command. -/
  | terminal (reason : Text)
  /-- The command cannot be started. -/
  | start (reason : Text)
  /-- The control channel does not work. -/
  | control (reason : Text)
  | other (reason : Text)
  deriving DecidableEq, Repr

/-- What is said about a cause. -/
def Cause.message : Cause → Text
  | .widget e => e.message
  | .terminal reason => "failed to allocate PTY: ".toList ++ reason
  | .start reason => "failed to start process: ".toList ++ reason
  | .control reason => "control server error: ".toList ++ reason
  | .other reason => reason

/-- Whether something failed because the user wanted no more. -/
def Cause.isCancelled : Cause → Bool
  | .widget .cancelled => true
  | _ => false

/-- What lies behind a cause and is named after it. -/
def Cause.behind : Cause → List Text
  | .widget (.invalidOptions _ reason) => [reason]
  | _ => []

/-- A cause with what was being done at the time, the innermost first. -/
structure Failure where
  cause : Cause
  contexts : List Text := []
  deriving DecidableEq, Repr

namespace Failure

/-- A failure while something was being done. -/
def within (f : Failure) (context : Text) : Failure :=
  { f with contexts := f.contexts ++ [context] }

/-- A failure without a cause of its own kind. -/
def because (reason : Text) : Failure := { cause := .other reason }

/-- The texts of a failure, the outermost first. -/
def texts (f : Failure) : List Text := f.contexts.reverse ++ [f.cause.message] ++ f.cause.behind

/-- The outermost text. -/
def headline (f : Failure) : Text := f.contexts.getLastD f.cause.message

/-- Everything that is known, the outermost first. -/
def message (f : Failure) : Text := Text.join ": ".toList f.texts

/-- Whether something failed because the user wanted no more. -/
def isCancelled (f : Failure) : Bool := f.cause.isCancelled

/-- A widget that yields nothing. -/
def ofWidget (e : Widget.Error) : Failure := { cause := .widget e }

/-- A command that cannot be started. -/
def ofStart (e : Command.StartError) : Failure := { cause := .start e.message }

end Failure

end TerminalDialogs
