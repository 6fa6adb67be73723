import TerminalDialogs.Text

/-!
# What the program finds around it

Whether questions are asked in lines of text or on the whole screen, and on
which stream, depends on a few facts about the surroundings.
-/

namespace TerminalDialogs

/-- A stream that is written to. -/
inductive OutputStream where
  | stdout
  | stderr
  deriving DecidableEq, Repr

/-- How questions are asked. -/
structure Mode where
  /-- In lines of text. -/
  accessible : Bool
  /-- Inside of a session. -/
  nested : Bool
  /-- Where questions are written. -/
  output : OutputStream
  deriving DecidableEq, Repr

/-- The mode inside of a session or not, with lines of text asked for or not,
with a terminal to read from or not.  Inside of a session or when asked for,
questions keep clear of the stream that carries results. -/
def Mode.ofFacts (nested linesWanted isTerminal : Bool) : Mode where
  accessible := nested || linesWanted || !isTerminal
  nested := nested
  output := if nested || linesWanted then .stderr else .stdout

/-- The file for messages about what is going on: the one that was asked for,
or else the one that the surroundings name. -/
def logFile (asked named : Option Text) : Option Text :=
  match asked with
  | some path => some path
  | none => named.filter fun path => !path.isEmpty

end TerminalDialogs
