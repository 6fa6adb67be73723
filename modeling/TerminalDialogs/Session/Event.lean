import TerminalDialogs.Control.Message
import TerminalDialogs.Key
import TerminalDialogs.Session.Outcome
import TerminalDialogs.Widget.Protocol

/-!
# What sessions are told and what they do

A session is driven by events: keys and resizes from the terminal, output and
the end from the command, requests for widgets, and messages for the widget that
is shown.  It answers each event with effects on the command and on those who
sent requests, and it may ask for a command of the widget to be run.

A request carries a ticket, by which its reply finds the way back.  A message
for a widget carries the generation of the widget it is meant for.
-/

namespace TerminalDialogs

/-- What a terminal reports. -/
inductive TerminalEvent where
  | key (k : Key)
  | resize (width height : Nat)
  /-- A change of focus, the mouse, or pasted text. -/
  | other
  deriving DecidableEq, Repr

namespace Session

/-- A request for a widget that awaits its reply. -/
structure Ticket where
  number : Nat
  request : Control.Request

/-- What a session is told. -/
inductive Event where
  | key (k : Key)
  | resize (width height : Nat)
  | output (text : Text)
  | exited (outcome : Outcome)
  | requested (ticket : Ticket)
  | widget (generation : Nat) (message : Widget.Message)

/-- What a session makes of what a terminal reports: of key events only
presses count. -/
def Event.ofTerminal? : TerminalEvent → Option Event
  | .key k => if k.isPress then some (.key k) else none
  | .resize width height => some (.resize width height)
  | .other => none

/-- The events that come from a terminal; `none` stands for a look at the
terminal when it had nothing to report. -/
def Event.ofReports (reports : List (Option TerminalEvent)) : List Event :=
  reports.filterMap fun report => report.bind Event.ofTerminal?

/-- What a session does to the world. -/
inductive Effect where
  /-- Bytes written to the command. -/
  | write (bytes : List UInt8)
  /-- Everything written is passed on to the command. -/
  | flush
  /-- The command's terminal gets another size. -/
  | resize (columns rows : Nat)
  /-- The reply to a request. -/
  | reply (ticket : Nat) (response : Control.Response)

/-- How a session answers an event. -/
structure Reaction where
  effects : List Effect := []
  /-- What the widget that is shown asks for. -/
  command : Option Widget.Effect := none

/-- How far a session has come. -/
inductive Stage where
  /-- The command is running. -/
  | executing
  /-- The command is running and a widget is shown. -/
  | showingWidget
  /-- The command has ended. -/
  | completed
  deriving DecidableEq, Repr

/-- What a session writes to.  Writes are numbered, and `accepts` says which of
them succeed. -/
structure Writer where
  accepts : Nat → List UInt8 → Bool
  attempts : Nat := 0

namespace Writer

/-- Every write succeeds. -/
def working : Writer := { accepts := fun _ _ => true }

/-- So many writes succeed, and then none. -/
def failingAfter (n : Nat) : Writer := { accepts := fun i _ => i < n }

/-- Whether a write of these bytes succeeds, and the writer after it. -/
def write (w : Writer) (bytes : List UInt8) : Bool × Writer :=
  (w.accepts w.attempts bytes, { w with attempts := w.attempts + 1 })

end Writer

end Session
end TerminalDialogs
