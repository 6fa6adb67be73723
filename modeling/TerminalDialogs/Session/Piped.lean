import TerminalDialogs.Key.Encoding
import TerminalDialogs.Session.Frame
import TerminalDialogs.Session.Loop
import TerminalDialogs.Session.Review

/-!
# Sessions over pipes

A command behind pipes gets what is typed at once, and nothing echoes it.  The
session echoes it itself: what was typed since the last line is shown behind
the output, and Enter makes it part of the text.  As soon as the command writes
something, what was typed is dropped again, because a command that shows what
it reads would otherwise show it twice.
-/

namespace TerminalDialogs
namespace Session

/-- What was written and typed. -/
structure Transcript where
  /-- The output and the lines that were entered. -/
  content : Text := []
  /-- What was typed and not yet entered. -/
  pending : Text := []
  deriving DecidableEq, Repr

namespace Transcript

/-- All that is shown. -/
def display (t : Transcript) : Text := t.content ++ t.pending

/-- A character was typed. -/
def type (t : Transcript) (c : Char) : Transcript := { t with pending := t.pending ++ [c] }

/-- The last typed character is taken back. -/
def takeBack (t : Transcript) : Transcript := { t with pending := t.pending.dropLast }

/-- The typed line is entered. -/
def enter (t : Transcript) : Transcript := { content := t.content ++ t.pending ++ ['\n'] }

/-- The command wrote something. -/
def output (t : Transcript) (text : Text) : Transcript := { content := t.content ++ text }

end Transcript

/-- A session over pipes. -/
structure Piped where
  caption : Caption := {}
  /-- Whether typed characters are shown. -/
  echo : Bool := true
  stage : Stage := .executing
  transcript : Transcript := {}
  /-- The pipe to the command, until it is closed. -/
  input : Option Writer
  viewport : Viewport := {}
  width : Nat := 0
  height : Nat := 0
  outcome : Option Outcome := none
  finished : Bool := false

namespace Piped

/-- A session at its start. -/
def make (caption : Caption) (echo : Bool) (input : Writer) : Piped :=
  { caption, echo, input := some input }

/-- Whether the pipe to the command is closed. -/
def isClosed (s : Piped) : Bool := s.input.isNone

/-- Closes the pipe to the command. -/
def close (s : Piped) : Piped × List Effect :=
  ({ s with input := none }, if s.isClosed then [] else [.flush])

/-- Writes to the command; the pipe is closed if that fails. -/
def send (s : Piped) (bytes : List UInt8) : Piped × List Effect :=
  match s.input with
  | none => (s, [])
  | some writer =>
      let (accepted, writer) := writer.write bytes
      if accepted then ({ s with input := some writer }, [.write bytes, .flush])
      else ({ s with input := none }, [])

/-- Shows the transcript as it is now, at its end while the command runs. -/
def refresh (s : Piped) : Piped :=
  let viewport := s.viewport.setContent s.transcript.display
  { s with viewport := if s.stage = .executing then viewport.toBottom else viewport }

/-- A typed character in the transcript, if it is shown at all. -/
def echoed (s : Piped) (c : Char) : Transcript :=
  if s.echo then s.transcript.type c else s.transcript

/-- What a key sends to the command and leaves in the transcript, if the
session handles it. -/
def typed? (s : Piped) (k : Key) : Option (Option (List UInt8) × Transcript) :=
  match k.code with
  | .enter => some (some [0x0a], s.transcript.enter)
  | .backspace => some (some [0x7f], s.transcript.takeBack)
  | .tab => some (some [0x09], s.echoed '\t')
  | .char c =>
      if k.isPlain then some (some (Utf8.encodeChar c), s.echoed c)
      else some (k.bytes?, s.transcript)
  | .escape => some (k.bytes?, s.transcript)
  | _ => none

/-- A key while the command is running. -/
def handleTyping (s : Piped) (k : Key) : Piped × List Effect :=
  if k.isForceQuit then
    let (s, effects) := s.close
    ({ s with finished := true }, effects)
  else if s.isClosed then (s, [])
  else
    match s.typed? k with
    | none => (s, [])
    | some (bytes?, transcript) =>
        let (s, effects) :=
          match bytes? with
          | some bytes => s.send bytes
          | none => (s, [])
        ({ s with transcript }.refresh, effects)

/-- A key. -/
def handleKey (s : Piped) (k : Key) : Piped × List Effect :=
  if s.stage = .completed then
    match review s.viewport k with
    | .leave => ({ s with finished := true }, [])
    | .show viewport => ({ s with viewport }, [])
  else s.handleTyping k

/-- The command has ended. -/
def complete (s : Piped) (outcome : Outcome) : Piped × List Effect :=
  let (s, effects) := s.close
  let s := { s with
    transcript := s.transcript.output outcome.summary
    outcome := some outcome
    stage := .completed }
  let s := s.refresh
  ({ s with viewport := s.viewport.toBottom }, effects)

/-- The answer to a request for a widget. -/
def noWidgets : Control.Response :=
  .refused "components are not available in pipe mode".toList

/-- Applies one event. -/
def handle (s : Piped) : Event → Piped × List Effect
  | .key k => s.handleKey k
  | .resize width height =>
      ({ s with width, height, viewport := s.viewport.setSize width (outputRows height) }, [])
  | .output text => ({ s with transcript := s.transcript.output text }.refresh, [])
  | .exited outcome => s.complete outcome
  | .requested ticket => (s, [.reply ticket.number noWidgets])
  | .widget _ _ => (s, [])

/-- The screen. -/
def view (s : Piped) : Text :=
  if s.width = 0 ∨ s.height = 0 then waiting
  else frame s.caption s.width s.outcome s.viewport

/-- What the session comes to, and what has to be done at its end. -/
def result (s : Piped) : Outcome × List Effect :=
  (s.outcome.getD .interrupted, s.close.2)

end Piped

instance : IsSession Piped where
  handle s e := let (s, effects) := s.handle e; (s, { effects })
  view := Piped.view
  isFinished := Piped.finished
  generation _ := 0

end Session
end TerminalDialogs
