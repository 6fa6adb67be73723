import TerminalDialogs.Key.Encoding
import TerminalDialogs.Modal.Overlay
import TerminalDialogs.Session.Frame
import TerminalDialogs.Session.Loop
import TerminalDialogs.Session.Review
import TerminalDialogs.Widget

/-!
# Sessions in a terminal of their own

A command in a terminal of its own gets the keys as a terminal would send them.
While it runs it may ask for a widget, which is drawn as a dialog over the
output and gets all keys until it is done; then the one who asked gets the
answer.  Only one widget is shown at a time.

Each widget gets a generation of its own, so messages that come late for an
earlier widget can be told from those for the present one.
-/

namespace TerminalDialogs
namespace Session

/-- A widget that is shown, with the request that it answers. -/
structure Shown where
  generation : Nat
  widget : Widget
  ticket : Nat

/-- A session in a terminal of its own. -/
structure Hosted where
  caption : Caption := {}
  theme : Modal.Theme
  /-- The files that a picker can show. -/
  files : Files.Tree := {}
  stage : Stage := .executing
  /-- The output, and the summary once the command has ended. -/
  content : Text := []
  viewport : Viewport := {}
  width : Nat := 0
  height : Nat := 0
  outcome : Option Outcome := none
  shown : Option Shown := none
  generation : Nat := 0
  /-- The command's terminal. -/
  input : Writer
  finished : Bool := false

namespace Hosted

/-- A session at its start. -/
def make (caption : Caption) (theme : Modal.Theme) (files : Files.Tree) (input : Writer) :
    Hosted :=
  { caption, theme, files, input }

/-- The size of the screen. -/
def screen (s : Hosted) : Modal.Size := ⟨s.width, s.height⟩

/-! ## Widgets -/

/-- The reply of a widget that is done. -/
def replyOf (w : Widget) : Control.Response :=
  match w.result with
  | .ok value => .ofResult (Widget.wire w.kind value)
  | .error .cancelled => .dismissed
  | .error e => .refused e.message

/-- Shows no widget any more; the one who asked for it learns that it was
dismissed. -/
def abandon (s : Hosted) : Hosted × List Effect :=
  match s.shown with
  | none => (s, [])
  | some shown => ({ s with shown := none }, [.reply shown.ticket .dismissed])

/-- Goes back to the command if the widget is done. -/
def settle (s : Hosted) (shown : Shown) (command : Option Widget.Effect) : Hosted × Reaction :=
  if shown.widget.isDone then
    ({ s with shown := none, stage := .executing },
      { effects := [.reply shown.ticket (replyOf shown.widget)] })
  else ({ s with shown := some shown }, { command })

/-- Passes a message to the widget. -/
def tell (s : Hosted) (m : Widget.Message) : Hosted × Reaction :=
  match s.shown with
  | none => (s, {})
  | some shown =>
      let (widget, command) := shown.widget.update s.files m
      s.settle { shown with widget } command

/-- The widget that a request asks for. -/
def widgetOf (s : Hosted) (r : Control.Request) : Except Widget.Error Widget := do
  let kind ← Widget.Kind.parse r.component
  let size := Modal.contentSize kind s.screen
  Widget.inDialog s.files kind r.options size.width size.height s.theme

/-- Refuses a request. -/
def refuse (s : Hosted) (ticket : Ticket) (reason : Text) : Hosted × Reaction :=
  (s, { effects := [.reply ticket.number (.refused reason)] })

/-- Shows the widget that a request asks for, if the command is running and no
other widget is shown. -/
def accept (s : Hosted) (ticket : Ticket) : Hosted × Reaction :=
  match s.stage with
  | .completed => s.refuse ticket "command has already finished".toList
  | .showingWidget => s.refuse ticket "another component is active".toList
  | .executing =>
      match s.widgetOf ticket.request with
      | .error e => s.refuse ticket ("failed to create component: ".toList ++ e.message)
      | .ok widget =>
          let generation := s.generation + 1
          settle { s with generation, stage := .showingWidget }
            { generation, widget, ticket := ticket.number } widget.init

/-! ## Keys -/

/-- A key that goes to the command. -/
def forward (s : Hosted) (k : Key) : Hosted × List Effect :=
  if k.isForceQuit then ({ s with finished := true }, [])
  else
    match k.bytes? with
    | none => (s, [])
    | some bytes =>
        let (accepted, input) := s.input.write bytes
        ({ s with input }, if accepted then [.write bytes] else [])

/-- A key. -/
def handleKey (s : Hosted) (k : Key) : Hosted × Reaction :=
  match s.stage with
  | .completed =>
      match review s.viewport k with
      | .leave => ({ s with finished := true }, {})
      | .show viewport => ({ s with viewport }, {})
  | .showingWidget => s.tell (.key k)
  | .executing => let (s, effects) := s.forward k; (s, { effects })

/-! ## The screen and the command -/

/-- The screen gets another size. -/
def resize (s : Hosted) (width height : Nat) : Hosted × List Effect :=
  let rows := outputRows height
  let sized (shown : Shown) : Shown :=
    let size := Modal.contentSize shown.widget.kind ⟨width, height⟩
    { shown with widget := shown.widget.setSize size.width size.height }
  ({ s with
      width, height
      viewport := s.viewport.setSize width rows
      shown := s.shown.map sized },
    if s.stage = .completed then [] else [.resize width rows])

/-- The command wrote something. -/
def write (s : Hosted) (text : Text) : Hosted :=
  let content := s.content ++ text
  let viewport := s.viewport.setContent content
  { s with content, viewport := if s.stage = .executing then viewport.toBottom else viewport }

/-- The command has ended. -/
def complete (s : Hosted) (outcome : Outcome) : Hosted × List Effect :=
  let (s, effects) := s.abandon
  let content := s.content ++ outcome.summary
  ({ s with
      content
      outcome := some outcome
      stage := .completed
      viewport := (s.viewport.setContent content).toBottom },
    effects)

/-- Applies one event. -/
def handle (s : Hosted) : Event → Hosted × Reaction
  | .key k => s.handleKey k
  | .resize width height => let (s, effects) := s.resize width height; (s, { effects })
  | .output text => (s.write text, {})
  | .exited outcome => let (s, effects) := s.complete outcome; (s, { effects })
  | .requested ticket => s.accept ticket
  | .widget generation m =>
      match s.shown with
      | some shown => if shown.generation = generation then s.tell m else (s, {})
      | none => (s, {})

/-- The screen. -/
def view (s : Hosted) : Text :=
  if s.width = 0 ∨ s.height = 0 then waiting
  else
    let base := frame s.caption s.width s.outcome s.viewport
    match s.shown with
    | none => base
    | some shown => Modal.overlay base shown.widget.view s.screen s.theme

/-- What the session comes to, and what has to be done at its end. -/
def result (s : Hosted) : Outcome × List Effect :=
  (s.outcome.getD .interrupted, s.abandon.2)

end Hosted

instance : IsSession Hosted where
  handle := Hosted.handle
  view := Hosted.view
  isFinished := Hosted.finished
  generation := Hosted.generation

end Session
end TerminalDialogs
