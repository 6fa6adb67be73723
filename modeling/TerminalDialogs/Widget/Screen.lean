import TerminalDialogs.Failure
import TerminalDialogs.Session.Event
import TerminalDialogs.Widget

/-!
# A widget on the whole screen

A widget that owns the screen is drawn before each event and after the last
one.  The run ends when the widget is done, when no more events can come, or
when the screen cannot be drawn; a widget that is not done by then counts as
dismissed.

The run knows no more of a widget than its protocol (`IsWidget`), and the files
may be others at each event.
-/

namespace TerminalDialogs

/-- What a run needs from a widget. -/
class IsWidget (σ : Type) where
  /-- What the widget asks for at first. -/
  init : σ → Option Widget.Effect
  /-- What a message does to the widget, with the files as they are, and what the widget asks
  for. -/
  update : Files.Tree → Widget.Message → σ → σ × Option Widget.Effect
  /-- Changes the room for the widget. -/
  setSize : (width height : Nat) → σ → σ
  /-- The widget as text. -/
  view : σ → Text
  /-- Whether nothing more will happen. -/
  isDone : σ → Bool
  /-- What the widget yields, unless it was dismissed. -/
  result : σ → Except Widget.Error Widget.Value

namespace Widget

instance : IsWidget Widget where
  init := init
  update := update
  setSize := setSize
  view := view
  isDone := isDone
  result := result

/-- What a widget on the whole screen is told. -/
inductive ScreenEvent where
  | terminal (event : TerminalEvent)
  | message (m : Message)
  deriving DecidableEq, Repr

/-- An event, and the files as they are when the widget is told. -/
structure Moment where
  files : Files.Tree
  event : ScreenEvent

/-- How far a run has come. -/
structure ScreenRun (σ : Type) where
  widget : σ
  /-- What was started. -/
  started : List Effect := []
  /-- The screens that were drawn. -/
  frames : List Text := []
  /-- Why the screen could not be drawn. -/
  failure : Option Text := none

/-- Says for a frame, by its number and contents, why it cannot be drawn. -/
abbrev Drawing := Nat → Text → Option Text

variable {σ : Type} [IsWidget σ]

namespace ScreenRun

/-- The run at its start, on a screen of the given size. -/
def start (widget : σ) (width height : Nat) : ScreenRun σ :=
  let widget := IsWidget.setSize width height widget
  { widget, started := (IsWidget.init widget).toList }

/-- Tells the widget something. -/
def tell (files : Files.Tree) (r : ScreenRun σ) (m : Message) : ScreenRun σ :=
  let (widget, effect) := IsWidget.update files m r.widget
  { r with widget, started := r.started ++ effect.toList }

/-- Applies one event. -/
def apply (files : Files.Tree) (r : ScreenRun σ) : ScreenEvent → ScreenRun σ
  | .terminal (.key k) => r.tell files (.key k)
  | .terminal (.resize width height) =>
      { r with widget := IsWidget.setSize width height r.widget }
  | .terminal .other => r
  | .message m => r.tell files m

/-- Draws the widget. -/
def draw (drawing : Drawing) (r : ScreenRun σ) : ScreenRun σ :=
  let frame := IsWidget.view r.widget
  match drawing r.frames.length frame with
  | some failure => { r with failure := some failure }
  | none => { r with frames := r.frames ++ [frame] }

/-- Draws the widget and applies an event, in turn, while the files may change. -/
def follow (drawing : Drawing) (r : ScreenRun σ) : List Moment → ScreenRun σ
  | [] => r.draw drawing
  | m :: moments =>
      let drawn := r.draw drawing
      if drawn.failure.isSome || IsWidget.isDone drawn.widget then drawn
      else (drawn.apply m.files m.event).follow drawing moments

/-- Draws the widget and applies an event, in turn, while the files stay as they are. -/
def loop (files : Files.Tree) (drawing : Drawing) (r : ScreenRun σ) (events : List ScreenEvent) :
    ScreenRun σ :=
  r.follow drawing (events.map (⟨files, ·⟩))

/-- What the run comes to. -/
def result (r : ScreenRun σ) : Except Failure Value :=
  match r.failure with
  | some reason => .error (.because reason)
  | none =>
      if IsWidget.isDone r.widget then (IsWidget.result r.widget).mapError Failure.ofWidget
      else .error (.ofWidget .cancelled)

end ScreenRun

/-- Runs a widget on a screen of the given size. -/
def runOnScreen (drawing : Drawing) (widget : σ) (width height : Nat) (moments : List Moment) :
    ScreenRun σ :=
  (ScreenRun.start widget width height).follow drawing moments

end Widget
end TerminalDialogs
