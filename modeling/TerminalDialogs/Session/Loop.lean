import TerminalDialogs.Session.Event

/-!
# Running a session

Every session is run alike.  It is told the size of the screen first and then
the events in the order in which they come.  The screen is drawn before the
session waits for an event; all events that have come in the meantime are
applied before it is drawn again.  The run ends when the session is finished,
when no more events can come, or when the screen cannot be drawn.

What a widget asks for is started once, under the generation that the session
has right after the event.
-/

namespace TerminalDialogs

/-- What a run needs from a session. -/
class IsSession (σ : Type) where
  /-- Applies one event. -/
  handle : σ → Session.Event → σ × Session.Reaction
  /-- The screen. -/
  view : σ → Text
  /-- Whether the session is over. -/
  isFinished : σ → Bool
  /-- The generation of the widget that was shown last. -/
  generation : σ → Nat

namespace Session

/-- How far a run has come. -/
structure Run (σ : Type) where
  session : σ
  effects : List Effect := []
  /-- What was started, under which generation. -/
  started : List (Nat × Widget.Effect) := []
  /-- The screens that were drawn. -/
  frames : List Text := []
  /-- Why the screen could not be drawn. -/
  failure : Option Text := none

/-- Events that are found waiting together; there is at least one. -/
structure Batch where
  first : Event
  others : List Event := []

/-- The events of a batch in order. -/
def Batch.events (b : Batch) : List Event := b.first :: b.others

/-- Events that all wait from the start. -/
def Batch.ofEvents : List Event → List Batch
  | [] => []
  | first :: others => [⟨first, others⟩]

/-- Says for a frame, by its number and contents, why it cannot be drawn. -/
abbrev Drawing := Nat → Text → Option Text

namespace Run

variable {σ : Type} [IsSession σ]

/-- Applies one event. -/
def apply (r : Run σ) (e : Event) : Run σ :=
  let (session, reaction) := IsSession.handle r.session e
  { r with
    session
    effects := r.effects ++ reaction.effects
    started := r.started ++
      (reaction.command.map fun c => (IsSession.generation session, c)).toList }

/-- Applies events until the session is finished. -/
def applyAll (r : Run σ) : List Event → Run σ
  | [] => r
  | e :: events => if IsSession.isFinished r.session then r else (r.apply e).applyAll events

/-- Draws the screen. -/
def draw (drawing : Drawing) (r : Run σ) : Run σ :=
  let frame := IsSession.view r.session
  match drawing r.frames.length frame with
  | some failure => { r with failure := some failure }
  | none => { r with frames := r.frames ++ [frame] }

/-- Whether the run goes on after the screen was drawn. -/
def goesOn (r : Run σ) : Bool := r.failure.isNone && !IsSession.isFinished r.session

/-- Draws the screen and applies a batch, in turn. -/
def loop (drawing : Drawing) (r : Run σ) : List Batch → Run σ
  | [] => r.draw drawing
  | batch :: batches =>
      let drawn := r.draw drawing
      if drawn.goesOn then (drawn.applyAll batch.events).loop drawing batches else drawn

end Run

/-- Runs a session on a screen of the given size. -/
def drive {σ : Type} [IsSession σ] (drawing : Drawing) (session : σ) (width height : Nat)
    (batches : List Batch) : Run σ :=
  (Run.apply { session } (.resize width height)).loop drawing batches

end Session
end TerminalDialogs
