import TerminalDialogs.Proofs.Session.History
import TerminalDialogs.Session.Hosted

/-!
# How a session stands towards those who ask for widgets

Of a session in a terminal of its own, very little decides who gets an answer
and who may ask: its stage, its outcome, the number of widgets opened so far,
and the generation and the ticket of the widget that is shown.  That is its
`Standing`.

`handle_change` says once what an event does to the standing, which widget it
opens, what it replies, and when a command may come with it.  What is proved
about requests, replies and generations is read off the seven cases of `Change`.
-/

namespace TerminalDialogs
namespace Session

/-- What a session owes, and to whom. -/
structure Standing where
  stage : Stage
  outcome : Option Outcome
  /-- The generation of the widget that was opened last. -/
  generation : Nat
  /-- The generation and the ticket of the widget that is shown. -/
  shown : Option (Nat × Nat)

/-- A widget's generation and the ticket that waits for it; of a widget that is
shown these two never change. -/
def Shown.label (shown : Shown) : Nat × Nat := (shown.generation, shown.ticket)

/-- How a session stands. -/
def Hosted.standing (s : Hosted) : Standing :=
  { stage := s.stage, outcome := s.outcome, generation := s.generation,
    shown := s.shown.map Shown.label }

/-- The widget that an event opens: the one that is asked for, if it can be had
and the command is running. -/
def Hosted.opening? (s : Hosted) : Event → Option Shown
  | .requested ticket =>
      if s.stage = .executing then
        (s.widgetOf ticket.request).toOption.map fun widget =>
          { generation := s.generation + 1, widget, ticket := ticket.number }
      else none
  | _ => none

/-- The ticket that is answered by an effect. -/
def Effect.answers? : Effect → Option Nat
  | .reply ticket _ => some ticket
  | _ => none

/-- The tickets that are answered, in order. -/
def answered (effects : List Effect) : List Nat := effects.filterMap Effect.answers?

/-- The ticket with which an event asks. -/
def Event.asks? : Event → Option Nat
  | .requested ticket => some ticket.number
  | _ => none

/-- The tickets of the requests among events, in order. -/
def asked (events : List Event) : List Nat := events.filterMap Event.asks?

/-- The ticket that waits for the widget that is shown. -/
def Standing.waiting (c : Standing) : List Nat := (c.shown.map Prod.snd).toList

/-- What an event can do: how the session stands afterwards, the label of the
widget that is opened, which tickets are answered, and which command comes with
it. -/
inductive Change (c : Standing) :
    Event → Standing → Option (Nat × Nat) → List Nat → Option Widget.Effect → Prop where
  /-- The event does not concern widgets. -/
  | quiet {e : Event} (hask : e.asks? = none) : Change c e c none [] none
  /-- A request is refused. -/
  | refused (ticket : Ticket) : Change c (.requested ticket) c none [ticket.number] none
  /-- The widget that is shown is told something. -/
  | told {e : Event} (hask : e.asks? = none) {generation number : Nat}
      (hshown : c.shown = some (generation, number)) (command : Option Widget.Effect) :
      Change c e c none [] command
  /-- The widget that is shown is done. -/
  | closed {e : Event} (hask : e.asks? = none) {generation number : Nat}
      (hshown : c.shown = some (generation, number)) :
      Change c e { c with stage := .executing, shown := none } none [number] none
  /-- A widget is opened and shown. -/
  | opened (ticket : Ticket) (hstage : c.stage = .executing) (command : Option Widget.Effect) :
      Change c (.requested ticket)
        { c with stage := .showingWidget, generation := c.generation + 1,
                 shown := some (c.generation + 1, ticket.number) }
        (some (c.generation + 1, ticket.number)) [] command
  /-- A widget is opened and done at once. -/
  | answeredAtOnce (ticket : Ticket) (hstage : c.stage = .executing) :
      Change c (.requested ticket)
        { c with generation := c.generation + 1, shown := none }
        (some (c.generation + 1, ticket.number)) [ticket.number] none
  /-- The command has ended; the widget that is shown is dismissed. -/
  | ended (outcome : Outcome) :
      Change c (.exited outcome)
        { c with stage := .completed, outcome := some outcome, shown := none }
        none c.waiting none

namespace Hosted

/-! ## The operations -/

theorem settle_of_done {s : Hosted} {shown : Shown} (h : shown.widget.isDone = true)
    (command : Option Widget.Effect) :
    s.settle shown command =
      ({ s with shown := none, stage := .executing },
        { effects := [.reply shown.ticket (replyOf shown.widget)] }) := by
  rw [settle, if_pos h]

theorem settle_of_open {s : Hosted} {shown : Shown} (h : ¬ shown.widget.isDone = true)
    (command : Option Widget.Effect) :
    s.settle shown command = ({ s with shown := some shown }, { command }) := by
  rw [settle, if_neg h]

theorem standing_shown {s : Hosted} {shown : Shown} (h : s.shown = some shown) :
    s.standing.shown = some shown.label := by
  rw [standing, h]
  rfl

/-- Telling the widget that is shown something keeps the standing or closes it. -/
theorem tell_change (s : Hosted) {e : Event} (hask : e.asks? = none) (m : Widget.Message) :
    Change s.standing e (s.tell m).1.standing none (answered (s.tell m).2.effects)
      (s.tell m).2.command := by
  rw [tell]
  rcases hs : s.shown with _ | shown
  · exact Change.quiet hask
  · have hshown : s.standing.shown = some shown.label := standing_shown hs
    dsimp only
    by_cases hdone : (shown.widget.update s.files m).1.isDone = true
    · rw [settle_of_done hdone]
      exact Change.closed hask hshown
    · rw [settle_of_open hdone]
      -- the widget has changed, its generation and its ticket have not
      have hstay : standing { s with shown := some { shown with
          widget := (shown.widget.update s.files m).1 } } = s.standing := by
        rw [standing, standing, hs]
        rfl
      rw [hstay]
      exact Change.told hask hshown _

/-- A request opens no widget and is refused, or its widget is opened. -/
theorem accept_cases (s : Hosted) (ticket : Ticket) :
    (s.opening? (.requested ticket) = none ∧ ∃ reason, s.accept ticket = s.refuse ticket reason) ∨
      ∃ opened, s.stage = .executing ∧ s.opening? (.requested ticket) = some opened ∧
        opened.label = (s.generation + 1, ticket.number) ∧
        s.accept ticket =
          settle { s with generation := s.generation + 1, stage := .showingWidget } opened
            opened.widget.init := by
  unfold opening? accept
  by_cases hstage : s.stage = .executing
  · dsimp only
    rw [if_pos hstage]
    cases hwidget : s.widgetOf ticket.request with
    | error reason =>
      refine Or.inl ⟨rfl, "failed to create component: ".toList ++ reason.message, ?_⟩
      rw [hstage]
    | ok widget =>
      refine Or.inr ⟨_, hstage, rfl, rfl, ?_⟩
      rw [hstage]
  · dsimp only
    rw [if_neg hstage]
    refine Or.inl ⟨rfl, ?_⟩
    cases h : s.stage with
    | executing => exact absurd h hstage
    | showingWidget => exact ⟨_, rfl⟩
    | completed => exact ⟨_, rfl⟩

/-- A request is refused, or its widget is opened. -/
theorem accept_change (s : Hosted) (ticket : Ticket) :
    Change s.standing (.requested ticket) (s.accept ticket).1.standing
      ((s.opening? (.requested ticket)).map Shown.label)
      (answered (s.accept ticket).2.effects) (s.accept ticket).2.command := by
  rcases accept_cases s ticket with ⟨hnone, reason, haccept⟩ |
    ⟨opened, hstage, hopened, hlabel, haccept⟩
  · rw [hnone, haccept]
    exact Change.refused ticket
  · have hnew : opened.label = (s.standing.generation + 1, ticket.number) := hlabel
    have hticket : ticket.number = opened.ticket := (congrArg Prod.snd hlabel).symm
    have hstay : s.standing.stage = .executing := hstage
    rw [hopened, haccept, Option.map_some]
    by_cases hdone : opened.widget.isDone = true
    · have h := Change.answeredAtOnce ticket hstay
      rw [← hnew, hticket, hstay] at h
      rw [settle_of_done hdone]
      exact h
    · have h := Change.opened ticket hstay opened.widget.init
      rw [← hnew] at h
      rw [settle_of_open hdone]
      exact h

/-- What is passed on to the command answers nobody. -/
theorem forward_change (s : Hosted) (k : Key) :
    (s.forward k).1.standing = s.standing ∧ answered (s.forward k).2 = [] := by
  unfold forward
  by_cases hquit : k.isForceQuit = true
  · rw [if_pos hquit]
    exact ⟨rfl, rfl⟩
  · rw [if_neg hquit]
    cases k.bytes? with
    | none => exact ⟨rfl, rfl⟩
    | some bytes =>
      refine ⟨rfl, ?_⟩
      dsimp only
      cases (s.input.write bytes).1 <;> rfl

/-- A key is for the command, for the widget or for the summary. -/
theorem handleKey_change (s : Hosted) (k : Key) :
    Change s.standing (.key k) (s.handleKey k).1.standing none
      (answered (s.handleKey k).2.effects) (s.handleKey k).2.command := by
  unfold handleKey
  cases hstage : s.stage with
  | completed =>
    have hstay : Change s.standing (.key k) s.standing none [] none := Change.quiet rfl
    rw [standing, hstage] at hstay ⊢
    cases review s.viewport k with
    | leave => exact hstay
    | «show» viewport => exact hstay
  | showingWidget => exact tell_change s rfl (.key k)
  | executing =>
    obtain ⟨hstay, hnone⟩ := forward_change s k
    dsimp only
    rw [hstay, hnone]
    exact Change.quiet rfl

/-- A widget that gets another size keeps its generation and its ticket. -/
theorem resize_change (s : Hosted) (width height : Nat) :
    (s.resize width height).1.standing = s.standing ∧
      answered (s.resize width height).2 = [] := by
  constructor
  · rw [resize, standing, standing]
    cases s.shown <;> rfl
  · rw [resize]
    dsimp only
    split <;> rfl

/-- Whoever waits for the widget that is shown learns that it is dismissed. -/
theorem abandon_change (s : Hosted) :
    s.abandon.1.standing = { s.standing with shown := none } ∧
      answered s.abandon.2 = s.standing.waiting := by
  rw [abandon, Standing.waiting]
  cases hs : s.shown with
  | none =>
    dsimp only
    rw [standing, hs]
    exact ⟨rfl, rfl⟩
  | some shown =>
    rw [standing, standing, hs]
    exact ⟨rfl, rfl⟩

/-- The end of the command dismisses the widget that is shown. -/
theorem complete_change (s : Hosted) (outcome : Outcome) :
    Change s.standing (.exited outcome) (s.complete outcome).1.standing none
      (answered (s.complete outcome).2) none := by
  obtain ⟨hnone, hwaiting⟩ := abandon_change s
  have hstanding : (s.complete outcome).1.standing =
      { s.abandon.1.standing with stage := .completed, outcome := some outcome } := rfl
  have heffects : (s.complete outcome).2 = s.abandon.2 := rfl
  rw [hstanding, heffects, hnone, hwaiting]
  exact Change.ended outcome

/-- **What an event does to a session's standing** is one of seven things. -/
theorem handle_change (s : Hosted) (e : Event) :
    Change s.standing e (s.handle e).1.standing ((s.opening? e).map Shown.label)
      (answered (s.handle e).2.effects) (s.handle e).2.command := by
  cases e with
  | key k => exact handleKey_change s k
  | resize width height =>
    obtain ⟨hstay, hnone⟩ := resize_change s width height
    rw [handle]
    dsimp only
    rw [hstay, hnone]
    exact Change.quiet rfl
  | output text => exact Change.quiet rfl
  | exited outcome => exact complete_change s outcome
  | requested ticket => exact accept_change s ticket
  | widget generation m =>
    rw [handle]
    cases s.shown with
    | none => exact Change.quiet rfl
    | some shown =>
      dsimp only
      by_cases hsame : shown.generation = generation
      · rw [if_pos hsame]
        exact tell_change s rfl m
      · rw [if_neg hsame]
        exact Change.quiet rfl

end Hosted

/-! ## The invariant -/

/-- What holds of every standing that a session can come to. -/
structure Standing.Consistent (c : Standing) : Prop where
  shown_iff : c.shown.isSome ↔ c.stage = .showingWidget
  outcome_iff : c.outcome.isSome ↔ c.stage = .completed
  /-- The widget that is shown is the one that was opened last. -/
  last_shown : ∀ generation number, c.shown = some (generation, number) →
    generation = c.generation

namespace Change

variable {c c' : Standing} {e : Event} {opened : Option (Nat × Nat)} {tickets : List Nat}
  {command : Option Widget.Effect}

theorem consistent (h : Change c e c' opened tickets command) (hc : c.Consistent) :
    c'.Consistent := by
  cases h with
  | quiet hask => exact hc
  | refused ticket => exact hc
  | told hask hshown => exact hc
  | closed hask hshown =>
    have hstage : c.stage = .showingWidget := hc.shown_iff.mp (by rw [hshown]; rfl)
    constructor
    · simp
    · simp [hc.outcome_iff, hstage]
    · intro generation number h
      cases h
  | opened ticket hstage =>
    constructor
    · simp
    · simp [hc.outcome_iff, hstage]
    · intro generation number h
      cases h
      rfl
  | answeredAtOnce ticket hstage =>
    constructor
    · simp [hstage]
    · simp [hc.outcome_iff, hstage]
    · intro generation number h
      cases h
  | ended outcome =>
    constructor
    · simp
    · simp
    · intro generation number h
      cases h

/-- No event brings a command back that has ended. -/
theorem completed (h : Change c e c' opened tickets command) (hc : c.Consistent)
    (hstage : c.stage = .completed) : c'.stage = .completed := by
  cases h with
  | quiet hask => exact hstage
  | refused ticket => exact hstage
  | told hask hshown => exact hstage
  | closed hask hshown =>
    have h : c.stage = .showingWidget := hc.shown_iff.mp (by rw [hshown]; rfl)
    rw [hstage] at h
    cases h
  | opened ticket h =>
    rw [hstage] at h
    cases h
  | answeredAtOnce ticket h =>
    rw [hstage] at h
    cases h
  | ended outcome => rfl

end Change

namespace Hosted

theorem make_consistent (caption : Caption) (theme : Modal.Theme) (files : Files.Tree)
    (input : Writer) : (make caption theme files input).standing.Consistent := by
  constructor
  · simp [standing, make]
  · simp [standing, make]
  · intro generation number h
    cases h

theorem after_consistent {s : Hosted} (h : s.standing.Consistent) (events : List Event) :
    (after s events).standing.Consistent :=
  after_invariant (P := fun s => s.standing.Consistent)
    (fun s e hs => (handle_change s e).consistent hs) h events

end Hosted
end Session
end TerminalDialogs
