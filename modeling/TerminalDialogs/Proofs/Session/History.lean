import TerminalDialogs.Session.Loop

/-!
# Histories of a session

A session is a machine that is fed events; `after` is where events lead and
`reactions` is what it answers on the way.  An invariant is proved for one event
and carried along a history by `after_invariant`.

A history has no frames and does not stop.  `drive` draws the screen between its
batches and stops when the session is finished or the screen cannot be drawn,
but all it ever does is to deliver the events in order up to some point
(`drive_delivers`), so what is proved about histories holds for every run.
-/

namespace TerminalDialogs
namespace Session

variable {σ : Type} [IsSession σ]

/-- The session after events. -/
def after (s : σ) : List Event → σ
  | [] => s
  | e :: events => after (IsSession.handle s e).1 events

/-- How the session answers each of the events. -/
def reactions (s : σ) : List Event → List Reaction
  | [] => []
  | e :: events => (IsSession.handle s e).2 :: reactions (IsSession.handle s e).1 events

/-- What the session does to the world. -/
def effects (s : σ) (events : List Event) : List Effect :=
  (reactions s events).flatMap Reaction.effects

@[simp] theorem after_nil (s : σ) : after s [] = s := rfl

@[simp] theorem after_cons (s : σ) (e : Event) (events : List Event) :
    after s (e :: events) = after (IsSession.handle s e).1 events := rfl

@[simp] theorem effects_nil (s : σ) : effects s [] = [] := rfl

@[simp] theorem effects_cons (s : σ) (e : Event) (events : List Event) :
    effects s (e :: events) =
      (IsSession.handle s e).2.effects ++ effects (IsSession.handle s e).1 events := rfl

theorem after_append (s : σ) (a b : List Event) : after s (a ++ b) = after (after s a) b := by
  induction a generalizing s with
  | nil => rfl
  | cons e a ih => exact ih _

theorem effects_append (s : σ) (a b : List Event) :
    effects s (a ++ b) = effects s a ++ effects (after s a) b := by
  induction a generalizing s with
  | nil => rfl
  | cons e a ih => rw [List.cons_append, effects_cons, ih, effects_cons, List.append_assoc]; rfl

/-- What widgets ask for, each with the generation that the session has right
after the event that brought it about. -/
def commands (s : σ) : List Event → List (Nat × Widget.Effect)
  | [] => []
  | e :: events =>
      ((IsSession.handle s e).2.command.map fun c =>
        (IsSession.generation (IsSession.handle s e).1, c)).toList ++
      commands (IsSession.handle s e).1 events

theorem commands_append (s : σ) (a b : List Event) :
    commands s (a ++ b) = commands s a ++ commands (after s a) b := by
  induction a generalizing s with
  | nil => rfl
  | cons e a ih => rw [List.cons_append, commands, ih, commands, List.append_assoc]; rfl

/-- What events of some kind keep is kept by a history of such events. -/
theorem after_invariant_of {P : σ → Prop} {Q : Event → Prop}
    (hstep : ∀ s e, P s → Q e → P (IsSession.handle s e).1) {s : σ} (h : P s)
    {events : List Event} (hevents : ∀ e ∈ events, Q e) : P (after s events) := by
  induction events generalizing s with
  | nil => exact h
  | cons e events ih =>
    rw [List.forall_mem_cons] at hevents
    exact ih (hstep s e h hevents.1) hevents.2

/-- What every event keeps is kept by a history. -/
theorem after_invariant {P : σ → Prop} (hstep : ∀ s e, P s → P (IsSession.handle s e).1) {s : σ}
    (h : P s) (events : List Event) : P (after s events) :=
  after_invariant_of (Q := fun _ => True) (fun s e hs _ => hstep s e hs) h fun _ _ => trivial

/-! ## Runs -/

/-- The events up to the one that finishes the session. -/
def heard (s : σ) : List Event → List Event
  | [] => []
  | e :: events =>
      if IsSession.isFinished s then [] else e :: heard (IsSession.handle s e).1 events

/-- A finished session hears nothing any more. -/
theorem heard_of_finished {s : σ} (h : IsSession.isFinished s = true) (events : List Event) :
    heard s events = [] := by
  cases events with
  | nil => rfl
  | cons e events => rw [heard, if_pos h]

theorem heard_isPrefix (s : σ) (events : List Event) : heard s events <+: events := by
  induction events generalizing s with
  | nil => exact List.prefix_rfl
  | cons e events ih =>
    rw [heard]
    by_cases h : IsSession.isFinished s = true
    · rw [if_pos h]
      exact List.nil_prefix
    · rw [if_neg h]
      exact List.cons_prefix_cons.mpr ⟨rfl, ih _⟩

/-- A session that is not finished has heard everything. -/
theorem heard_of_not_finished {s : σ} {events : List Event}
    (h : ¬ IsSession.isFinished (after s (heard s events)) = true) : heard s events = events := by
  induction events generalizing s with
  | nil => rfl
  | cons e events ih =>
    rw [heard] at h ⊢
    by_cases hfinished : IsSession.isFinished s = true
    · rw [if_pos hfinished] at h
      exact absurd hfinished h
    · rw [if_neg hfinished] at h ⊢
      rw [ih h]

theorem heard_append (s : σ) (a b : List Event) :
    heard s (a ++ b) = heard s a ++ heard (after s (heard s a)) b := by
  induction a generalizing s with
  | nil => rfl
  | cons e a ih =>
    rw [List.cons_append, heard, heard]
    by_cases h : IsSession.isFinished s = true
    · rw [if_pos h, if_pos h, after_nil, heard_of_finished h]
      rfl
    · rw [if_neg h, if_neg h, ih]
      rfl

/-- A run that has delivered these events to a session. -/
structure Run.Delivers (s : σ) (events : List Event) (r : Run σ) : Prop where
  session_eq : r.session = Session.after s events
  effects_eq : r.effects = Session.effects s events
  started_eq : r.started = Session.commands s events

namespace Run

variable {s : σ} {r : Run σ} {past : List Event}

theorem Delivers.apply (h : r.Delivers s past) (e : Event) :
    (r.apply e).Delivers s (past ++ [e]) := by
  obtain ⟨hsession, heffects, hstarted⟩ := h
  constructor
  · rw [after_append, ← hsession]
    rfl
  · rw [effects_append, ← hsession, ← heffects, effects_cons, effects_nil, List.append_nil]
    rfl
  · rw [commands_append, ← hsession, ← hstarted, commands, commands, List.append_nil]
    rfl

/-- A batch is delivered up to the event that finishes the session. -/
theorem Delivers.applyAll (h : r.Delivers s past) (events : List Event) :
    (r.applyAll events).Delivers s (past ++ heard r.session events) := by
  induction events generalizing r past with
  | nil =>
    rw [heard, List.append_nil]
    exact h
  | cons e events ih =>
    rw [Run.applyAll, heard]
    by_cases hfinished : IsSession.isFinished r.session = true
    · rw [if_pos hfinished, if_pos hfinished, List.append_nil]
      exact h
    · rw [if_neg hfinished, if_neg hfinished]
      have hrest := ih (h.apply e)
      rw [List.append_assoc] at hrest
      exact hrest

/-- Drawing delivers nothing. -/
theorem Delivers.draw (h : r.Delivers s past) (drawing : Drawing) :
    (r.draw drawing).Delivers s past := by
  unfold Run.draw
  dsimp only
  cases drawing r.frames.length (IsSession.view r.session) with
  | some failure => exact ⟨h.session_eq, h.effects_eq, h.started_eq⟩
  | none => exact ⟨h.session_eq, h.effects_eq, h.started_eq⟩

theorem session_draw (r : Run σ) (drawing : Drawing) : (r.draw drawing).session = r.session := by
  unfold draw
  dsimp only
  cases drawing r.frames.length (IsSession.view r.session) <;> rfl

theorem failure_applyAll (r : Run σ) (events : List Event) :
    (r.applyAll events).failure = r.failure := by
  induction events generalizing r with
  | nil => rfl
  | cons e events ih =>
    rw [applyAll]
    split
    · rfl
    · rw [ih]
      rfl

theorem failure_draw {drawing : Drawing} (hdrawing : ∀ n frame, drawing n frame = none)
    (r : Run σ) : (r.draw drawing).failure = r.failure := by
  unfold draw
  dsimp only
  rw [hdrawing]

/-- Batches are delivered up to the event that finishes the session, or up to
the screen that cannot be drawn. -/
theorem Delivers.loop (h : r.Delivers s past) (drawing : Drawing) (batches : List Batch) :
    ∃ k, (r.loop drawing batches).Delivers s
        (past ++ heard r.session ((batches.take k).flatMap Batch.events)) ∧
      ((∀ n frame, drawing n frame = none) → r.failure = none → k = batches.length) := by
  induction batches generalizing r past with
  | nil =>
    refine ⟨0, ?_, fun _ _ => rfl⟩
    rw [List.take_nil, List.flatMap_nil, heard, List.append_nil]
    exact h.draw drawing
  | cons batch batches ih =>
    have hdrawn : (r.draw drawing).Delivers s past := h.draw drawing
    by_cases hfinished : IsSession.isFinished r.session = true
    · refine ⟨(batch :: batches).length, ?_, fun _ _ => rfl⟩
      rw [heard_of_finished hfinished, List.append_nil, Run.loop, if_neg]
      · exact hdrawn
      · rw [goesOn, session_draw, hfinished, Bool.not_true, Bool.and_false]
        exact Bool.false_ne_true
    · rw [Run.loop]
      by_cases hgoes : (r.draw drawing).goesOn = true
      · rw [if_pos hgoes]
        have happlied := hdrawn.applyAll batch.events
        obtain ⟨k, hloop, hall⟩ := ih happlied
        refine ⟨k + 1, ?_, ?_⟩
        · rw [happlied.session_eq, after_append, ← hdrawn.session_eq, session_draw,
            List.append_assoc, ← heard_append] at hloop
          rw [List.take_succ_cons, List.flatMap_cons]
          exact hloop
        · intro hdrawing hnone
          rw [List.length_cons, hall hdrawing]
          rw [failure_applyAll, failure_draw hdrawing, hnone]
      · rw [if_neg hgoes]
        refine ⟨0, ?_, ?_⟩
        · rw [List.take_zero, List.flatMap_nil, heard, List.append_nil]
          exact hdrawn
        · intro hdrawing hnone
          rw [goesOn, failure_draw hdrawing, session_draw, hnone] at hgoes
          simp [hfinished] at hgoes

end Run

/-- What comes for a session on a screen of the given size. -/
def incoming (width height : Nat) (batches : List Batch) : List Event :=
  .resize width height :: batches.flatMap Batch.events

/-- What a run that is never stopped by the screen delivers. -/
def delivered (s : σ) (width height : Nat) (batches : List Batch) : List Event :=
  .resize width height ::
    heard (IsSession.handle s (.resize width height)).1 (batches.flatMap Batch.events)

theorem delivered_isPrefix (s : σ) (width height : Nat) (batches : List Batch) (k : Nat) :
    delivered s width height (batches.take k) <+: incoming width height batches := by
  refine List.cons_prefix_cons.mpr ⟨rfl, (heard_isPrefix _ _).trans ?_⟩
  refine ⟨(batches.drop k).flatMap Batch.events, ?_⟩
  rw [← List.flatMap_append, List.take_append_drop]

/-- A run delivers the events in order, up to the one that finishes the session
or to a screen that cannot be drawn. -/
theorem drive_delivers (drawing : Drawing) (s : σ) (width height : Nat) (batches : List Batch) :
    ∃ k, (drive drawing s width height batches).Delivers s
        (delivered s width height (batches.take k)) ∧
      ((∀ n frame, drawing n frame = none) → k = batches.length) := by
  have hstart : Run.Delivers s [] { session := s } := ⟨rfl, rfl, rfl⟩
  obtain ⟨k, hdelivers, hall⟩ := (hstart.apply (.resize width height)).loop drawing batches
  exact ⟨k, hdelivers, fun hdrawing => hall hdrawing rfl⟩

end Session
end TerminalDialogs
