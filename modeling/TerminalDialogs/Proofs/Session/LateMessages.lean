import TerminalDialogs.Proofs.Session.Generations
import Mathlib.Logic.Relation

/-!
# Late messages

What a widget asks for takes its time, and the answer may come when the widget
has long been closed and another one is shown.  Such a message is late, and the
session must take no notice of it.

One event settles the matter (`handle_of_isLate`).  Histories are compared by
putting late messages in, one at a time; taking out, repeating and moving are
made of that (`SameButLate`).  Since a late message leads nowhere and is not
answered, what is seen of a history is the same without it, whatever comes
before and after.
-/

namespace TerminalDialogs
namespace Session
namespace Hosted

/-- Whether an event is a message for another widget than the one that is shown. -/
def isLate (s : Hosted) : Event → Bool
  | .widget generation _ => s.shown.map Shown.generation != some generation
  | _ => false

/-- Nothing comes of a late message. -/
theorem handle_of_isLate {s : Hosted} {e : Event} (h : s.isLate e = true) :
    s.handle e = (s, {}) := by
  cases e with
  | widget generation m =>
    rw [handle]
    cases hs : s.shown with
    | none => rfl
    | some shown =>
      have hother : ¬ shown.generation = generation := by
        rw [isLate, hs] at h
        simpa using h
      dsimp only
      rw [if_neg hother]
  | key k => cases h
  | resize width height => cases h
  | output text => cases h
  | exited outcome => cases h
  | requested ticket => cases h

/-- The second history is the first with one late message put in. -/
inductive Insertion (s : Hosted) : List Event → List Event → Prop where
  | intro (past rest : List Event) {e : Event} (hlate : (after s past).isLate e = true) :
      Insertion s (past ++ rest) (past ++ e :: rest)

/-- Histories that differ only in late messages, which are put in or taken out
one after the other. -/
def SameButLate (s : Hosted) : List Event → List Event → Prop := Relation.EqvGen (Insertion s)

namespace SameButLate

variable {s : Hosted} {a b : List Event}

/-- What does not depend on one late message does not depend on any. -/
theorem eq_of_insertion {α : Type*} {f : List Event → α}
    (hf : ∀ a b, Insertion s a b → f a = f b) (h : SameButLate s a b) : f a = f b := by
  induction h with
  | rel a b hinsertion => exact hf a b hinsertion
  | refl a => rfl
  | symm a b _ ih => exact ih.symm
  | trans a b c _ _ hab hbc => exact hab.trans hbc

/-- A message that is late in both places may come in either. -/
theorem move (past between rest : List Event) {e : Event} (hearly : (after s past).isLate e = true)
    (hlater : (after s (past ++ between)).isLate e = true) :
    SameButLate s (past ++ e :: (between ++ rest)) (past ++ (between ++ e :: rest)) := by
  have hdrop : SameButLate s (past ++ e :: (between ++ rest)) (past ++ (between ++ rest)) :=
    Relation.EqvGen.symm _ _ (Relation.EqvGen.rel _ _ (Insertion.intro past _ hearly))
  have hinsert : Insertion s (past ++ between ++ rest) (past ++ between ++ e :: rest) :=
    Insertion.intro (past ++ between) rest hlater
  rw [List.append_assoc, List.append_assoc] at hinsert
  exact Relation.EqvGen.trans _ _ _ hdrop (Relation.EqvGen.rel _ _ hinsert)

end SameButLate

/-! ## What is seen of a history -/

/-- An event, how it is answered, and where it leads. -/
structure Moment where
  event : Event
  reaction : Reaction
  session : Hosted

/-- What is seen of a history, apart from the late messages. -/
def trace (s : Hosted) : List Event → List Moment
  | [] => []
  | e :: events =>
      (if s.isLate e then []
        else [{ event := e, reaction := (s.handle e).2, session := (s.handle e).1 }]) ++
      trace (s.handle e).1 events

theorem trace_append (s : Hosted) (a b : List Event) :
    s.trace (a ++ b) = s.trace a ++ (after s a).trace b := by
  induction a generalizing s with
  | nil => rfl
  | cons e a ih =>
    rw [List.cons_append, trace, trace, ih, List.append_assoc]
    rfl

namespace Insertion

variable {s : Hosted} {a b : List Event}

theorem after_eq (h : Insertion s a b) : after s a = after s b := by
  obtain ⟨past, rest, hlate⟩ := h
  rw [after_append, after_append, after_cons]
  exact (congrArg (fun p => after p.1 rest) (handle_of_isLate hlate)).symm

theorem trace_eq (h : Insertion s a b) : s.trace a = s.trace b := by
  obtain ⟨past, rest, hlate⟩ := h
  rw [trace_append, trace_append, trace, if_pos hlate, handle_of_isLate hlate]
  rfl

theorem effects_eq (h : Insertion s a b) : effects s a = effects s b := by
  obtain ⟨past, rest, hlate⟩ := h
  have hnothing : IsSession.handle (after s past) _ = (after s past, {}) := handle_of_isLate hlate
  rw [effects_append, effects_append, effects_cons, hnothing]
  rfl

theorem commands_eq (h : Insertion s a b) : commands s a = commands s b := by
  obtain ⟨past, rest, hlate⟩ := h
  have hnothing : IsSession.handle (after s past) _ = (after s past, {}) := handle_of_isLate hlate
  rw [commands_append, commands_append, commands, hnothing]
  rfl

end Insertion

/-! ## Runs -/

/-- A late message does not change when a session is finished. -/
theorem Insertion.heard {s : Hosted} {a b : List Event} (h : Insertion s a b) :
    SameButLate s (heard s a) (heard s b) := by
  obtain ⟨past, rest, hlate⟩ := h
  rw [heard_append, heard_append]
  by_cases hfinished : IsSession.isFinished (after s (Session.heard s past)) = true
  · rw [heard_of_finished hfinished, heard_of_finished hfinished]
    exact Relation.EqvGen.refl _
  · have hall : Session.heard s past = past := heard_of_not_finished hfinished
    rw [hall] at hfinished ⊢
    have hnothing : IsSession.handle (after s past) _ = (after s past, {}) := handle_of_isLate hlate
    rw [Session.heard, if_neg hfinished, hnothing]
    exact Relation.EqvGen.rel _ _ (Insertion.intro past _ hlate)

theorem SameButLate.heard {s : Hosted} {a b : List Event} (h : SameButLate s a b) :
    SameButLate s (heard s a) (heard s b) := by
  induction h with
  | rel a b hinsertion => exact hinsertion.heard
  | refl a => exact Relation.EqvGen.refl _
  | symm a b _ ih => exact Relation.EqvGen.symm _ _ ih
  | trans a b c _ _ hab hbc => exact Relation.EqvGen.trans _ _ _ hab hbc

/-- Runs on a working screen that differ only in late messages, however the
events are batched, come to the same. -/
theorem SameButLate.drive {drawing : Drawing} (hdrawing : ∀ n frame, drawing n frame = none)
    {s : Hosted} (hopen : s.finished = false) {width height : Nat} {batches others : List Batch}
    (h : SameButLate s (incoming width height batches) (incoming width height others)) :
    (drive drawing s width height batches).session = (drive drawing s width height others).session ∧
      (drive drawing s width height batches).effects =
        (drive drawing s width height others).effects ∧
      (drive drawing s width height batches).started =
        (drive drawing s width height others).started := by
  have hdelivers : ∀ batches : List Batch,
      (Session.drive drawing s width height batches).Delivers s
        (Session.heard s (incoming width height batches)) := by
    intro batches
    obtain ⟨k, hdelivers, hall⟩ := drive_delivers drawing s width height batches
    rw [hall hdrawing, List.take_length] at hdelivers
    have hnot : ¬ IsSession.isFinished s = true :=
      fun hfinished => Bool.false_ne_true (hopen.symm.trans hfinished)
    rw [incoming, Session.heard, if_neg hnot]
    exact hdelivers
  have h1 := hdelivers batches
  have h2 := hdelivers others
  rw [h1.session_eq, h1.effects_eq, h1.started_eq, h2.session_eq, h2.effects_eq, h2.started_eq]
  exact ⟨h.heard.eq_of_insertion fun _ _ h => h.after_eq,
    h.heard.eq_of_insertion fun _ _ h => h.effects_eq,
    h.heard.eq_of_insertion fun _ _ h => h.commands_eq⟩

/-- Whatever a run has started is kept under the generation of the widget that
asked for it. -/
theorem started_issued {s : Hosted} (hs : s.standing.Consistent) {drawing : Drawing}
    {width height : Nat} {batches : List Batch} {generation : Nat} {command : Widget.Effect}
    (h : (generation, command) ∈ (Session.drive drawing s width height batches).started) :
    ∃ past e rest shown, incoming width height batches = past ++ e :: rest ∧
      (after s (past ++ [e])).shown = some shown ∧ shown.generation = generation ∧
      Issues (after s past) e shown command := by
  obtain ⟨k, hdelivers, -⟩ := drive_delivers drawing s width height batches
  rw [hdelivers.started_eq] at h
  obtain ⟨past, e, rest, shown, hpast, hissued⟩ := commands_issued hs h
  obtain ⟨more, hmore⟩ := delivered_isPrefix s width height batches k
  refine ⟨past, e, rest ++ more, shown, ?_, hissued⟩
  rw [← hmore, hpast, List.append_assoc]
  rfl

/-- **Messages of closed widgets never touch later ones.**  Whatever a new
session has been told so far:

* the widgets that were opened have increasing generations, and the widget that
  is shown was opened last; the session's own generation is their number, so 64
  bits hold it while fewer than `2 ^ 64` of them are opened;
* when a command comes with the next event, the widget that asks for it is then
  shown, and the session has its generation;
* so every run starts every command under the generation of the widget that
  asked for it;
* histories that differ only in messages for other widgets than the one shown
  are seen alike: event by event the same answers and the same sessions, with
  their contents, their input and their views;
* and such runs come to the same, however their events are batched. -/
theorem generations_apart (caption : Caption) (theme : Modal.Theme) (files : Files.Tree)
    (input : Writer) (events : List Event) :
    let start := make caption theme files input
    let s := after start events
    (((start.openings events).map Shown.generation).Pairwise (· < ·) ∧
      s.generation = (start.openings events).length ∧
      ∀ shown, s.shown = some shown →
        ((start.openings events).map Shown.label).getLast? = some shown.label) ∧
    (∀ e command, (s.handle e).2.command = some command →
      ∃ shown, (s.handle e).1.shown = some shown ∧
        (s.handle e).1.generation = shown.generation ∧ Issues s e shown command) ∧
    (∀ drawing width height batches generation command,
      (generation, command) ∈ (Session.drive drawing start width height batches).started →
        ∃ past e rest shown, incoming width height batches = past ++ e :: rest ∧
          (after start (past ++ [e])).shown = some shown ∧ shown.generation = generation ∧
          Issues (after start past) e shown command) ∧
    (∀ other, SameButLate start events other →
      start.trace events = start.trace other ∧ s = after start other ∧
        effects start events = effects start other) ∧
    ∀ drawing width height batches others, (∀ n frame, drawing n frame = none) →
      SameButLate start (incoming width height batches) (incoming width height others) →
        let run := Session.drive drawing start width height batches
        let otherRun := Session.drive drawing start width height others
        run.session = otherRun.session ∧ run.effects = otherRun.effects ∧
          run.started = otherRun.started := by
  intro start s
  have hstart : start.standing.Consistent := make_consistent caption theme files input
  have hs : s.standing.Consistent := after_consistent hstart events
  refine ⟨⟨?_, ?_, ?_⟩, ?_, ?_, ?_, ?_⟩
  · rw [openings_generations]
    exact List.pairwise_lt_range'
  · have h := generation_after start events
    have hzero : start.generation = 0 := rfl
    rw [hzero, Nat.zero_add] at h
    exact h
  · intro shown hshown
    rcases shown_eq_opened (standing_shown hshown) with hlast | ⟨-, hnone⟩
    · exact hlast
    · cases hnone
  · intro e command hcommand
    exact generation_issues hs hcommand
  · intro drawing width height batches generation command hstarted
    exact started_issued hstart hstarted
  · intro other hother
    exact ⟨hother.eq_of_insertion fun _ _ h => h.trace_eq,
      hother.eq_of_insertion fun _ _ h => h.after_eq,
      hother.eq_of_insertion fun _ _ h => h.effects_eq⟩
  · intro drawing width height batches others hdrawing hothers
    exact hothers.drive hdrawing rfl

/-- A spinner is closed and another one opened; the first one's delay ends only
then. -/
theorem late_tick_unseen :
    let start := make {} ⟨⟨0, 0, 0⟩, ⟨0, 0, 0⟩, ⟨0, 0, 0⟩⟩ {} .working
    let spin (number : Nat) : Event := .requested
      { number, request :=
        { component := "spin".toList
          options := .object [("command".toList, .array [.string "sleep".toList])] } }
    let close : Event := .key { code := .escape }
    commands start [spin 1, close, spin 2] ≠ [] ∧
      start.trace [spin 1, close, spin 2] =
        start.trace [spin 1, close, spin 2, .widget 1 .tick] := by
  intro start spin close
  have hlate : (after start [spin 1, close, spin 2]).isLate (.widget 1 .tick) = true := rfl
  have hinsertion : Insertion start [spin 1, close, spin 2]
      [spin 1, close, spin 2, .widget 1 .tick] :=
    Insertion.intro [spin 1, close, spin 2] [] hlate
  obtain ⟨-, -, -, hseen, -⟩ := generations_apart {} ⟨⟨0, 0, 0⟩, ⟨0, 0, 0⟩, ⟨0, 0, 0⟩⟩ {} .working
    [spin 1, close, spin 2]
  refine ⟨?_, (hseen _ (Relation.EqvGen.rel _ _ hinsertion)).1⟩
  intro hnone
  have hcount : (commands start [spin 1, close, spin 2]).length = 2 := rfl
  rw [hnone] at hcount
  cases hcount

end Hosted
end Session
end TerminalDialogs
