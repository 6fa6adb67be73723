import TerminalDialogs.Proofs.Session.Standing

/-!
# Generations

No two widgets share a generation: they are numbered in the order in which they
are opened (`openings_generations`), and the one that is shown was opened last
(`shown_eq_opened`).

What a widget asks for is started under the generation that the session has
after the event.  That is the generation of the widget that asks
(`commands_issued`), because a widget asks only when it stays on the screen
(`handle_issues`), and what is on the screen was opened last.
-/

namespace TerminalDialogs
namespace Session

/-! ## One number a widget -/

namespace Change

variable {c c' : Standing} {e : Event} {opened : Option (Nat × Nat)} {tickets : List Nat}
  {command : Option Widget.Effect}

/-- A widget that is opened gets the next number. -/
theorem generation_opened {label : Nat × Nat} (h : Change c e c' opened tickets command)
    (hopened : opened = some label) : label.1 = c.generation + 1 := by
  cases h with
  | quiet hask => cases hopened
  | refused ticket => cases hopened
  | told hask hshown => cases hopened
  | closed hask hshown => cases hopened
  | opened ticket hstage => cases hopened; rfl
  | answeredAtOnce ticket hstage => cases hopened; rfl
  | ended outcome => cases hopened

theorem generation_eq (h : Change c e c' opened tickets command) :
    c'.generation = c.generation + opened.toList.length := by
  cases h <;> rfl

/-- A widget that is shown was opened just now or was shown before. -/
theorem shown_cases {label : Nat × Nat} (h : Change c e c' opened tickets command)
    (hshown : c'.shown = some label) :
    opened = some label ∨ opened = none ∧ c.shown = some label := by
  cases h with
  | quiet hask => exact Or.inr ⟨rfl, hshown⟩
  | refused ticket => exact Or.inr ⟨rfl, hshown⟩
  | told hask hbefore => exact Or.inr ⟨rfl, hshown⟩
  | closed hask hbefore => cases hshown
  | opened ticket hstage => exact Or.inl hshown
  | answeredAtOnce ticket hstage => cases hshown
  | ended outcome => cases hshown

end Change

namespace Hosted

/-- The widgets that are opened along a history, in order. -/
def openings (s : Hosted) : List Event → List Shown
  | [] => []
  | e :: events => (s.opening? e).toList ++ openings (s.handle e).1 events

theorem generation_handle (s : Hosted) (e : Event) :
    (s.handle e).1.generation = s.generation + (s.opening? e).toList.length := by
  have h := (handle_change s e).generation_eq
  rw [Option.toList_map, List.length_map] at h
  exact h

/-- Widgets are numbered in the order in which they are opened. -/
theorem openings_generations (s : Hosted) (events : List Event) :
    (s.openings events).map Shown.generation =
      List.range' (s.generation + 1) (s.openings events).length := by
  induction events generalizing s with
  | nil => rfl
  | cons e events ih =>
    rw [openings, List.map_append, ih, generation_handle, List.length_append]
    cases hopened : s.opening? e with
    | none => simp
    | some opened =>
      have hlabel : (s.opening? e).map Shown.label = some opened.label := by
        rw [hopened]
        rfl
      have hfirst : opened.generation = s.generation + 1 :=
        (handle_change s e).generation_opened hlabel
      rw [Option.toList_some, List.length_singleton, Nat.add_comm 1, List.range'_succ, ← hfirst]
      rfl

/-- The session has as many numbers given out as widgets were opened. -/
theorem generation_after (s : Hosted) (events : List Event) :
    (after s events).generation = s.generation + (s.openings events).length := by
  induction events generalizing s with
  | nil => rfl
  | cons e events ih =>
    rw [openings, List.length_append, ← Nat.add_assoc, ← generation_handle]
    exact ih _

/-- The widget that is shown is the one that was opened last, or it was shown
from the start. -/
theorem shown_eq_opened {s : Hosted} {events : List Event} {label : Nat × Nat}
    (h : (after s events).standing.shown = some label) :
    ((s.openings events).map Shown.label).getLast? = some label ∨
      s.openings events = [] ∧ s.standing.shown = some label := by
  induction events generalizing s with
  | nil => exact Or.inr ⟨rfl, h⟩
  | cons e events ih =>
    rw [openings, List.map_append, List.getLast?_append]
    have hafter : (after (s.handle e).1 events).standing.shown = some label := h
    rcases ih hafter with hlast | ⟨hnone, hshown⟩
    · left
      rw [hlast]
      rfl
    · rw [hnone]
      rcases (handle_change s e).shown_cases hshown with hopened | ⟨hopened, hbefore⟩
      · left
        obtain ⟨opened, hwidget, rfl⟩ := Option.map_eq_some_iff.mp hopened
        rw [hwidget]
        rfl
      · right
        rw [Option.map_eq_none_iff.mp hopened]
        exact ⟨rfl, hbefore⟩

/-! ## Who asks for a command -/

/-- What an event has to tell the widget that is shown. -/
def message? : Event → Option Widget.Message
  | .key k => some (.key k)
  | .widget _ m => some m
  | _ => none

/-- The widget that is shown after an event asks for a command: it was opened by
the event, or told something. -/
inductive Issues (s : Hosted) (e : Event) (shown : Shown) (command : Widget.Effect) : Prop where
  | opened (hopened : s.opening? e = some shown) (hinit : shown.widget.init = some command)
  | updated {before : Shown} {m : Widget.Message} (hbefore : s.shown = some before)
      (hlabel : shown.label = before.label) (hmessage : message? e = some m)
      (hupdate : before.widget.update s.files m = (shown.widget, some command))

theorem settle_issues {s : Hosted} {shown : Shown} {asked : Option Widget.Effect}
    {command : Widget.Effect} (h : (s.settle shown asked).2.command = some command) :
    (s.settle shown asked).1.shown = some shown ∧ asked = some command := by
  by_cases hdone : shown.widget.isDone = true
  · rw [settle_of_done hdone] at h
    cases h
  · rw [settle_of_open hdone] at h ⊢
    exact ⟨rfl, h⟩

theorem tell_issues {s : Hosted} {e : Event} {m : Widget.Message} {command : Widget.Effect}
    (hmessage : message? e = some m) (h : (s.tell m).2.command = some command) :
    ∃ shown, (s.tell m).1.shown = some shown ∧ Issues s e shown command := by
  rw [tell] at h ⊢
  cases hs : s.shown with
  | none =>
    rw [hs] at h
    cases h
  | some before =>
    rw [hs] at h
    obtain ⟨hshown, hcommand⟩ := settle_issues h
    exact ⟨_, hshown, Issues.updated hs rfl hmessage (Prod.ext rfl hcommand)⟩

theorem accept_issues {s : Hosted} {ticket : Ticket} {command : Widget.Effect}
    (h : (s.accept ticket).2.command = some command) :
    ∃ shown, (s.accept ticket).1.shown = some shown ∧
      Issues s (.requested ticket) shown command := by
  rcases accept_cases s ticket with ⟨-, reason, haccept⟩ | ⟨opened, -, hopened, -, haccept⟩
  · rw [haccept] at h
    cases h
  · rw [haccept] at h ⊢
    obtain ⟨hshown, hcommand⟩ := settle_issues h
    exact ⟨opened, hshown, Issues.opened hopened hcommand⟩

/-- When a command comes with an event, the widget that asks for it is shown
after the event. -/
theorem handle_issues {s : Hosted} {e : Event} {command : Widget.Effect}
    (h : (s.handle e).2.command = some command) :
    ∃ shown, (s.handle e).1.shown = some shown ∧ Issues s e shown command := by
  cases e with
  | key k =>
    rw [handle, handleKey] at h ⊢
    cases hstage : s.stage with
    | completed =>
      rw [hstage] at h
      dsimp only at h
      cases hreview : review s.viewport k <;> rw [hreview] at h <;> cases h
    | showingWidget =>
      rw [hstage] at h
      exact tell_issues rfl h
    | executing =>
      rw [hstage] at h
      cases h
  | resize width height => cases h
  | output text => cases h
  | exited outcome => cases h
  | requested ticket => exact accept_issues h
  | widget generation m =>
    rw [handle] at h ⊢
    cases hs : s.shown with
    | none =>
      rw [hs] at h
      cases h
    | some shown =>
      rw [hs] at h
      dsimp only at h ⊢
      by_cases hsame : shown.generation = generation
      · rw [if_pos hsame] at h ⊢
        exact tell_issues rfl h
      · rw [if_neg hsame] at h
        cases h

/-- Right after the event, the session has the generation of the widget that
asks. -/
theorem generation_issues {s : Hosted} (hs : s.standing.Consistent) {e : Event}
    {command : Widget.Effect} (h : (s.handle e).2.command = some command) :
    ∃ shown, (s.handle e).1.shown = some shown ∧
      (s.handle e).1.generation = shown.generation ∧ Issues s e shown command := by
  obtain ⟨shown, hshown, hissues⟩ := handle_issues h
  have hnext : (s.handle e).1.standing.Consistent := (handle_change s e).consistent hs
  exact ⟨shown, hshown, (hnext.last_shown _ _ (standing_shown hshown)).symm, hissues⟩

/-- Every command is kept under the generation of the widget that asked for it. -/
theorem commands_issued {s : Hosted} (hs : s.standing.Consistent) {events : List Event}
    {generation : Nat} {command : Widget.Effect}
    (h : (generation, command) ∈ commands s events) :
    ∃ past e rest shown, events = past ++ e :: rest ∧
      (after s (past ++ [e])).shown = some shown ∧ shown.generation = generation ∧
      Issues (after s past) e shown command := by
  induction events generalizing s with
  | nil => cases h
  | cons e events ih =>
    rw [commands, List.mem_append, Option.mem_toList, Option.map_eq_some_iff] at h
    rcases h with ⟨command', hcommand, hpair⟩ | h
    · obtain ⟨rfl, rfl⟩ := Prod.mk.inj hpair
      obtain ⟨shown, hshown, hgeneration, hissues⟩ := generation_issues hs hcommand
      exact ⟨[], e, events, shown, rfl, hshown, hgeneration.symm, hissues⟩
    · have hnext : (s.handle e).1.standing.Consistent := (handle_change s e).consistent hs
      obtain ⟨past, e', rest, shown, rfl, hshown, hgeneration, hissues⟩ := ih hnext h
      exact ⟨e :: past, e', rest, shown, rfl, hshown, hgeneration, hissues⟩

end Hosted
end Session
end TerminalDialogs
