import TerminalDialogs.Proofs.Session.Standing

/-!
# Every request gets its reply

Who sends a request waits until the reply comes, so a request that is forgotten
blocks its sender forever, and a second reply would be taken for the answer to
something else.

The books balance at every event: the tickets that are answered now and the one
that waits afterwards are the ticket that asks now and the one that waited
before (`Change.balance`).  Along a history the tickets in between cancel
(`balance`), and at the end nobody waits, because the widget that is still shown
is abandoned.  Tickets are counted with their multiplicities throughout, so
nothing is assumed about how they are numbered.
-/

namespace TerminalDialogs
namespace Session

open scoped List

@[simp] theorem answered_append (a b : List Effect) :
    answered (a ++ b) = answered a ++ answered b :=
  List.filterMap_append

theorem asked_cons (e : Event) (events : List Event) :
    asked (e :: events) = e.asks?.toList ++ asked events := by
  unfold asked
  rw [List.filterMap_cons]
  cases e.asks? <;> rfl

namespace Change

variable {c c' : Standing} {e : Event} {opened : Option (Nat × Nat)} {tickets : List Nat}
  {command : Option Widget.Effect}

/-- While no widget is shown, nobody waits. -/
theorem waiting_of_executing (hc : c.Consistent) (h : c.stage = .executing) :
    c.waiting = [] := by
  have hnone : c.shown = none := by
    rw [← Option.not_isSome_iff_eq_none, hc.shown_iff, h]
    exact Stage.noConfusion
  rw [Standing.waiting, hnone]
  rfl

/-- **The balance of an event**: whoever waited or asks is answered or waits. -/
theorem balance (h : Change c e c' opened tickets command) (hc : c.Consistent) :
    tickets ++ c'.waiting = e.asks?.toList ++ c.waiting := by
  cases h with
  | quiet hask => rw [hask]; rfl
  | refused ticket => rfl
  | told hask hshown => rw [hask]; rfl
  | closed hask hshown =>
    rw [hask, Standing.waiting, Standing.waiting, hshown]
    rfl
  | opened ticket hstage =>
    rw [waiting_of_executing hc hstage]
    rfl
  | answeredAtOnce ticket hstage =>
    rw [waiting_of_executing hc hstage]
    rfl
  | ended outcome =>
    have hnone : Standing.waiting { c with
        stage := .completed, outcome := some outcome, shown := none } = [] := rfl
    rw [hnone, List.append_nil]
    rfl

end Change

namespace Hosted

/-- The balance of a history. -/
theorem balance {s : Hosted} (hs : s.standing.Consistent) (events : List Event) :
    (answered (effects s events) ++ (after s events).standing.waiting).Perm
      (asked events ++ s.standing.waiting) := by
  induction events generalizing s with
  | nil => exact List.Perm.refl _
  | cons e events ih =>
    have hchange := handle_change s e
    have hrest := ih (hchange.consistent hs)
    rw [effects_cons, after_cons, answered_append, asked_cons, List.append_assoc]
    -- the one who waits between the event and the rest cancels
    calc answered (s.handle e).2.effects ++ (answered (effects (s.handle e).1 events) ++
            (after (s.handle e).1 events).standing.waiting)
        ~ answered (s.handle e).2.effects ++
            (asked events ++ (s.handle e).1.standing.waiting) := hrest.append_left _
      _ ~ asked events ++
            (answered (s.handle e).2.effects ++ (s.handle e).1.standing.waiting) :=
          List.perm_append_comm_assoc _ _ _
      _ = asked events ++ (e.asks?.toList ++ s.standing.waiting) := by
          rw [hchange.balance hs]
      _ ~ e.asks?.toList ++ (asked events ++ s.standing.waiting) :=
          List.perm_append_comm_assoc _ _ _
      _ = e.asks?.toList ++ asked events ++ s.standing.waiting :=
          (List.append_assoc _ _ _).symm

theorem answered_result (s : Hosted) : answered s.result.2 = s.standing.waiting :=
  (abandon_change s).2

/-- **Every request gets exactly one reply.**  Whatever a new session is told,
in whatever order, when its result has been taken the tickets that were answered
are the tickets that asked, each as often as it asked.  At every point a widget
is shown exactly in the stage for it, the outcome is there exactly when the
command has ended, and that stage is never left. -/
theorem requests_answered (caption : Caption) (theme : Modal.Theme) (files : Files.Tree)
    (input : Writer) (events : List Event) :
    let start := make caption theme files input
    let s := after start events
    (answered (effects start events ++ s.result.2)).Perm (asked events) ∧
      (s.shown.isSome ↔ s.stage = .showingWidget) ∧
      (s.outcome.isSome ↔ s.stage = .completed) ∧
      ∀ more, s.stage = .completed → (after s more).stage = .completed := by
  intro start s
  have hstart : start.standing.Consistent := make_consistent caption theme files input
  have hs : s.standing.Consistent := after_consistent hstart events
  refine ⟨?_, ?_, hs.outcome_iff, ?_⟩
  · have h := balance hstart events
    have hnone : start.standing.waiting = [] := rfl
    rw [hnone, List.append_nil] at h
    rw [answered_append, answered_result]
    exact h
  · have h := hs.shown_iff
    rw [standing, Option.isSome_map] at h
    exact h
  · intro more hstage
    have h : (after s more).standing.Consistent ∧ (after s more).stage = .completed :=
      after_invariant (P := fun s => s.standing.Consistent ∧ s.stage = .completed)
        (fun s e h => ⟨(handle_change s e).consistent h.1, (handle_change s e).completed h.1 h.2⟩)
        ⟨hs, hstage⟩ more
    exact h.2

end Hosted
end Session
end TerminalDialogs
