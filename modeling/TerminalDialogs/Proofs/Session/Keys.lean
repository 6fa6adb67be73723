import TerminalDialogs.Proofs.Session.Frame
import TerminalDialogs.Proofs.Session.Generations
import TerminalDialogs.Proofs.Session.Replies
import TerminalDialogs.Proofs.Widget.Protocol
import Mathlib.Data.List.Induction
import Mathlib.Data.Multiset.AddSub

/-!
# Who gets a key

A key has one consumer.  While the command is running and nobody waits for a
widget, it is the command; while somebody waits, it is the widget that he asked
for; when the command has ended, it is the session itself.

Who waits is told from the outside, by the requests that were made and the
replies that were given (`unanswered`).  That is the ticket of the widget that is
shown (`unanswered_eq_waiting`), so the stage says whose turn it is
(`listens_iff`, `completed_iff`).  What one event writes depends on the stage
alone (`written_handle`), and the widget that is shown is the one that was
opened, after all it was told since (`shown_history`).
-/

namespace TerminalDialogs

/-- What a command that listens gets of a key: nothing of the key that ends the
session by force. -/
def Key.sent? (k : Key) : Option (List UInt8) := if k.isForceQuit then none else k.bytes?

namespace Session

/-- What an effect writes to the command. -/
def Effect.bytes? : Effect → Option (List UInt8)
  | .write bytes => some bytes
  | _ => none

/-- What is written to the command, piece by piece. -/
def written (effects : List Effect) : List (List UInt8) := effects.filterMap Effect.bytes?

theorem written_append (a b : List Effect) : written (a ++ b) = written a ++ written b :=
  List.filterMap_append

/-- The key that an event reports. -/
def Event.key? : Event → Option Key
  | .key k => some k
  | _ => none

/-- Whether an event is the end of the command. -/
def Event.isExit : Event → Bool
  | .exited _ => true
  | _ => false

namespace Hosted

/-- The requests that wait for a reply when a session has been told the past:
those that were made but for those that were answered.  A request that is
refused is answered at once. -/
def unanswered (s : Hosted) (past : List Event) : List Nat :=
  (asked past).diff (answered (effects s past))

/-- The command has not ended, and nobody waits for a widget. -/
def Listens (s : Hosted) (past : List Event) : Prop :=
  (∀ e ∈ past, e.isExit = false) ∧ s.unanswered past = []

instance (s : Hosted) (past : List Event) : Decidable (s.Listens past) :=
  inferInstanceAs (Decidable (_ ∧ _))

/-- The keys among the events, all that come while the command listens. -/
def keysForCommand (s : Hosted) (past : List Event) : List Event → List Key
  | [] => []
  | e :: events =>
      (if s.Listens past then e.key?.toList else []) ++ keysForCommand s (past ++ [e]) events

/-- What a session does with the widget that it shows when an event comes. -/
def calls (files : Files.Tree) (shown : Shown) : Event → List Widget.Call
  | .key k => [.message files (.key k)]
  | .widget generation m => if shown.generation = generation then [.message files m] else []
  | .resize width height =>
      let size := Modal.contentSize shown.widget.kind ⟨width, height⟩
      [.resize size.width size.height]
  | _ => []

end Hosted

/-! ## Whose turn it is -/

/-- Only the end of the command leads to the last stage. -/
theorem Change.completed_cases {c c' : Standing} {e : Event} {opened : Option (Nat × Nat)}
    {tickets : List Nat} {command : Option Widget.Effect}
    (h : Change c e c' opened tickets command) (hstage : c'.stage = .completed) :
    c.stage = .completed ∨ e.isExit = true := by
  cases h with
  | quiet hask => exact Or.inl hstage
  | refused ticket => exact Or.inl hstage
  | told hask hshown => exact Or.inl hstage
  | closed hask hshown => cases hstage
  | opened ticket hopen => cases hstage
  | answeredAtOnce ticket hopen => exact Or.inl hstage
  | ended outcome => exact Or.inr rfl

namespace Hosted

/-- Of a balance, what was answered leaves those who wait. -/
theorem diff_eq_of_balance {made given waiting : List Nat} (h : (given ++ waiting).Perm made)
    (hone : waiting.length ≤ 1) : made.diff given = waiting := by
  have hperm : (made.diff given).Perm waiting := by
    rw [← Multiset.coe_eq_coe, ← Multiset.coe_sub, ← Multiset.coe_eq_coe.mpr h,
      ← Multiset.coe_add, Multiset.add_comm, Multiset.add_sub_cancel_right]
  match waiting, hone with
  | [], _ => exact List.perm_nil.mp hperm
  | [_], _ => exact List.perm_singleton.mp hperm

/-- Those who wait are told by the requests and the replies. -/
theorem unanswered_eq_waiting {s : Hosted} (hs : s.standing.Consistent) (hnone : s.shown = none)
    (past : List Event) : s.unanswered past = (after s past).standing.waiting := by
  have hbalance := balance hs past
  have hnobody : s.standing.waiting = [] := by
    rw [Standing.waiting, standing, hnone]
    rfl
  rw [hnobody, List.append_nil] at hbalance
  refine diff_eq_of_balance hbalance ?_
  rw [Standing.waiting]
  exact Option.length_toList_le

/-- The command has ended when an event has said so. -/
theorem handle_completed_iff {s : Hosted} (hs : s.standing.Consistent) (e : Event) :
    (s.handle e).1.stage = .completed ↔ s.stage = .completed ∨ e.isExit = true := by
  constructor
  · intro h
    exact (handle_change s e).completed_cases h
  · rintro (hstage | hexit)
    · exact (handle_change s e).completed hs hstage
    · cases e with
      | exited outcome => rfl
      | _ => cases hexit

theorem completed_iff {s : Hosted} (hs : s.standing.Consistent) (hstage : s.stage ≠ .completed)
    (past : List Event) :
    (after s past).stage = .completed ↔ ∃ e ∈ past, e.isExit = true := by
  induction past using List.reverseRecOn with
  | nil => simp [hstage]
  | append_singleton past e ih =>
    have hpast : (after s past).standing.Consistent := after_consistent hs past
    have hlast : after s (past ++ [e]) = ((after s past).handle e).1 := after_append s past [e]
    rw [hlast, handle_completed_iff hpast, ih]
    simp [or_and_right, exists_or]

/-- The command listens in the stage for it. -/
theorem listens_iff {s : Hosted} (hs : s.standing.Consistent) (hstage : s.stage = .executing)
    (past : List Event) : s.Listens past ↔ (after s past).stage = .executing := by
  have hpast : (after s past).standing.Consistent := after_consistent hs past
  have hnone : s.shown = none := by
    have h : ¬ s.standing.shown.isSome := by
      rw [hs.shown_iff, standing, hstage]
      exact Stage.noConfusion
    simpa [standing] using h
  have hexit : (∀ e ∈ past, e.isExit = false) ↔ (after s past).stage ≠ .completed := by
    rw [Ne, completed_iff hs (by rw [hstage]; exact Stage.noConfusion)]
    simp
  have hwait : s.unanswered past = [] ↔ (after s past).stage ≠ .showingWidget := by
    have hshown : (after s past).standing.shown.isSome ↔ (after s past).stage = .showingWidget :=
      hpast.shown_iff
    rw [unanswered_eq_waiting hs hnone, Standing.waiting, Ne, ← hshown]
    simp
  rw [Listens, hexit, hwait]
  cases (after s past).stage <;> simp

/-! ## What is written to the command -/

theorem written_settle (s : Hosted) (shown : Shown) (command : Option Widget.Effect) :
    written (s.settle shown command).2.effects = [] := by
  rw [settle]
  split <;> rfl

theorem written_tell (s : Hosted) (m : Widget.Message) : written (s.tell m).2.effects = [] := by
  rw [tell]
  split
  · rfl
  · exact written_settle s _ _

theorem written_accept (s : Hosted) (ticket : Ticket) :
    written (s.accept ticket).2.effects = [] := by
  rcases accept_cases s ticket with ⟨-, reason, haccept⟩ | ⟨opened, -, -, -, haccept⟩
  · rw [haccept]
    rfl
  · rw [haccept]
    exact written_settle _ _ _

theorem written_forward {s : Hosted} (hinput : s.input.accepts = Writer.working.accepts)
    (k : Key) : written (s.forward k).2 = k.sent?.toList := by
  rw [forward, Key.sent?]
  split
  · rfl
  · cases k.bytes? with
    | none => rfl
    | some bytes =>
      have haccepted : (s.input.write bytes).1 = true := by
        rw [Writer.write, hinput]
        rfl
      dsimp only
      rw [haccepted]
      rfl

/-- An event makes a session write only if it is a key and the command's turn. -/
theorem written_handle {s : Hosted} (hinput : s.input.accepts = Writer.working.accepts)
    (e : Event) :
    written (s.handle e).2.effects =
      if s.stage = .executing then e.key?.toList.filterMap Key.sent? else [] := by
  cases e with
  | key k =>
    rw [handle, handleKey]
    cases hstage : s.stage with
    | executing =>
      dsimp only
      rw [written_forward hinput, if_pos rfl]
      cases hsent : k.sent? <;> simp [Event.key?, hsent]
    | showingWidget =>
      rw [if_neg Stage.noConfusion]
      exact written_tell s _
    | completed =>
      rw [if_neg Stage.noConfusion]
      dsimp only
      split <;> rfl
  | resize width height =>
    rw [handle, resize]
    dsimp only
    split <;> split <;> rfl
  | output text => exact (ite_self _).symm
  | exited outcome =>
    have hnothing : written s.abandon.2 = [] := by
      rw [abandon]
      split <;> rfl
    exact hnothing.trans (ite_self _).symm
  | requested ticket =>
    rw [handle, written_accept]
    exact (ite_self _).symm
  | widget generation m =>
    have hnothing : written (s.handle (.widget generation m)).2.effects = [] := by
      rw [handle]
      split
      · split
        · exact written_tell s m
        · rfl
      · rfl
    rw [hnothing]
    exact (ite_self _).symm

/-! ## What a session never changes -/

/-- What a session was made of stays. -/
structure Kept (s s' : Hosted) : Prop where
  files_eq : s'.files = s.files
  accepts_eq : s'.input.accepts = s.input.accepts

theorem Kept.refl (s : Hosted) : Kept s s := ⟨rfl, rfl⟩

theorem kept_handle (s : Hosted) (e : Event) : Kept s (s.handle e).1 := by
  cases hquiet : e.isOutput with
  | false =>
    obtain ⟨stage, generation, shown, input, finished, offset, haccepts, -, hnext⟩ :=
      s.handle_eq hquiet
    rw [hnext]
    exact ⟨rfl, haccepts⟩
  | true =>
    cases e with
    | resize width height => exact ⟨rfl, rfl⟩
    | output text => exact ⟨rfl, rfl⟩
    | exited outcome =>
      have habandon : Kept s s.abandon.1 := by
        rw [abandon_eq]
        exact ⟨rfl, rfl⟩
      exact ⟨habandon.files_eq, habandon.accepts_eq⟩
    | _ => cases hquiet

theorem kept_after (s : Hosted) (events : List Event) : Kept s (after s events) :=
  after_invariant (P := Kept s)
    (fun s' e h => ⟨(kept_handle s' e).files_eq.trans h.files_eq,
      (kept_handle s' e).accepts_eq.trans h.accepts_eq⟩)
    (Kept.refl s) events

/-- **The command gets its keys**, each in one piece and no others. -/
theorem written_effects {s : Hosted} (hs : s.standing.Consistent) (hstage : s.stage = .executing)
    (hinput : s.input.accepts = Writer.working.accepts) (past events : List Event) :
    written (effects (after s past) events) =
      (s.keysForCommand past events).filterMap Key.sent? := by
  induction events generalizing past with
  | nil => rfl
  | cons e events ih =>
    have hpast : (after s past).input.accepts = Writer.working.accepts :=
      (kept_after s past).accepts_eq.trans hinput
    have hnext : after s (past ++ [e]) = ((after s past).handle e).1 := after_append s past [e]
    have hrest := ih (past ++ [e])
    rw [hnext] at hrest
    rw [effects_cons, written_append, keysForCommand, List.filterMap_append]
    refine congrArg₂ (· ++ ·) ?_ hrest
    refine (written_handle hpast e).trans ?_
    by_cases hturn : s.Listens past
    · rw [if_pos hturn, if_pos ((listens_iff hs hstage past).mp hturn)]
    · rw [if_neg hturn, if_neg (mt (listens_iff hs hstage past).mpr hturn)]
      rfl

/-! ## What the widget is told -/

/-- A key for the widget that is shown changes the widget and, if the widget is
done with it, the stage; nothing else happens but the reply. -/
theorem handle_key_of_shown {s : Hosted} {shown : Shown} (hs : s.standing.Consistent)
    (hshown : s.shown = some shown) (k : Key) :
    s.handle (.key k) =
      s.settle { shown with widget := (shown.widget.update s.files (.key k)).1 }
        (shown.widget.update s.files (.key k)).2 := by
  have hstage : s.stage = .showingWidget := hs.shown_iff.mp (by rw [standing_shown hshown]; rfl)
  rw [handle, handleKey, hstage, tell, hshown]

theorem settle_shown {s : Hosted} {shown shown' : Shown} {command : Option Widget.Effect}
    (h : (s.settle shown command).1.shown = some shown') : shown' = shown := by
  rw [settle] at h
  split at h
  · cases h
  · exact (Option.some.inj h).symm

/-- The widget that is shown after an event was opened by it, or shown before
and told about it. -/
theorem handle_shown {s : Hosted} (hs : s.standing.Consistent) {e : Event} {shown : Shown}
    (h : (s.handle e).1.shown = some shown) :
    s.opening? e = some shown ∨ ∃ before, s.shown = some before ∧
      shown = { before with widget := before.widget.after (calls s.files before e) } := by
  cases e with
  | key k =>
    right
    cases hbefore : s.shown with
    | none =>
      have hnone : (s.handle (.key k)).1.standing.shown = none := by
        rcases (handle_change s (.key k)).shown_cases (standing_shown h) with hopened | ⟨-, hold⟩
        · cases hopened
        · rw [standing, hbefore] at hold
          cases hold
      rw [standing_shown h] at hnone
      cases hnone
    | some before =>
      rw [handle_key_of_shown hs hbefore] at h
      exact ⟨before, rfl, settle_shown h⟩
  | resize width height =>
    right
    rw [handle, resize] at h
    obtain ⟨before, hbefore, rfl⟩ := Option.map_eq_some_iff.mp h
    exact ⟨before, hbefore, rfl⟩
  | output text => exact Or.inr ⟨shown, h, rfl⟩
  | exited outcome =>
    have hshown : s.abandon.1.shown = some shown := h
    rw [abandon_eq] at hshown
    cases hshown
  | requested ticket =>
    rw [handle] at h
    rcases accept_cases s ticket with ⟨-, reason, haccept⟩ | ⟨opened, -, hopened, -, haccept⟩
    · rw [haccept] at h
      exact Or.inr ⟨shown, h, rfl⟩
    · rw [haccept] at h
      rw [settle_shown h]
      exact Or.inl hopened
  | widget generation m =>
    right
    rw [handle] at h
    cases hbefore : s.shown with
    | none =>
      rw [hbefore] at h
      dsimp only at h
      rw [hbefore] at h
      cases h
    | some before =>
      rw [hbefore] at h
      dsimp only at h
      refine ⟨before, rfl, ?_⟩
      by_cases hsame : before.generation = generation
      · rw [if_pos hsame, tell, hbefore] at h
        rw [calls, if_pos hsame]
        exact settle_shown h
      · rw [if_neg hsame, hbefore] at h
        rw [calls, if_neg hsame]
        exact (Option.some.inj h).symm

/-- A widget keeps its generation, its ticket and its kind, so the calls for it
can be told from how it was opened. -/
theorem calls_after (files : Files.Tree) (shown : Shown) (past : List Widget.Call) (e : Event) :
    calls files { shown with widget := shown.widget.after past } e = calls files shown e := by
  cases e with
  | resize width height => rw [calls, calls, Widget.kind_after]
  | _ => rfl

/-- **The widget that is shown** is the one that a request has opened, after all
that it was told since. -/
theorem shown_history {s : Hosted} (hs : s.standing.Consistent) (hnone : s.shown = none)
    {past : List Event} {shown : Shown} (h : (after s past).shown = some shown) :
    ∃ before ticket since opened, past = before ++ .requested ticket :: since ∧
      (after s before).opening? (.requested ticket) = some opened ∧
      shown = { opened with
        widget := opened.widget.after (since.flatMap (calls s.files opened)) } := by
  induction past using List.reverseRecOn generalizing shown with
  | nil =>
    rw [after_nil, hnone] at h
    cases h
  | append_singleton past e ih =>
    have hpast : (after s past).standing.Consistent := after_consistent hs past
    have hlast : after s (past ++ [e]) = ((after s past).handle e).1 := after_append s past [e]
    rw [hlast] at h
    rcases handle_shown hpast h with hopened | ⟨earlier, hearlier, rfl⟩
    · cases e with
      | requested ticket => exact ⟨past, ticket, [], shown, rfl, hopened, rfl⟩
      | _ => cases hopened
    · obtain ⟨before, ticket, since, opened, hpast', hopened, rfl⟩ := ih hearlier
      refine ⟨before, ticket, since ++ [e], opened, ?_, hopened, ?_⟩
      · rw [hpast', List.append_assoc]
        rfl
      · rw [(kept_after s past).files_eq, calls_after, List.flatMap_append, Widget.after_append,
          List.flatMap_singleton]

/-- A key for the session itself. -/
theorem handle_key_of_completed {s : Hosted} (hstage : s.stage = .completed) (k : Key) :
    s.handle (.key k) = ({ s with finished := true }, {}) ∨
      ∃ offset, s.handle (.key k) = ({ s with viewport := { s.viewport with offset } }, {}) := by
  rw [handle, handleKey, hstage]
  dsimp only
  cases hreview : review s.viewport k with
  | leave => exact Or.inl rfl
  | «show» viewport =>
    obtain ⟨offset, rfl⟩ := review_show_eq hreview
    exact Or.inr ⟨offset, rfl⟩

/-- **A key reaches exactly one consumer.**  Whatever a new session whose command
can be written to has been told so far:

* what it has written to the command are the keys that came while the command
  had not ended and nobody waited for a widget, each in its encoding, in order;
  the key that quits by force and keys without an encoding are left out;
* while somebody waits, he alone waits, for the widget that his request has
  opened; the widget is where all it was told since has brought it, among it
  every key; a key is told to it, and nothing else happens but that it is closed
  when it is done with the key, and then he gets its reply;
* when the command has ended, a key ends the session or moves the viewport;
* and a run on any screen, however its events are batched, does what the events
  say that it has delivered. -/
theorem key_consumer (caption : Caption) (theme : Modal.Theme) (files : Files.Tree)
    (past : List Event) :
    let start := make caption theme files .working
    let s := after start past
    written (effects start past) = (start.keysForCommand [] past).filterMap Key.sent? ∧
    (start.unanswered past ≠ [] →
      ∃ before ticket since opened, past = before ++ .requested ticket :: since ∧
        (after start before).opening? (.requested ticket) = some opened ∧
        start.unanswered past = [ticket.number] ∧
        let shown := { opened with
          widget := opened.widget.after (since.flatMap (calls files opened)) }
        s.shown = some shown ∧
        ∀ k, let (widget, command) := shown.widget.update files (.key k)
          s.handle (.key k) =
            if widget.isDone then
              ({ s with shown := none, stage := .executing },
                { effects := [.reply ticket.number (replyOf widget)] })
            else ({ s with shown := some { shown with widget } }, { command })) ∧
    ((∃ e ∈ past, e.isExit = true) → ∀ k,
      s.handle (.key k) = ({ s with finished := true }, {}) ∨
        ∃ offset, s.handle (.key k) = ({ s with viewport := { s.viewport with offset } }, {})) ∧
    ∀ drawing width height batches, ∃ events, events <+: incoming width height batches ∧
      let run := Session.drive drawing start width height batches
      run.session = after start events ∧ run.effects = effects start events := by
  intro start s
  have hstart : start.standing.Consistent := make_consistent caption theme files .working
  have hs : s.standing.Consistent := after_consistent hstart past
  refine ⟨written_effects hstart rfl rfl [] past, ?_, ?_, ?_⟩
  · intro hwait
    have hwaiting : start.unanswered past = s.standing.waiting :=
      unanswered_eq_waiting hstart rfl past
    obtain ⟨shown, hshown⟩ : ∃ shown, s.shown = some shown := by
      rw [hwaiting, Standing.waiting, standing] at hwait
      cases hs' : s.shown with
      | none =>
        rw [hs'] at hwait
        exact absurd rfl hwait
      | some shown => exact ⟨shown, rfl⟩
    obtain ⟨before, ticket, since, opened, hpast, hopened, rfl⟩ :=
      shown_history hstart rfl hshown
    have hticket : opened.ticket = ticket.number := by
      rcases accept_cases (after start before) ticket with ⟨hnone, -⟩ | ⟨_, -, hsome, hlabel, -⟩
      · rw [hnone] at hopened
        cases hopened
      · rw [hsome] at hopened
        rw [← Option.some.inj hopened]
        exact congrArg Prod.snd hlabel
    refine ⟨before, ticket, since, opened, hpast, hopened, ?_, hshown, ?_⟩
    · rw [hwaiting, Standing.waiting, standing, hshown, ← hticket]
      rfl
    · intro k
      have hfiles : s.files = files := (kept_after start past).files_eq
      have hkey := handle_key_of_shown hs hshown k
      rw [hfiles] at hkey
      rw [← hticket]
      exact hkey
  · intro hexit k
    exact handle_key_of_completed
      ((completed_iff hstart (fun h => Stage.noConfusion h) past).mpr hexit) k
  · intro drawing width height batches
    obtain ⟨k, hdelivers, -⟩ := drive_delivers drawing start width height batches
    exact ⟨_, delivered_isPrefix start width height batches k, hdelivers.session_eq,
      hdelivers.effects_eq⟩

/-- A prompt is opened and answered between two keys for the command. -/
theorem key_consumer_prompt :
    let start := make {} ⟨⟨0, 0, 0⟩, ⟨0, 0, 0⟩, ⟨0, 0, 0⟩⟩ {} .working
    let typed (c : Char) : Event := .key { code := .char c }
    let prompt : Event := .requested
      { number := 7, request := { component := "input".toList, options := .object [] } }
    let past := [typed 'a', prompt, typed 'x']
    let events := past ++ [.key { code := .enter }, typed 'b', .exited (.exited 0 .zero)]
    start.unanswered past = [7] ∧ (∃ shown, (after start past).shown = some shown) ∧
      written (effects start events) = [[0x61], [0x62]] ∧
      (∃ e ∈ events, e.isExit = true) ∧
      ((after start events).handle (typed 'q')).2.effects = [] := by
  intro start typed prompt past events
  have hwait : start.unanswered past = [7] := rfl
  have hexit : ∃ e ∈ events, e.isExit = true := ⟨.exited (.exited 0 .zero), by simp [events], rfl⟩
  obtain ⟨-, hpast, -, -⟩ := key_consumer {} ⟨⟨0, 0, 0⟩, ⟨0, 0, 0⟩, ⟨0, 0, 0⟩⟩ {} past
  obtain ⟨hwritten, -, hevents, -⟩ := key_consumer {} ⟨⟨0, 0, 0⟩, ⟨0, 0, 0⟩, ⟨0, 0, 0⟩⟩ {} events
  obtain ⟨before, ticket, since, opened, -, -, -, hshown, -⟩ := hpast (by
    rw [hwait]
    exact List.cons_ne_nil 7 [])
  refine ⟨hwait, ⟨_, hshown⟩, hwritten.trans rfl, hexit, ?_⟩
  rcases hevents hexit { code := .char 'q' } with h | ⟨offset, h⟩
  · exact congrArg (fun p => p.2.effects) h
  · exact congrArg (fun p => p.2.effects) h

end Hosted
end Session
end TerminalDialogs
