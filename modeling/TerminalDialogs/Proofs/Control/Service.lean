import TerminalDialogs.Proofs.Control.Turns
import TerminalDialogs.Proofs.Session.Replies

/-!
# A server and the session that it serves

Handlers forward their requests into the queue of the session, among what the
terminal, the command and the widgets have to say; the session takes one event
after the other and replies.  `Service.step` makes one step of anyone: a request
comes in, a handler goes on or gives up, somebody else sends an event, the
session takes the next event or leaves, the server stops, the queue is closed.
Any way in which they can be interleaved is a list of steps.

Two books are kept.  The `Ledger` is about what is owed: at most one request is
pending, and it is in the queue or waits for the widget that is shown.  So the
session never gets a request while it shows a widget.  The `Records` are about
who asked: each forwarded request came in with the token and was forwarded once,
and each answer with a reply has the reply to the request of its own handler.
-/

namespace TerminalDialogs
namespace Session

open Control (Response)

/-- The reply that an effect gives, with the ticket of the one who gets it. -/
def Effect.reply? : Effect → Option (Nat × Response)
  | .reply ticket response => some (ticket, response)
  | _ => none

/-- The replies among effects, in order. -/
def replies (effects : List Effect) : List (Nat × Response) := effects.filterMap Effect.reply?

/-- The replies to one ticket, in order. -/
def repliesTo (ticket : Nat) (effects : List Effect) : List Response :=
  (replies effects).filterMap fun r => if r.1 = ticket then some r.2 else none

theorem replies_append (a b : List Effect) : replies (a ++ b) = replies a ++ replies b :=
  List.filterMap_append

theorem repliesTo_append (ticket : Nat) (a b : List Effect) :
    repliesTo ticket (a ++ b) = repliesTo ticket a ++ repliesTo ticket b := by
  rw [repliesTo, replies_append, List.filterMap_append]
  rfl

theorem answered_eq (effects : List Effect) :
    answered effects = (replies effects).map Prod.fst := by
  rw [answered, replies, List.map_filterMap]
  congr 1
  funext effect
  cases effect <;> rfl

/-- Nobody is told that another widget is shown. -/
def Polite (effects : List Effect) : Prop :=
  ∀ r ∈ replies effects, r.2.error ≠ "another component is active".toList

/-- Nothing wrong is said where nobody is answered. -/
theorem polite_of_answered_eq_nil {effects : List Effect} (h : answered effects = []) :
    Polite effects := by
  rw [answered_eq, List.map_eq_nil_iff] at h
  intro r hr
  rw [h] at hr
  exact absurd hr List.not_mem_nil

theorem Polite.append {a b : List Effect} (ha : Polite a) (hb : Polite b) : Polite (a ++ b) := by
  intro r hr
  rw [replies_append] at hr
  exact (List.mem_append.mp hr).elim (ha r) (hb r)

namespace Hosted

theorem error_replyOf (w : Widget) : (replyOf w).error = [] := by
  rw [replyOf, Widget.result]
  by_cases h : w.isCancelled = true
  · rw [if_pos h]
    rfl
  · rw [if_neg h]
    rfl

theorem polite_settle (s : Hosted) (shown : Shown) (command : Option Widget.Effect) :
    Polite (s.settle shown command).2.effects := by
  intro r hr
  rw [settle] at hr
  split at hr
  · rw [List.mem_singleton.mp hr, error_replyOf]
    decide
  · cases hr

theorem polite_tell (s : Hosted) (m : Widget.Message) : Polite (s.tell m).2.effects := by
  rw [tell]
  split
  · exact polite_of_answered_eq_nil rfl
  · exact polite_settle s _ _

theorem polite_abandon (s : Hosted) : Polite s.abandon.2 := by
  intro r hr
  rw [abandon] at hr
  split at hr
  · cases hr
  · rw [List.mem_singleton.mp hr]
    exact (List.cons_ne_nil _ _).symm

/-- A request is refused because a widget is shown only while one is shown. -/
theorem polite_accept {s : Hosted} (hstage : s.stage ≠ .showingWidget) (ticket : Ticket) :
    Polite (s.accept ticket).2.effects := by
  intro r hr
  rw [accept] at hr
  cases h : s.stage with
  | completed =>
    rw [h] at hr
    rw [List.mem_singleton.mp hr]
    show "command has already finished".toList ≠ _
    decide
  | showingWidget => exact absurd h hstage
  | executing =>
    rw [h] at hr
    dsimp only at hr
    split at hr
    · rw [List.mem_singleton.mp hr]
      intro heq
      have hfirst : some 'f' = some 'a' := congrArg List.head? heq
      exact absurd hfirst (by decide)
    · exact polite_settle _ _ _ r hr

theorem polite_handle {s : Hosted} {e : Event}
    (hfree : e.asks? ≠ none → s.stage ≠ .showingWidget) : Polite (s.handle e).2.effects := by
  cases e with
  | key k =>
    rw [handle, handleKey]
    split
    · split <;> exact polite_of_answered_eq_nil rfl
    · exact polite_tell s _
    · exact polite_of_answered_eq_nil (forward_change s k).2
  | resize width height => exact polite_of_answered_eq_nil (resize_change s width height).2
  | output text => exact polite_of_answered_eq_nil rfl
  | exited outcome => exact polite_abandon s
  | requested ticket => exact polite_accept (hfree (Option.some_ne_none _)) ticket
  | widget generation m =>
    rw [handle]
    split
    · split
      · exact polite_tell s m
      · exact polite_of_answered_eq_nil rfl
    · exact polite_of_answered_eq_nil rfl

end Hosted
end Session

namespace Control

open scoped List
open Session (Effect Event Hosted asked answered replies repliesTo Polite
  polite_of_answered_eq_nil)

/-- The replies that a fate stands for. -/
def Fate.replies : Fate → List Response
  | .replied response => [response]
  | _ => []

/-- A control server and the session that it serves. -/
structure Service where
  server : Server
  session : Hosted
  /-- The events that wait for the session. -/
  queue : List Event := []
  /-- The events that the session has taken. -/
  taken : List Event := []
  /-- What the session has done so far. -/
  effects : List Effect := []
  /-- What each handler was started for. -/
  arrivals : List Http.Request := []
  /-- Which handler forwarded each request. -/
  senders : List Nat := []
  /-- Whether the session has been left, its result taken. -/
  isLeft : Bool := false

namespace Service

/-- What can happen next. -/
inductive Step where
  /-- A request comes in. -/
  | arrive (request : Http.Request)
  /-- A handler takes its next step. -/
  | advance (handler : Nat)
  /-- A handler that has waited in vain gives up if the server is stopped. -/
  | giveUp (handler : Nat)
  /-- Somebody who wants no widget sends an event. -/
  | send (event : Event) (hask : event.asks? = none)
  /-- The session takes the next event. -/
  | turn
  /-- The session is left. -/
  | leave
  /-- The server stops. -/
  | stop
  /-- The queue is closed and what is in it dropped. -/
  | hangUp

/-- A running server and a new session. -/
def make (token : Text) (portNumber : Nat) (session : Hosted) : Service :=
  { server := { token, portNumber, state := .running }, session }

/-- The session's replies reach the server. -/
def hear (s : Server) (effects : List Effect) : Server :=
  s.run ((replies effects).map fun r => .reply r.1 r.2)

/-- Takes a step.  What a handler forwards is queued under its number. -/
def step (x : Service) : Step → Service
  | .arrive r => { x with server := x.server.receive r, arrivals := x.arrivals ++ [r] }
  | .advance i =>
      let server := x.server.advanceAt i
      let number := x.server.requests.length
      match server.requests[number]? with
      | none => { x with server }
      | some (request, _) =>
          { x with
            server
            queue := x.queue ++ [.requested { number, request }]
            senders := x.senders ++ [i] }
  | .giveUp i => { x with server := x.server.giveUpAt i }
  | .send e _ => if x.server.isHeard then { x with queue := x.queue ++ [e] } else x
  | .turn =>
      if x.isLeft then x
      else
        match x.queue with
        | [] => x
        | e :: queue =>
            let (session, reaction) := x.session.handle e
            { x with
              server := hear x.server reaction.effects
              session, queue
              taken := x.taken ++ [e]
              effects := x.effects ++ reaction.effects }
  | .leave =>
      if x.isLeft then x
      else
        let effects := x.session.result.2
        { x with
          server := hear x.server effects
          effects := x.effects ++ effects
          isLeft := true }
  | .stop => { x with server := x.server.stop }
  | .hangUp =>
      { x with server := (x.server.run ((asked x.queue).map .drop)).hangUp, queue := [] }

/-- A handler forwards its request. -/
def forward (x : Service) (i : Nat) (q : Request) : Service :=
  { x with
    server := x.server.forward i q
    queue := x.queue ++ [.requested { number := x.server.requests.length, request := q }]
    senders := x.senders ++ [i] }

theorem step_advance_cases (x : Service) (i : Nat) :
    x.step (.advance i) = x ∨
      (∃ h h', x.server.handlers[i]? = some h ∧ Server.Transition x.server h h' ∧
        x.step (.advance i) = { x with server := x.server.put i h' }) ∨
      ∃ q, x.server.handlers[i]? = some (.cleared q) ∧ x.step (.advance i) = x.forward i q := by
  rw [step]
  rcases x.server.advanceAt_cases i with hsame | ⟨h, h', hi, ht, hput⟩ | ⟨q, hi, hforward⟩
  · left
    rw [hsame, List.getElem?_eq_none (Nat.le_refl _)]
  · right; left
    refine ⟨h, h', hi, ht, ?_⟩
    have hnone : (x.server.put i h').requests[x.server.requests.length]? = none :=
      List.getElem?_eq_none (Nat.le_refl _)
    rw [hput, hnone]
  · right; right
    refine ⟨q, hi, ?_⟩
    have hlast : (x.server.forward i q).requests[x.server.requests.length]? = some (q, .pending) :=
      List.getElem?_concat_length
    rw [hforward, hlast]
    rfl

theorem step_giveUp_cases (x : Service) (i : Nat) :
    x.step (.giveUp i) = x ∨
      ∃ h h', x.server.handlers[i]? = some h ∧ Server.Transition x.server h h' ∧
        x.step (.giveUp i) = { x with server := x.server.put i h' } := by
  rw [step]
  rcases x.server.giveUpAt_cases i with hsame | ⟨h, h', hi, ht, hput⟩
  · left
    rw [hsame]
  · exact Or.inr ⟨h, h', hi, ht, by rw [hput]⟩

/-- Takes steps one after the other. -/
def run (x : Service) (steps : List Step) : Service := steps.foldl step x

/-- What every step keeps is kept by a run. -/
theorem run_invariant {P : Service → Prop} (hstep : ∀ x a, P x → P (x.step a)) {x : Service}
    (h : P x) (steps : List Step) : P (x.run steps) := by
  induction steps generalizing x with
  | nil => exact h
  | cons a steps ih => exact ih (hstep x a h)

/-! ## What is owed -/

/-- The tickets of the requests that the session still owes a reply. -/
def owed (x : Service) : List Nat :=
  asked x.queue ++ if x.isLeft then [] else x.session.standing.waiting

/-- If at most one is owed something, nobody is paid or he is, and nothing is left. -/
theorem paid_cases {before paid after : List Nat} (h : before.Perm (paid ++ after))
    (hone : before.length ≤ 1) :
    paid = [] ∨ ∃ n, before = [n] ∧ paid = [n] ∧ after = [] := by
  have hlength : paid.length + after.length ≤ 1 := by
    rw [← List.length_append, ← h.length_eq]
    exact hone
  match paid, after with
  | [], _ => exact Or.inl rfl
  | [n], [] => exact Or.inr ⟨n, List.perm_singleton.mp h, rfl, rfl⟩
  | [_], _ :: _ => simp only [List.length_cons, List.length_nil] at hlength; omega
  | _ :: _ :: _, _ => simp only [List.length_cons] at hlength; omega

/-- What is owed and what was paid. -/
structure Ledger (x : Service) : Prop where
  orderly : x.server.Orderly
  consistent : x.session.standing.Consistent
  /-- What is pending for the server is what the session owes. -/
  owed_iff : ∀ n, n ∈ x.owed ↔ x.server.fate? n = some .pending
  owed_length : x.owed.length ≤ 1
  /-- What the server takes for the reply to a request is the one reply to it. -/
  replies_eq : ∀ n, repliesTo n x.effects = ((x.server.fate? n).map Fate.replies).getD []
  polite : Polite x.effects

namespace Ledger

variable {x x' : Service}

/-- Nothing is owed by a new session. -/
theorem make (token : Text) (portNumber : Nat) {session : Hosted}
    (hsession : session.standing.Consistent) (hnone : session.shown = none) :
    (Service.make token portNumber session).Ledger := by
  have howed : (Service.make token portNumber session).owed = [] := by
    show session.standing.waiting = []
    rw [Session.Standing.waiting, Hosted.standing, hnone]
    rfl
  constructor
  · constructor
    · intro i j h k hi
      cases hi
    · intro n hn
      cases hn
  · exact hsession
  · intro n
    rw [howed]
    refine ⟨fun h => absurd h List.not_mem_nil, fun h => ?_⟩
    cases h
  · rw [howed]
    exact Nat.zero_le 1
  · intro n
    rfl
  · exact polite_of_answered_eq_nil rfl

theorem owed_unique (hx : x.Ledger) {n m : Nat} (hn : n ∈ x.owed) (hm : m ∈ x.owed) : n = m := by
  have hlength := hx.owed_length
  generalize x.owed = owed at hn hm hlength
  rcases owed with _ | ⟨k, _ | ⟨k', rest⟩⟩
  · cases hn
  · exact (List.mem_singleton.mp hn).trans (List.mem_singleton.mp hm).symm
  · simp at hlength

/-- Nothing is paid, and nothing else is owed than before. -/
theorem unpaid (hx : x.Ledger) (horderly : x'.server.Orderly)
    (hfate : ∀ n, x'.server.fate? n = x.server.fate? n)
    (hsession : x'.session.standing.Consistent) (howed : x'.owed.Perm x.owed)
    {effects : List Effect} (heffects : x'.effects = x.effects ++ effects)
    (hnone : replies effects = []) : x'.Ledger where
  orderly := horderly
  consistent := hsession
  owed_iff n := by rw [howed.mem_iff, hfate, hx.owed_iff]
  owed_length := howed.length_eq ▸ hx.owed_length
  replies_eq n := by
    rw [heffects, Session.repliesTo_append, hfate, hx.replies_eq, repliesTo, hnone,
      List.filterMap_nil, List.append_nil]
  polite := by
    rw [heffects]
    exact hx.polite.append fun r hr => by rw [hnone] at hr; cases hr

/-- The one reply that is owed is given, or its request is dropped. -/
theorem paid (hx : x.Ledger) {n : Nat} (howed : x.owed = [n]) (fate : Fate)
    (hfate : fate ≠ .pending) (hserver : x'.server.Orderly)
    (hfates : ∀ m, x'.server.fate? m = (x.server.settle n fate).fate? m)
    (hsession : x'.session.standing.Consistent) (hnothing : x'.owed = [])
    {effects : List Effect} (heffects : x'.effects = x.effects ++ effects)
    (hreplies : replies effects = fate.replies.map (Prod.mk n)) (hpolite : Polite effects) :
    x'.Ledger where
  orderly := hserver
  consistent := hsession
  owed_iff m := by
    rw [hnothing, hfates]
    refine ⟨fun h => absurd h List.not_mem_nil, fun h => ?_⟩
    obtain ⟨hother, hpending⟩ := Server.pending_of_settle hfate h
    rw [← hx.owed_iff, howed] at hpending
    exact absurd (List.mem_singleton.mp hpending) hother
  owed_length := by
    rw [hnothing]
    exact Nat.zero_le 1
  replies_eq m := by
    have hpending : x.server.fate? n = some .pending := by
      rw [← hx.owed_iff, howed]
      exact List.mem_singleton_self n
    rw [heffects, Session.repliesTo_append, hfates, Server.fate?_settle, hx.replies_eq, repliesTo,
      hreplies]
    by_cases hm : m = n
    · rw [if_pos hm, hm, hpending]
      cases fate with
      | pending => exact absurd rfl hfate
      | replied response => simp [Fate.replies, Fate.settle]
      | dropped => rfl
    · rw [if_neg hm]
      cases fate <;> simp [Fate.replies, Ne.symm hm]
  polite := by
    rw [heffects]
    exact hx.polite.append hpolite

/-- The session replies to some of those to whom it owes something. -/
theorem heard (hx : x.Ledger) (effects : List Effect)
    (howed : x.owed.Perm (answered effects ++ x'.owed))
    (hserver : x'.server = hear x.server effects) (heffects : x'.effects = x.effects ++ effects)
    (hsession : x'.session.standing.Consistent) (hpolite : Polite effects) : x'.Ledger := by
  rw [Session.answered_eq] at howed
  rcases paid_cases howed hx.owed_length with hnobody | ⟨n, hn, hone, hnothing⟩
  · have hnone : replies effects = [] := List.map_eq_nil_iff.mp hnobody
    have hsame : x'.server = x.server := by
      rw [hserver, hear, hnone]
      rfl
    rw [hnobody] at howed
    refine hx.unpaid ?_ (fun n => ?_) hsession howed.symm heffects hnone
    · rw [hsame]
      exact hx.orderly
    · rw [hsame]
  · obtain ⟨⟨m, response⟩, hreplies, rfl⟩ := List.map_eq_singleton_iff.mp hone
    have hsettled : x'.server = x.server.settle m (.replied response) := by
      rw [hserver, hear, hreplies]
      rfl
    refine hx.paid hn (.replied response) Fate.noConfusion ?_ (fun k => ?_) hsession
      hnothing heffects hreplies hpolite
    · rw [hsettled]
      exact hx.orderly.settle m Fate.noConfusion
    · rw [hsettled]

/-- **What a handler forwards is owed then, and nothing else.** -/
theorem forward (hx : x.Ledger) {i : Nat} {q : Request}
    (hi : x.server.handlers[i]? = some (.cleared q)) : (x.forward i q).Ledger := by
  have hnothing : x.owed = [] := by
    rw [List.eq_nil_iff_forall_not_mem]
    intro n hn
    exact hx.orderly.not_pending_of_cleared hi n ((hx.owed_iff n).mp hn)
  have howed : (x.forward i q).owed = [x.server.requests.length] := by
    obtain ⟨hqueue, hwaiting⟩ := List.append_eq_nil_iff.mp hnothing
    show asked (x.queue ++ [_]) ++
      (if x.isLeft = true then [] else x.session.standing.waiting) = _
    rw [hwaiting, asked, List.filterMap_append, ← asked, hqueue]
    rfl
  constructor
  · exact hx.orderly.forward hi
  · exact hx.consistent
  · intro n
    show _ ↔ (x.server.forward i q).fate? n = _
    rw [howed, Server.fate?_forward, List.mem_singleton]
    by_cases hn : n = x.server.requests.length
    · simp [hn]
    · rw [if_neg hn, ← hx.owed_iff, hnothing]
      simp [hn]
  · rw [howed]
    exact Nat.le_refl 1
  · intro n
    show repliesTo n x.effects = (((x.server.forward i q).fate? n).map Fate.replies).getD []
    rw [hx.replies_eq, Server.fate?_forward]
    by_cases hn : n = x.server.requests.length
    · have hnone : x.server.fate? n = none := by
        rw [Server.fate?, List.getElem?_eq_none (by omega)]
        rfl
      rw [if_pos hn, hnone]
      rfl
    · rw [if_neg hn]
  · exact hx.polite

/-- A handler takes a step that forwards nothing. -/
theorem put (hx : x.Ledger) {i : Nat} {h h' : Handler} (hi : x.server.handlers[i]? = some h)
    (ht : Server.Transition x.server h h') :
    ({ x with server := x.server.put i h' } : Service).Ledger :=
  hx.unpaid (hx.orderly.put hi ht) (fun _ => rfl) hx.consistent (List.Perm.refl _)
    (List.append_nil _).symm rfl

/-- The session takes an event. -/
theorem turn (hx : x.Ledger) : (x.step .turn).Ledger := by
  rw [step]
  by_cases hleft : x.isLeft = true
  · rw [if_pos hleft]
    exact hx
  rw [if_neg hleft]
  cases hqueue : x.queue with
  | nil => exact hx
  | cons e queue =>
    have hchange := Hosted.handle_change x.session e
    have howed : x.owed = e.asks?.toList ++ asked queue ++ x.session.standing.waiting := by
      rw [owed, if_neg hleft, hqueue, Session.asked_cons]
    refine hx.heard (x.session.handle e).2.effects ?_ rfl rfl
      (hchange.consistent hx.consistent) (Hosted.polite_handle fun hasks hstage => ?_)
    · show x.owed.Perm (_ ++ (asked queue ++
        if x.isLeft = true then [] else (x.session.handle e).1.standing.waiting))
      rw [if_neg hleft, howed]
      -- who is answered or waits then, asks or has waited now
      calc e.asks?.toList ++ asked queue ++ x.session.standing.waiting
          ~ asked queue ++ (e.asks?.toList ++ x.session.standing.waiting) := by
            rw [List.append_assoc]
            exact List.perm_append_comm_assoc _ _ _
        _ = asked queue ++ (answered (x.session.handle e).2.effects ++
              (x.session.handle e).1.standing.waiting) := by
            rw [hchange.balance hx.consistent]
        _ ~ answered (x.session.handle e).2.effects ++
              (asked queue ++ (x.session.handle e).1.standing.waiting) :=
            List.perm_append_comm_assoc _ _ _
    · -- the one who asks is the only one to whom something is owed
      obtain ⟨n, hn⟩ := Option.ne_none_iff_exists'.mp hasks
      obtain ⟨label, hlabel⟩ := Option.isSome_iff_exists.mp (hx.consistent.shown_iff.mpr hstage)
      have hlength := hx.owed_length
      rw [howed, hn, Session.Standing.waiting, hlabel] at hlength
      simp at hlength

/-- The session is left. -/
theorem leave (hx : x.Ledger) : (x.step .leave).Ledger := by
  rw [step]
  by_cases hleft : x.isLeft = true
  · rw [if_pos hleft]
    exact hx
  rw [if_neg hleft]
  refine hx.heard x.session.result.2 ?_ rfl rfl hx.consistent
    x.session.polite_abandon
  show x.owed.Perm (answered x.session.result.2 ++ (asked x.queue ++ []))
  rw [Hosted.answered_result, owed, if_neg hleft, List.append_nil]
  exact List.perm_append_comm

/-- The queue is closed. -/
theorem hangUp (hx : x.Ledger) : (x.step .hangUp).Ledger := by
  have howed : x.owed.Perm (asked x.queue ++ (x.step .hangUp).owed) := List.Perm.refl _
  rcases paid_cases howed hx.owed_length with hnobody | ⟨n, hn, hone, hnothing⟩
  · have hserver : (x.step .hangUp).server = x.server.hangUp := by
      rw [step, hnobody]
      rfl
    rw [hnobody] at howed
    refine hx.unpaid ?_ (fun n => ?_) hx.consistent howed.symm (List.append_nil _).symm rfl
    · rw [hserver]
      exact hx.orderly.of_handlers_eq rfl id fun _ => id
    · rw [hserver]
      rfl
  · have hserver : (x.step .hangUp).server = (x.server.settle n .dropped).hangUp := by
      rw [step, hone]
      rfl
    refine hx.paid hn .dropped Fate.noConfusion ?_ (fun k => ?_) hx.consistent hnothing
      (List.append_nil _).symm rfl (polite_of_answered_eq_nil rfl)
    · rw [hserver]
      exact (hx.orderly.settle n Fate.noConfusion).of_handlers_eq rfl id fun _ => id
    · rw [hserver]
      rfl

/-- **Every step keeps the ledger.** -/
theorem step (hx : x.Ledger) (a : Step) : (x.step a).Ledger := by
  cases a with
  | arrive r =>
    exact hx.unpaid (hx.orderly.receive r) (fun _ => rfl) hx.consistent (List.Perm.refl _)
      (List.append_nil _).symm rfl
  | advance i =>
    rcases x.step_advance_cases i with hsame | ⟨h, h', hi, ht, hput⟩ | ⟨q, hi, hforward⟩
    · rw [hsame]
      exact hx
    · rw [hput]
      exact hx.put hi ht
    · rw [hforward]
      exact hx.forward hi
  | giveUp i =>
    rcases x.step_giveUp_cases i with hsame | ⟨h, h', hi, ht, hput⟩
    · rw [hsame]
      exact hx
    · rw [hput]
      exact hx.put hi ht
  | send e hask =>
    rw [Service.step]
    split
    · have howed : ({ x with queue := x.queue ++ [e] } : Service).owed = x.owed := by
        have hasked : asked (x.queue ++ [e]) = asked x.queue := by
          rw [asked, List.filterMap_append, List.filterMap_cons_none hask, List.filterMap_nil,
            List.append_nil]
          rfl
        rw [owed, hasked]
        rfl
      exact hx.unpaid hx.orderly (fun _ => rfl) hx.consistent (by rw [howed])
        (List.append_nil _).symm rfl
    · exact hx
  | turn => exact hx.turn
  | leave => exact hx.leave
  | stop =>
    exact hx.unpaid (hx.orderly.of_handlers_eq rfl (fun _ => rfl) fun _ => id) (fun _ => rfl)
      hx.consistent (List.Perm.refl _) (List.append_nil _).symm rfl
  | hangUp => exact hx.hangUp

end Ledger
end Service
end Control
end TerminalDialogs
