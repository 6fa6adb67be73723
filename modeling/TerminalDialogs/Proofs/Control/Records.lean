import TerminalDialogs.Proofs.Control.Service

/-!
# Who asked, and who got the answer

The session knows a request by its number only, and a handler knows its request
by the same number.  Here it is shown that the two never mix it up: under each
number there is the one request that its sender was started for
(`Records.sent`), the session takes it under this number (`Records.tickets`),
and an answer that carries a reply carries the reply to the number of the
handler that answers (`Faithful`).

With the ledger this makes requests serial: `serves_one_at_a_time`.
-/

namespace TerminalDialogs
namespace Control

open Session (Effect Event Hosted Ticket asked answered replies repliesTo)

/-! ## What is let in -/

/-- A request of the web that brings a request for a widget: it is posted to the
right path, shows the token, and its body can be read. -/
structure Admitted (token : Text) (r : Http.Request) (q : Request) : Prop where
  path_eq : r.plainPath = "/tui".toList
  method_eq : r.method = "POST".toList
  authorized : r.hasHeader "Authorization".toList (bearer token) = true
  body : ∃ text, Utf8.decode? none r.body = some text ∧ Request.parse text = .ok q

variable {token : Text} {r : Http.Request} {q : Request} {a : Http.Answer}

theorem readBody_ok {body : List UInt8} (h : readBody body = .ok q) :
    ∃ text, Utf8.decode? none body = some text ∧ Request.parse text = .ok q := by
  rw [readBody] at h
  split at h
  · cases h
  · next text htext =>
    split at h
    · next q' hq =>
      cases h
      exact ⟨text, htext, hq⟩
    · cases h

theorem status_readBody {body : List UInt8} (h : readBody body = .error a) : a.status = 400 := by
  rw [readBody] at h
  split at h
  · cases h
    rfl
  · split at h
    · cases h
    · cases h
      rfl

/-- Nothing else is forwarded. -/
theorem admitted_of_route (h : route token r = .ok q) : Admitted token r q := by
  rw [route] at h
  split at h
  · cases h
  split at h
  · next hpath =>
    split at h
    · cases h
    · next hmethod =>
      split at h
      · next hheader => exact ⟨hpath, Decidable.not_not.mp hmethod, hheader, readBody_ok h⟩
      · cases h
  · cases h

/-- Who asks for a widget and is turned away is not answered with 200. -/
theorem status_route (hpath : r.plainPath = "/tui".toList) (h : route token r = .error a) :
    a.status ≠ 200 := by
  rw [route, hpath, if_neg (by decide), if_pos rfl] at h
  split at h
  · cases h
    decide
  · split at h
    · rw [status_readBody h]
      decide
    · cases h
      decide

/-! ## Servers on which something is settled -/

namespace Server

/-- A server on which some requests have been settled. -/
structure Settled (s s' : Server) : Prop where
  token_eq : s'.token = s.token
  handlers_eq : s'.handlers = s.handlers
  requests_eq : s'.requests.map Prod.fst = s.requests.map Prod.fst
  /-- A reply is final. -/
  replied : ∀ n response, s.fate? n = some (.replied response) →
    s'.fate? n = some (.replied response)

theorem Settled.refl (s : Server) : Settled s s := ⟨rfl, rfl, rfl, fun _ _ => id⟩

theorem Settled.trans {s s' s'' : Server} (h : Settled s s') (h' : Settled s' s'') :
    Settled s s'' where
  token_eq := h'.token_eq.trans h.token_eq
  handlers_eq := h'.handlers_eq.trans h.handlers_eq
  requests_eq := h'.requests_eq.trans h.requests_eq
  replied n response hn := h'.replied n response (h.replied n response hn)

theorem settled_settle (s : Server) (number : Nat) (fate : Fate) :
    Settled s (s.settle number fate) where
  token_eq := rfl
  handlers_eq := rfl
  requests_eq := by
    refine List.ext_getElem? fun n => ?_
    rw [settle, List.getElem?_map, List.getElem?_map, List.getElem?_modify]
    cases s.requests[n]? with
    | none => rfl
    | some r =>
      obtain ⟨q, old⟩ := r
      by_cases hn : number = n
      · cases old <;> simp [hn]
      · simp [hn]
  replied n response hn := by
    rw [fate?_settle, hn]
    split <;> rfl

theorem settled_run {α : Type} {f : α → Move} (hf : ∀ s b, Settled s (s.move (f b)))
    (s : Server) (l : List α) : Settled s (s.run (l.map f)) := by
  induction l generalizing s with
  | nil => exact Settled.refl s
  | cons b l ih => exact (hf s b).trans (ih (s.move (f b)))

end Server

/-! ## The records -/

namespace Service

theorem settled_hear (s : Server) (effects : List Effect) : Server.Settled s (hear s effects) := by
  have hreply (s : Server) (r : Nat × Response) : Server.Settled s (s.move (.reply r.1 r.2)) :=
    s.settled_settle r.1 (.replied r.2)
  exact Server.settled_run hreply s (replies effects)

/-- What a handler does belongs to the request that it was started for. -/
def Faithful (x : Service) (i : Nat) (r : Http.Request) : Handler → Prop
  | .arrived r' => r' = r
  | .queued q | .chosen q | .cleared q => route x.server.token r = .ok q
  | .forwarded n => x.senders[n]? = some i
  | .answered a =>
      route x.server.token r = .error a ∨ a = shuttingDown ∨
        ∃ n response, x.senders[n]? = some i ∧
          x.server.fate? n = some (.replied response) ∧ a = reply 200 response

/-- What is known of the handlers and of what they forwarded, when a session that
began as `start` is served. -/
structure Records (start : Hosted) (token : Text) (x : Service) : Prop where
  token_eq : x.server.token = token
  handlers_length : x.server.handlers.length = x.arrivals.length
  senders_length : x.senders.length = x.server.requests.length
  faithful : ∀ {i : Nat} {h : Handler} {r : Http.Request}, x.server.handlers[i]? = some h →
    x.arrivals[i]? = some r → x.Faithful i r h
  /-- Every request came in. -/
  sent : ∀ {n : Nat} {q : Request}, (x.server.requests.map Prod.fst)[n]? = some q →
    ∃ i r, x.senders[n]? = some i ∧ x.arrivals[i]? = some r ∧ route token r = .ok q
  /-- A handler that has forwarded its request is done or waits for the reply. -/
  spent : ∀ {n i : Nat}, x.senders[n]? = some i →
    x.server.handlers[i]? = some (.forwarded n) ∨ ∃ a, x.server.handlers[i]? = some (.answered a)
  senders_nodup : x.senders.Nodup
  /-- The session gets each request under its number. -/
  tickets : ∀ {t : Ticket}, .requested t ∈ x.taken ++ x.queue →
    (x.server.requests.map Prod.fst)[t.number]? = some t.request
  session_eq : x.session = Session.after start x.taken
  effects_eq : x.effects =
    Session.effects start x.taken ++ if x.isLeft then x.session.result.2 else []

variable {start : Hosted} {x x' : Service}

/-- What is true of a handler stays true while the records grow. -/
theorem Faithful.mono {i : Nat} {h : Handler} (hf : x.Faithful i r h)
    (htoken : x'.server.token = x.server.token)
    (hsenders : ∀ {n j : Nat}, x.senders[n]? = some j → x'.senders[n]? = some j)
    (hreplied : ∀ n response, x.server.fate? n = some (.replied response) →
      x'.server.fate? n = some (.replied response)) : x'.Faithful i r h := by
  cases h with
  | arrived r' => exact hf
  | forwarded n => exact hsenders hf
  | answered a =>
    rcases hf with hroute | hdown | ⟨n, response, hn, hfate, ha⟩
    · exact Or.inl (by rw [htoken]; exact hroute)
    · exact Or.inr (Or.inl hdown)
    · exact Or.inr (Or.inr ⟨n, response, hsenders hn, hreplied n response hfate, ha⟩)
  | _ =>
    rw [Faithful, htoken]
    exact hf

/-- A handler keeps to its request. -/
theorem Faithful.transition {i : Nat} {h h' : Handler} (hf : x.Faithful i r h)
    (ht : Server.Transition x.server h h') : x.Faithful i r h' := by
  cases ht with
  | routed hroute =>
    cases hf
    exact hroute
  | turnedAway hroute =>
    cases hf
    exact Or.inl hroute
  | chosen q hfree => exact hf
  | cleared q hopen => exact hf
  | replied hfate => exact Or.inr (Or.inr ⟨_, _, hf, hfate, rfl⟩)
  | late q => exact Or.inr (Or.inl rfl)
  | unheard q => exact Or.inr (Or.inl rfl)
  | dropped hfate => exact Or.inr (Or.inl rfl)
  | gaveUp n hstopped => exact Or.inr (Or.inl rfl)

namespace Records

theorem make (start : Hosted) (token : Text) (portNumber : Nat) :
    (Service.make token portNumber start).Records start token where
  token_eq := rfl
  handlers_length := rfl
  senders_length := rfl
  faithful h := by cases h
  sent h := by cases h
  spent h := by cases h
  senders_nodup := List.nodup_nil
  tickets h := by cases h
  session_eq := rfl
  effects_eq := rfl

/-- A handler takes a step that forwards nothing. -/
theorem put (hx : x.Records start token) {i : Nat} {h h' : Handler}
    (hi : x.server.handlers[i]? = some h) (ht : Server.Transition x.server h h') :
    ({ x with server := x.server.put i h' } : Service).Records start token where
  token_eq := hx.token_eq
  handlers_length := List.length_set.trans hx.handlers_length
  senders_length := hx.senders_length
  faithful {j k r} hj hr := by
    have hat := (Server.handlers_put hi h' j).symm.trans hj
    have hf : x.Faithful j r k := by
      by_cases hji : j = i
      · rw [if_pos hji] at hat
        cases hat
        rw [hji] at hr ⊢
        exact (hx.faithful hi hr).transition ht
      · rw [if_neg hji] at hat
        exact hx.faithful hat hr
    exact hf.mono rfl id fun _ _ => id
  sent := hx.sent
  spent {n j} hn := by
    show (x.server.put i h').handlers[j]? = _ ∨ ∃ a, (x.server.put i h').handlers[j]? = _
    rw [Server.handlers_put hi]
    by_cases hji : j = i
    · -- whoever waited for the reply has answered
      rw [if_pos hji]
      rcases hx.spent hn with hold | ⟨a, hold⟩
      · rw [hji, hi] at hold
        cases hold
        cases ht <;> exact Or.inr ⟨_, rfl⟩
      · rw [hji, hi] at hold
        cases hold
        cases ht
    · rw [if_neg hji]
      exact hx.spent hn
  senders_nodup := hx.senders_nodup
  tickets := hx.tickets
  session_eq := hx.session_eq
  effects_eq := hx.effects_eq

/-- A handler that is about to forward its request has forwarded none. -/
theorem not_sent_of_cleared (hx : x.Records start token) {i n : Nat} {q : Request}
    (hi : x.server.handlers[i]? = some (.cleared q)) : x.senders[n]? ≠ some i := by
  intro hn
  have h := hx.spent hn
  rw [hi] at h
  rcases h with h | ⟨a, h⟩ <;> cases h

/-- A request is forwarded under its number. -/
theorem forward (hx : x.Records start token) {i : Nat} {q : Request}
    (hi : x.server.handlers[i]? = some (.cleared q)) : (x.forward i q).Records start token := by
  have hlast : (x.senders ++ [i])[x.server.requests.length]? = some i := by
    rw [← hx.senders_length, List.getElem?_concat_length]
  have hrequests : (x.forward i q).server.requests.map Prod.fst =
      x.server.requests.map Prod.fst ++ [q] := List.map_append
  have hnew : (x.server.requests.map Prod.fst ++ [q])[x.server.requests.length]? = some q := by
    rw [← List.length_map (f := Prod.fst), List.getElem?_concat_length]
  have hhandlers (j : Nat) : (x.forward i q).server.handlers[j]? =
      if j = i then some (.forwarded x.server.requests.length) else x.server.handlers[j]? :=
    Server.handlers_put hi _ j
  refine
    { token_eq := hx.token_eq
      handlers_length := List.length_set.trans hx.handlers_length
      senders_length := ?senders_length
      faithful := ?faithful
      sent := ?sent
      spent := ?spent
      senders_nodup := ?senders_nodup
      tickets := ?tickets
      session_eq := hx.session_eq
      effects_eq := hx.effects_eq }
  case senders_length =>
    show (x.senders ++ [i]).length = (x.server.requests ++ [_]).length
    rw [List.length_append, List.length_append, hx.senders_length]
    rfl
  case faithful =>
    intro j k r hj hr
    rw [hhandlers] at hj
    by_cases hji : j = i
    · rw [if_pos hji] at hj
      cases hj
      rw [hji]
      exact hlast
    · rw [if_neg hji] at hj
      refine (hx.faithful hj hr).mono rfl (fun hn => getElem?_concat_of_some hn i)
        fun n response hn => ?_
      show (x.server.forward i q).fate? n = _
      rw [Server.fate?_forward, if_neg, hn]
      -- what has been replied to was forwarded before
      rintro rfl
      rw [Server.fate?, List.getElem?_eq_none (Nat.le_refl _)] at hn
      cases hn
  case sent =>
    intro n q' hn
    rw [hrequests] at hn
    rcases getElem?_concat_cases hn with hn | ⟨rfl, rfl⟩
    · obtain ⟨j, r, hj, hr, hroute⟩ := hx.sent hn
      exact ⟨j, r, getElem?_concat_of_some hj i, hr, hroute⟩
    · have hlength : i < x.arrivals.length := by
        rw [← hx.handlers_length]
        exact (List.getElem?_eq_some_iff.mp hi).1
      have hr : x.arrivals[i]? = some x.arrivals[i] := List.getElem?_eq_getElem hlength
      have hf : route x.server.token x.arrivals[i] = .ok q' := hx.faithful hi hr
      rw [hx.token_eq] at hf
      rw [List.length_map]
      exact ⟨i, x.arrivals[i], hlast, hr, hf⟩
  case spent =>
    intro n j hn
    rw [hhandlers]
    rcases getElem?_concat_cases hn with hold | ⟨rfl, rfl⟩
    · by_cases hji : j = i
      · exact absurd (hji ▸ hold) (hx.not_sent_of_cleared hi)
      · rw [if_neg hji]
        exact hx.spent hold
    · rw [hx.senders_length]
      exact Or.inl (if_pos rfl)
  case senders_nodup =>
    refine List.nodup_append.mpr ⟨hx.senders_nodup, by simp, ?_⟩
    rintro j hj _ hji rfl
    obtain ⟨n, hn⟩ := List.mem_iff_getElem?.mp hj
    rw [List.mem_singleton.mp hji] at hn
    exact hx.not_sent_of_cleared hi hn
  case tickets =>
    intro t ht
    rw [hrequests]
    rw [Service.forward, ← List.append_assoc, List.mem_append] at ht
    rcases ht with ht | ht
    · exact getElem?_concat_of_some (hx.tickets ht) q
    · cases List.mem_singleton.mp ht
      exact hnew

/-- A request comes in. -/
theorem arrive (hx : x.Records start token) (r : Http.Request) :
    (x.step (.arrive r)).Records start token where
  token_eq := hx.token_eq
  handlers_length := by
    show (x.server.handlers ++ [_]).length = (x.arrivals ++ [r]).length
    rw [List.length_append, List.length_append, hx.handlers_length]
    rfl
  senders_length := hx.senders_length
  faithful {i h r'} hi hr := by
    have hlength := hx.handlers_length
    rcases getElem?_concat_cases hi with hi | ⟨hlast, rfl⟩
    · rcases getElem?_concat_cases hr with hr | ⟨rfl, -⟩
      · exact (hx.faithful hi hr).mono rfl id fun _ _ => id
      · have hlt := (List.getElem?_eq_some_iff.mp hi).1
        omega
    · rcases getElem?_concat_cases hr with hr | ⟨-, rfl⟩
      · have hlt := (List.getElem?_eq_some_iff.mp hr).1
        omega
      · rfl
  sent {n q} hn := by
    obtain ⟨i, r', hi, hr, hroute⟩ := hx.sent hn
    exact ⟨i, r', hi, getElem?_concat_of_some hr r, hroute⟩
  spent hn := (hx.spent hn).imp (fun h => getElem?_concat_of_some h _)
    fun ⟨a, ha⟩ => ⟨a, getElem?_concat_of_some ha _⟩
  senders_nodup := hx.senders_nodup
  tickets := hx.tickets
  session_eq := hx.session_eq
  effects_eq := hx.effects_eq

/-- Requests are settled, and the session has gone on. -/
theorem settled (hx : x.Records start token) (hs : Server.Settled x.server x'.server)
    (harrivals : x'.arrivals = x.arrivals) (hsenders : x'.senders = x.senders)
    (htickets : ∀ t, .requested t ∈ x'.taken ++ x'.queue → .requested t ∈ x.taken ++ x.queue)
    (hsession : x'.session = Session.after start x'.taken)
    (heffects : x'.effects =
      Session.effects start x'.taken ++ if x'.isLeft then x'.session.result.2 else []) :
    x'.Records start token where
  token_eq := hs.token_eq.trans hx.token_eq
  handlers_length := by rw [hs.handlers_eq, harrivals, hx.handlers_length]
  senders_length := by
    have hlength := congrArg List.length hs.requests_eq
    rw [List.length_map, List.length_map] at hlength
    rw [hsenders, hlength, hx.senders_length]
  faithful hi hr := by
    rw [hs.handlers_eq] at hi
    rw [harrivals] at hr
    refine (hx.faithful hi hr).mono hs.token_eq (fun h => ?_) hs.replied
    rw [hsenders]
    exact h
  sent hn := by
    rw [hs.requests_eq] at hn
    rw [hsenders, harrivals]
    exact hx.sent hn
  spent hn := by
    rw [hsenders] at hn
    rw [hs.handlers_eq]
    exact hx.spent hn
  senders_nodup := by
    rw [hsenders]
    exact hx.senders_nodup
  tickets ht := by
    rw [hs.requests_eq]
    exact hx.tickets (htickets _ ht)
  session_eq := hsession
  effects_eq := heffects

/-- The session takes an event. -/
theorem turn (hx : x.Records start token) : (x.step .turn).Records start token := by
  rw [Service.step]
  by_cases hleft : x.isLeft = true
  · rw [if_pos hleft]
    exact hx
  rw [if_neg hleft]
  cases hqueue : x.queue with
  | nil => exact hx
  | cons e queue =>
    refine hx.settled (settled_hear x.server _) rfl rfl
      (fun t ht => ?_) ?_ ?_
    · rw [hqueue]
      rw [List.append_assoc] at ht
      exact ht
    · show (x.session.handle e).1 = Session.after start (x.taken ++ [e])
      rw [Session.after_append, ← hx.session_eq]
      rfl
    · have heffects := hx.effects_eq
      rw [if_neg hleft, List.append_nil] at heffects
      show x.effects ++ (x.session.handle e).2.effects = Session.effects start (x.taken ++ [e]) ++
        if x.isLeft = true then (x.session.handle e).1.result.2 else []
      rw [if_neg hleft, List.append_nil, Session.effects_append, ← hx.session_eq, heffects,
        Session.effects_cons, Session.effects_nil, List.append_nil]
      rfl

/-- **Every step keeps the records.** -/
theorem step (hx : x.Records start token) (a : Step) : (x.step a).Records start token := by
  cases a with
  | arrive r => exact hx.arrive r
  | advance i =>
    rcases x.step_advance_cases i with hsame | ⟨h, h', hi, ht, hput⟩ | ⟨q, hi, hforward⟩
    · rw [hsame]
      exact hx
    · rw [hput]
      exact hx.put hi ht
    · rw [hforward]
      exact hx.forward hi
  | giveUp i =>
    rcases x.step_giveUp_cases i with hsame | ⟨h, h', hi, ht, hput⟩
    · rw [hsame]
      exact hx
    · rw [hput]
      exact hx.put hi ht
  | send e hask =>
    rw [Service.step]
    split
    · refine hx.settled (Server.Settled.refl _) rfl rfl (fun t ht => ?_) hx.session_eq
        hx.effects_eq
      rw [← List.append_assoc, List.mem_append] at ht
      rcases ht with ht | ht
      · exact ht
      · rw [← List.mem_singleton.mp ht] at hask
        cases hask
    · exact hx
  | turn => exact hx.turn
  | leave =>
    rw [Service.step]
    split
    · exact hx
    · next hleft =>
      refine hx.settled (settled_hear x.server _) rfl rfl
        (fun t ht => ht) hx.session_eq ?_
      have heffects := hx.effects_eq
      rw [if_neg hleft, List.append_nil] at heffects
      show x.effects ++ x.session.result.2 = _
      rw [heffects]
      rfl
  | stop =>
    exact hx.settled ⟨rfl, rfl, rfl, fun _ _ => id⟩ rfl rfl (fun t ht => ht) hx.session_eq
      hx.effects_eq
  | hangUp =>
    have hdrop (s : Server) (n : Nat) : Server.Settled s (s.move (.drop n)) :=
      s.settled_settle n .dropped
    have hdropped : Server.Settled x.server (x.server.run ((asked x.queue).map .drop)).hangUp :=
      (Server.settled_run hdrop x.server _).trans ⟨rfl, rfl, rfl, fun _ _ => id⟩
    refine hx.settled hdropped rfl rfl (fun t ht => ?_) hx.session_eq hx.effects_eq
    rw [Service.step, List.append_nil] at ht
    exact List.mem_append_left _ ht

/-- To whom the session has replied, it has replied to what he asked. -/
theorem taken_of_replied (hx : x.Records start token) (hstart : start.standing.Consistent)
    (hnone : start.standing.waiting = []) {n : Nat} {response : Response} {q : Request}
    (hreply : response ∈ repliesTo n x.effects)
    (hq : (x.server.requests.map Prod.fst)[n]? = some q) :
    .requested { number := n, request := q } ∈ x.taken := by
  have hbalance := Hosted.balance hstart x.taken
  rw [hnone, List.append_nil, ← hx.session_eq] at hbalance
  have hanswered : n ∈ answered x.effects := by
    obtain ⟨⟨m, response'⟩, hmem, hto⟩ := List.mem_filterMap.mp hreply
    rw [Session.answered_eq]
    split at hto
    · next hm => exact List.mem_map.mpr ⟨_, hmem, hm⟩
    · cases hto
  have hasked : n ∈ asked x.taken := by
    rw [← hbalance.mem_iff, List.mem_append]
    rw [hx.effects_eq, Session.answered_append, List.mem_append] at hanswered
    refine hanswered.imp id fun h => ?_
    split at h
    · rw [Hosted.answered_result] at h
      exact h
    · cases h
  obtain ⟨e, he, hasks⟩ := List.mem_filterMap.mp hasked
  cases e with
  | requested t =>
    obtain ⟨number, request⟩ := t
    cases hasks
    have hsame := hx.tickets (List.mem_append_left x.queue he)
    rw [hq] at hsame
    cases hsame
    exact he
  | _ => cases hasks

end Records

/-- **The server serves one request at a time and mixes none up.**  A server runs
with a new session, requests come in, and handlers, the session, those who send
it other events and the end of either take their steps in any order.  At every
point:

* at most one of the requests that were forwarded is neither replied to nor
  dropped;
* the session has told nobody that another component is active;
* every request that was forwarded is the one that a handler, which forwarded no
  other, was started for: it was posted to `/tui` with the token, and its body is
  a request; and under its number the session has taken no other;
* an answer of 200 to a request to `/tui` carries the one reply that the session
  has made to this very request. -/
theorem serves_one_at_a_time (token : Text) (portNumber : Nat) (caption : Session.Caption)
    (theme : Modal.Theme) (files : Files.Tree) (input : Session.Writer) (steps : List Step) :
    let start := Hosted.make caption theme files input
    let x := (make token portNumber start).run steps
    x.server.pending.length ≤ 1 ∧
    x.session = Session.after start x.taken ∧
    (∀ ticket response, .reply ticket response ∈ x.effects →
      response.error ≠ "another component is active".toList) ∧
    (x.senders.Nodup ∧ ∀ n q fate, x.server.requests[n]? = some (q, fate) →
      (∃ i r, x.senders[n]? = some i ∧ x.arrivals[i]? = some r ∧ Admitted token r q) ∧
      ∀ t, .requested t ∈ x.taken → t.number = n → t.request = q) ∧
    ∀ i r a, x.arrivals[i]? = some r → r.plainPath = "/tui".toList →
      x.server.handlers[i]? = some (.answered a) → a.status = 200 →
        ∃ n q response, x.senders[n]? = some i ∧ Admitted token r q ∧
          .requested { number := n, request := q } ∈ x.taken ∧
          repliesTo n x.effects = [response] ∧ a = reply 200 response := by
  intro start x
  have hstart : start.standing.Consistent := Hosted.make_consistent caption theme files input
  have hledger : x.Ledger :=
    run_invariant (fun _ a h => h.step a) (Ledger.make token portNumber hstart rfl) steps
  have hrecords : x.Records start token :=
    run_invariant (fun _ a h => h.step a) (Records.make start token portNumber) steps
  refine ⟨?_, hrecords.session_eq, ?_, ⟨hrecords.senders_nodup, ?_⟩, ?_⟩
  · refine Server.length_pending_le fun n m hn hm => ?_
    rw [← hledger.owed_iff] at hn hm
    exact hledger.owed_unique hn hm
  · intro ticket response hreply
    exact hledger.polite (ticket, response) (List.mem_filterMap.mpr ⟨_, hreply, rfl⟩)
  · intro n q fate hn
    have hq : (x.server.requests.map Prod.fst)[n]? = some q := by
      rw [List.getElem?_map, hn]
      rfl
    refine ⟨?_, fun t ht hnumber => ?_⟩
    · obtain ⟨i, r, hi, hr, hroute⟩ := hrecords.sent hq
      exact ⟨i, r, hi, hr, admitted_of_route hroute⟩
    · have hsame := hrecords.tickets (List.mem_append_left x.queue ht)
      rw [hnumber, hq] at hsame
      exact (Option.some.inj hsame).symm
  · intro i r a hr hpath hi hstatus
    rcases hrecords.faithful hi hr with hroute | rfl | ⟨n, response, hn, hfate, rfl⟩
    · exact absurd hstatus (status_route hpath hroute)
    · exact absurd hstatus (by decide)
    · have hreplies : repliesTo n x.effects = [response] := by
        rw [hledger.replies_eq, hfate]
        rfl
      obtain ⟨⟨q, fate⟩, hrequest, -⟩ := Option.map_eq_some_iff.mp hfate
      have hq : (x.server.requests.map Prod.fst)[n]? = some q := by
        rw [List.getElem?_map, hrequest]
        rfl
      obtain ⟨j, r', hj, hr', hroute⟩ := hrecords.sent hq
      rw [hn] at hj
      cases hj
      rw [hr] at hr'
      cases hr'
      have hmem : response ∈ repliesTo n x.effects := by
        rw [hreplies]
        exact List.mem_singleton_self response
      exact ⟨n, q, response, hn, admitted_of_route hroute,
        hrecords.taken_of_replied hstart rfl hmem hq, hreplies, rfl⟩

/-- The status of the answer that a handler has given. -/
def answeredWith (h : Option Handler) : Nat :=
  match h with
  | some (.answered a) => a.status
  | _ => 0

theorem exists_answer {h : Option Handler} {status : Nat} (hstatus : answeredWith h = status)
    (hzero : status ≠ 0) : ∃ a, h = some (.answered a) ∧ a.status = status := by
  match h with
  | some (.answered a) => exact ⟨a, rfl, hstatus⟩
  | none | some (.arrived _) | some (.queued _) | some (.chosen _) | some (.cleared _)
  | some (.forwarded _) => exact absurd hstatus.symm hzero

/-- Two handlers ask for a prompt each; the second one waits until the first has
been answered. -/
theorem serves_one_at_a_time_prompts :
    let r : Http.Request :=
      { path := "/tui?from=test".toList
        headers := [("authorization".toList, "Bearer t".toList)]
        body := Utf8.encode "\x7b\"component\":\"input\"\x7d".toList }
    ∃ x : Service, x = (make "t".toList 4000
        (Hosted.make {} ⟨⟨0, 0, 0⟩, ⟨0, 0, 0⟩, ⟨0, 0, 0⟩⟩ {} .working)).run
      [.arrive r, .arrive r, .advance 0, .advance 1, .advance 0, .advance 1, .advance 0,
        .advance 0, .turn, .advance 1, .send (.key { code := .escape }) rfl, .turn, .advance 0] ∧
      x.server.pending.length ≤ 1 ∧ x.server.requests.length = 1 ∧
      ∃ a n response, x.server.handlers[0]? = some (.answered a) ∧ x.senders[n]? = some 0 ∧
        repliesTo n x.effects = [response] ∧ a = reply 200 response := by
  intro r
  obtain ⟨hpending, -, -, -, hanswer⟩ := serves_one_at_a_time "t".toList 4000 {}
    ⟨⟨0, 0, 0⟩, ⟨0, 0, 0⟩, ⟨0, 0, 0⟩⟩ {} .working
    [.arrive r, .arrive r, .advance 0, .advance 1, .advance 0, .advance 1, .advance 0,
      .advance 0, .turn, .advance 1, .send (.key { code := .escape }) rfl, .turn, .advance 0]
  generalize hx : Service.run _ _ = x at hpending hanswer
  have hlength : x.server.requests.length = 1 := by
    rw [← hx]
    decide +kernel
  have harrival : x.arrivals[0]? = some r := by
    rw [← hx]
    decide +kernel
  have hstatus : answeredWith x.server.handlers[0]? = 200 := by
    rw [← hx]
    decide +kernel
  obtain ⟨a, ha, h200⟩ := exists_answer hstatus (by decide)
  obtain ⟨n, q, response, hn, -, -, hreplies, hreply⟩ := hanswer 0 r a harrival (by decide) ha h200
  exact ⟨x, rfl, hpending, hlength, a, n, response, ha, hn, hreplies, hreply⟩

end Service
end Control
end TerminalDialogs
