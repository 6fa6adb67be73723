import TerminalDialogs.Control.Client
import TerminalDialogs.Proofs.Control.Service
import TerminalDialogs.Proofs.Json.Record

/-!
# What the requester sees

A reply says one of three things, and it says two of them by what it leaves out: who reads it
has to tell a result from a dismissal and both from a refusal by the members that are absent.
First, nothing is lost on the way: a reply is read as the reply that was written
(`Response.parse_encode`), but for a result that is `null`.

Then the three are set apart three times, by the session, which looks at the widget, by the
reply, which leaves out what is absent, and by the client, which looks at what is there.
`Ends` says once and for all what becomes of a request, and each of the three agrees with it:
the session in its replies (`ends_of_reply`), and the client in what it makes of them
(`resultOf_response`).  A request cannot end in two ways (`Ends.unique`), and no two ends look
alike (`Ending.seen_injective`).
-/

namespace TerminalDialogs

open Control (Client Response Url)

/-! ## Replies on the wire -/

namespace Control

open Json (ReadsBack depthLimit)

variable {r : Response}

theorem Response.takes_members (hreads : ∀ v ∈ r.result, ReadsBack (depthLimit - 1) v) :
    ∀ m ∈ r.members, Response.shape.Takes m := by
  intro m hm
  simp only [members, List.mem_append] at hm
  rcases hm with (hm | hm) | hm
  · cases hresult : r.result with
    | none =>
      rw [hresult] at hm
      cases hm
    | some v =>
      rw [hresult] at hm
      rw [List.mem_singleton.mp hm]
      exact ⟨_, rfl, hreads v hresult⟩
  · split at hm
    · rw [List.mem_singleton.mp hm]
      exact ⟨_, rfl, true, rfl⟩
    · cases hm
  · split at hm
    · cases hm
    · rw [List.mem_singleton.mp hm]
      exact ⟨_, rfl, r.error, rfl⟩

theorem Response.nodup_members (r : Response) : (r.members.map Prod.fst).Nodup := by
  have hnames : (["result".toList] ++ ["cancelled".toList] ++ ["error".toList]).Nodup := by decide
  refine List.Sublist.nodup ?_ hnames
  rw [members, List.map_append, List.map_append]
  refine (List.Sublist.append ?_ ?_).append ?_
  · split
    · exact List.Sublist.refl _
    · exact List.nil_sublist _
  · split
    · exact List.Sublist.refl _
    · exact List.nil_sublist _
  · split
    · exact List.nil_sublist _
    · exact List.Sublist.refl _

/-- What a reader finds under the name of each field. -/
theorem Response.get?_members (r : Response) :
    Json.Given.get? r.members.reverse "result".toList = r.result ∧
      Json.Given.get? r.members.reverse "cancelled".toList =
        (if r.cancelled then some (.bool true) else none) ∧
      Json.Given.get? r.members.reverse "error".toList =
        (if r.error.isEmpty then none else some (.string r.error)) := by
  obtain ⟨result, cancelled, error⟩ := r
  rcases result with _ | v
  all_goals
    rcases cancelled with _ | _
    all_goals
      rcases error with _ | ⟨c, error⟩
      all_goals exact ⟨rfl, rfl, rfl⟩

/-- **A reply is read as it was written**, if its result is read back and not `null`. -/
theorem Response.parse_encode (hnull : r.result ≠ some .null)
    (hreads : ∀ v ∈ r.result, ReadsBack (depthLimit - 1) v) : Response.parse r.encode = .ok r := by
  have hparse := Json.parseRecord_compactRecord (takes_members hreads) r.nodup_members rfl
  obtain ⟨hresult, hcancelled, herror⟩ := r.get?_members
  rw [Response.parse, encode, hparse]
  show Except.ok _ = Except.ok _
  rw [hresult, hcancelled, herror]
  obtain ⟨result, cancelled, error⟩ := r
  congr 2
  · rcases result with _ | v
    · rfl
    · cases v with
      | null => exact absurd rfl hnull
      | _ => rfl
  · cases cancelled <;> rfl
  · cases error <;> rfl

end Control

/-! ## Results on the wire -/

namespace Widget

open Json (Plain)

/-- A whole number of 64 bits, of which one is the sign. -/
def IsSignedWord (n : Int) : Prop := -(Nat.pow 2 63 : Nat) ≤ n ∧ n < (Nat.pow 2 63 : Nat)

instance (n : Int) : Decidable (IsSignedWord n) := inferInstanceAs (Decidable (_ ∧ _))

/-- The position of a row and the exit code of a command are numbers of 64 bits at most. -/
def Value.Fits : Value → Prop
  | .row selection => IsSignedWord selection.index
  | .output o => IsSignedWord o.exitCode
  | _ => True

theorem plain_ofInt {n : Int} (h : IsSignedWord n) (depth : Nat) : Plain depth (Json.ofInt n) := by
  obtain ⟨hlow, hhigh⟩ := h
  cases n with
  | ofNat n =>
    have hlt : n < Nat.pow 2 63 := Int.ofNat_lt.mp hhigh
    have hword : n < Json.wordLimit := hlt.trans (by decide)
    exact .number hword
  | negSucc n =>
    have hle : n + 1 ≤ Nat.pow 2 63 := by
      rw [Int.negSucc_eq] at hlow
      omega
    exact .number ⟨Nat.succ_pos n, hle⟩

theorem plain_ofTexts (texts : List Text) (depth : Nat) :
    Plain (depth + 1) (Json.ofTexts texts) := by
  refine .array fun v hv => ?_
  obtain ⟨s, -, rfl⟩ := List.mem_map.mp hv
  exact .string s

theorem plain_one {v : Json} {depth : Nat} (h : Plain depth v) (key : String) :
    Plain (depth + 1) (one key v) :=
  .object rfl fun m hm => by
    rw [List.mem_singleton.mp hm]
    exact h

theorem plain_selection {selection : Selection} (h : IsSignedWord selection.index) :
    Plain 2 selection.wire := by
  have hwire : selection.wire = .object [("selected_index".toList, Json.ofInt selection.index),
      ("selected_row".toList, Json.ofTexts selection.row)] := rfl
  rw [hwire]
  refine .object rfl ?_
  simp only [List.forall_mem_cons]
  exact ⟨plain_ofInt h 1, plain_ofTexts selection.row 0, fun m hm => absurd hm List.not_mem_nil⟩

theorem plain_output {o : Output} (h : IsSignedWord o.exitCode) : Plain 2 o.wire := by
  have hwire : o.wire = .object [("exit_code".toList, Json.ofInt o.exitCode),
      ("stderr".toList, .string o.stderr), ("stdout".toList, .string o.stdout)] := rfl
  rw [hwire]
  refine .object rfl ?_
  simp only [List.forall_mem_cons]
  exact ⟨plain_ofInt h 1, .string _, .string _, fun m hm => absurd hm List.not_mem_nil⟩

/-- **What a widget yields is read back.** -/
theorem plain_wire (kind : Kind) {value : Value} (h : value.Fits) : Plain 2 (wire kind value) := by
  fun_cases wire kind value
  case case1 items | case3 items => exact plain_one (plain_ofTexts items 0) _
  case case2 | case4 => exact plain_one (plain_ofTexts [] 0) _
  case case5 b => exact plain_one (.bool b) _
  case case6 => exact plain_one (.bool false) _
  case case7 s | case9 s | case11 s => exact plain_one (.string s) _
  case case8 | case10 | case12 => exact plain_one (.string []) _
  case case13 selection => exact plain_selection h
  case case14 => exact plain_selection (by decide)
  case case15 o => exact plain_output h
  case case16 => exact plain_output (by decide)
  case case17 => exact .object rfl fun m hm => absurd hm List.not_mem_nil

/-- A result is never absent. -/
theorem wire_ne_null (kind : Kind) (value : Value) : wire kind value ≠ .null := by
  fun_cases wire kind value
  all_goals exact nofun

end Widget

/-! ## What becomes of a request -/

namespace Session

/-- What becomes of a request. -/
inductive Ending where
  /-- The widget was submitted; what it yields is as given on the wire. -/
  | finished (result : Json)
  /-- The widget was dismissed or abandoned. -/
  | dismissed
  /-- There was no widget. -/
  | refused (reason : Text)

/-- The reply that says it. -/
def Ending.response : Ending → Response
  | .finished result => .ofResult result
  | .dismissed => .dismissed
  | .refused reason => .refused reason

/-- What the requester sees of it. -/
def Ending.seen : Ending → Except Failure Json
  | .finished result => .ok result
  | .dismissed => .error (.ofWidget .cancelled)
  | .refused reason => .error (.because ("TUI error: ".toList ++ reason))

/-- No two ends look alike. -/
theorem Ending.seen_injective : Function.Injective Ending.seen := by
  intro a b h
  cases a with
  | finished result =>
    cases b with
    | finished result' => exact congrArg finished (Except.ok.inj h)
    | _ => cases h
  | dismissed =>
    cases b with
    | dismissed => rfl
    | _ => cases h
  | refused reason =>
    cases b with
    | refused reason' =>
      have htexts := congrArg Cause.message (congrArg Failure.cause (Except.error.inj h))
      exact congrArg refused (List.append_cancel_left htexts)
    | _ => cases h

namespace Hosted

/-- The widget that is shown, after it was told something. -/
def told (s : Hosted) (m : Widget.Message) (shown : Shown) : Shown :=
  { shown with widget := (shown.widget.update s.files m).1 }

/-- The widget that an event opens or is passed on to, as the event leaves it. -/
def concerned? (s : Hosted) : Event → Option Shown
  | .requested ticket => s.opening? (.requested ticket)
  | .key k => if s.stage = .showingWidget then s.shown.map (s.told (.key k)) else none
  | .widget generation m =>
      (s.shown.filter fun shown => shown.generation == generation).map (s.told m)
  | _ => none

/-- Why there is no widget for a request: the command has ended, another widget is shown, or the
widget cannot be made. -/
def refusal? (s : Hosted) (r : Control.Request) : Option Text :=
  match s.stage with
  | .completed => some "command has already finished".toList
  | .showingWidget => some "another component is active".toList
  | .executing =>
      match s.widgetOf r with
      | .error e => some ("failed to create component: ".toList ++ e.message)
      | .ok _ => none

/-- **What becomes of a request** when an event comes or, without one, when the session is over.
It is said by the widget and by the session before the event, and not by what is replied. -/
inductive Ends (s : Hosted) : Option Event → Nat → Ending → Prop where
  | finished {e : Event} {shown : Shown} (hconcerned : s.concerned? e = some shown)
      (hdone : shown.widget.isDone = true) (hkept : shown.widget.isCancelled = false) :
      Ends s (some e) shown.ticket
        (.finished (Widget.wire shown.widget.kind shown.widget.value))
  | dismissed {e : Event} {shown : Shown} (hconcerned : s.concerned? e = some shown)
      (hdone : shown.widget.isDone = true) (hcancelled : shown.widget.isCancelled = true) :
      Ends s (some e) shown.ticket .dismissed
  /-- The command ends while the widget is shown. -/
  | abandoned {shown : Shown} (hshown : s.shown = some shown) (outcome : Outcome) :
      Ends s (some (.exited outcome)) shown.ticket .dismissed
  /-- The session is over while the widget is shown. -/
  | left {shown : Shown} (hshown : s.shown = some shown) : Ends s none shown.ticket .dismissed
  | refused {ticket : Ticket} {reason : Text} (hreason : s.refusal? ticket.request = some reason) :
      Ends s (some (.requested ticket)) ticket.number (.refused reason)

/-- What a session does when an event comes or when it is over. -/
def effectsAt (s : Hosted) : Option Event → List Effect
  | some e => (s.handle e).2.effects
  | none => s.result.2

variable {s : Hosted} {moment : Option Event} {ticket : Nat} {ending : Ending}
  {response : Response}

/-- A request is refused, for the reason there is, or it opens its widget. -/
theorem refusal?_cases (s : Hosted) (ticket : Ticket) :
    (∃ reason, s.refusal? ticket.request = some reason ∧ s.opening? (.requested ticket) = none ∧
        s.accept ticket = s.refuse ticket reason) ∨
      s.refusal? ticket.request = none ∧ ∃ shown, s.opening? (.requested ticket) = some shown := by
  rw [refusal?, opening?, accept]
  cases hstage : s.stage with
  | completed => exact Or.inl ⟨_, rfl, rfl, rfl⟩
  | showingWidget => exact Or.inl ⟨_, rfl, rfl, rfl⟩
  | executing =>
    cases hwidget : s.widgetOf ticket.request with
    | error e => exact Or.inl ⟨_, rfl, rfl, rfl⟩
    | ok widget => exact Or.inr ⟨rfl, _, rfl⟩

/-- A request that is refused opens no widget. -/
theorem opening?_of_refusal {ticket : Ticket} {reason : Text}
    (h : s.refusal? ticket.request = some reason) : s.opening? (.requested ticket) = none := by
  rcases refusal?_cases s ticket with ⟨_, -, hnone, -⟩ | ⟨hnone, -⟩
  · exact hnone
  · cases h.symm.trans hnone

/-- **A request ends in one way**, and so does whatever else ends at the same moment. -/
theorem Ends.unique {other : Nat} {a b : Ending} (ha : s.Ends moment ticket a)
    (hb : s.Ends moment other b) : a = b := by
  cases ha with
  | finished hconcerned hdone hkept =>
    cases hb with
    | finished hconcerned' =>
      obtain rfl := Option.some.inj (hconcerned.symm.trans hconcerned')
      rfl
    | dismissed hconcerned' hdone' hcancelled =>
      obtain rfl := Option.some.inj (hconcerned.symm.trans hconcerned')
      exact absurd hcancelled (Bool.eq_false_iff.mp hkept)
    | abandoned => cases hconcerned
    | refused hreason => cases hconcerned.symm.trans (opening?_of_refusal hreason)
  | dismissed hconcerned hdone hcancelled =>
    cases hb with
    | finished hconcerned' hdone' hkept =>
      obtain rfl := Option.some.inj (hconcerned.symm.trans hconcerned')
      exact absurd hcancelled (Bool.eq_false_iff.mp hkept)
    | dismissed => rfl
    | abandoned => rfl
    | refused hreason => cases hconcerned.symm.trans (opening?_of_refusal hreason)
  | abandoned hshown outcome =>
    cases hb with
    | finished hconcerned => cases hconcerned
    | dismissed => rfl
    | abandoned => rfl
  | left hshown =>
    cases hb with
    | left => rfl
  | refused hreason =>
    -- the same event may have concerned a widget, but not if it was a request that is refused
    cases hb with
    | finished hconcerned => cases hconcerned.symm.trans (opening?_of_refusal hreason)
    | dismissed hconcerned => cases hconcerned.symm.trans (opening?_of_refusal hreason)
    | refused hreason' =>
      exact congrArg Ending.refused (Option.some.inj (hreason.symm.trans hreason'))

/-! ### What the session replies -/

theorem replies_settle (s : Hosted) (shown : Shown) (command : Option Widget.Effect) :
    replies (s.settle shown command).2.effects =
      if shown.widget.isDone then [(shown.ticket, replyOf shown.widget)] else [] := by
  rw [settle]
  split <;> rfl

/-- The widget that an event concerns is answered for if it is done. -/
theorem replies_of_concerned {e : Event} {shown : Shown} (h : s.concerned? e = some shown) :
    replies (s.handle e).2.effects =
      if shown.widget.isDone then [(shown.ticket, replyOf shown.widget)] else [] := by
  -- a key and a message get to the widget that is shown already, a request to a new one
  have htell (m : Widget.Message) (old : Shown) (hold : s.shown = some old)
      (htold : s.told m old = shown) : replies (s.tell m).2.effects =
        if shown.widget.isDone then [(shown.ticket, replyOf shown.widget)] else [] := by
    rw [tell, hold, ← htold]
    exact replies_settle s _ _
  cases e with
  | key k =>
    rw [concerned?] at h
    split at h
    · next hstage =>
      obtain ⟨old, hold, htold⟩ := Option.map_eq_some_iff.mp h
      rw [handle, handleKey, hstage]
      exact htell (.key k) old hold htold
    · cases h
  | widget generation m =>
    obtain ⟨old, hfilter, htold⟩ := Option.map_eq_some_iff.mp h
    obtain ⟨hold, hsame⟩ := Option.filter_eq_some_iff.mp hfilter
    rw [handle, hold]
    dsimp only
    rw [if_pos (beq_iff_eq.mp hsame)]
    exact htell m old hold htold
  | requested ticket =>
    rcases accept_cases s ticket with ⟨hnone, -⟩ | ⟨opened, -, hopened, -, haccept⟩
    · cases h.symm.trans hnone
    · obtain rfl := Option.some.inj (hopened.symm.trans h)
      rw [handle, haccept]
      exact replies_settle _ _ _
  | _ => cases h

theorem replies_abandon (s : Hosted) :
    replies s.abandon.2 = (s.shown.map fun shown => (shown.ticket, Response.dismissed)).toList := by
  rw [abandon]
  cases s.shown <;> rfl

theorem replies_eq_nil {effects : List Effect} (h : answered effects = []) :
    replies effects = [] := by
  rw [answered_eq] at h
  exact List.map_eq_nil_iff.mp h

/-- A key that concerns no widget answers nobody. -/
theorem replies_key {k : Key} (h : s.concerned? (.key k) = none) :
    replies (s.handle (.key k)).2.effects = [] := by
  rw [handle, handleKey]
  cases hstage : s.stage with
  | completed =>
    dsimp only
    split <;> rfl
  | showingWidget =>
    rw [concerned?, if_pos hstage] at h
    rw [tell, Option.map_eq_none_iff.mp h]
    rfl
  | executing => exact replies_eq_nil (forward_change s k).2

/-- A message that concerns no widget answers nobody. -/
theorem replies_widget {generation : Nat} {m : Widget.Message}
    (h : s.concerned? (.widget generation m) = none) :
    replies (s.handle (.widget generation m)).2.effects = [] := by
  rw [handle]
  cases hshown : s.shown with
  | none => rfl
  | some shown =>
    have hother : shown.generation ≠ generation := by
      rw [concerned?, hshown, Option.map_eq_none_iff, Option.filter_eq_none_iff] at h
      intro hsame
      exact h shown rfl (beq_iff_eq.mpr hsame)
    dsimp only
    rw [if_neg hother]
    rfl

/-- What a widget that is done has come to. -/
theorem ends_of_done {e : Event} {shown : Shown} (hconcerned : s.concerned? e = some shown)
    (hdone : shown.widget.isDone = true) :
    ∃ ending, s.Ends (some e) shown.ticket ending ∧ replyOf shown.widget = ending.response := by
  cases hcancelled : shown.widget.isCancelled with
  | true =>
    refine ⟨.dismissed, .dismissed hconcerned hdone hcancelled, ?_⟩
    rw [replyOf, Widget.result, if_pos hcancelled]
    rfl
  | false =>
    refine ⟨_, .finished hconcerned hdone hcancelled, ?_⟩
    rw [replyOf, Widget.result, hcancelled, if_neg Bool.false_ne_true]
    rfl

/-- **Every reply says what has become of the request.** -/
theorem ends_of_reply (h : (ticket, response) ∈ replies (s.effectsAt moment)) :
    ∃ ending, s.Ends moment ticket ending ∧ response = ending.response := by
  cases moment with
  | none =>
    rw [effectsAt, result, replies_abandon] at h
    obtain ⟨shown, hshown, heq⟩ := Option.map_eq_some_iff.mp (Option.mem_toList.mp h)
    cases heq
    exact ⟨.dismissed, .left hshown, rfl⟩
  | some e =>
    rw [effectsAt] at h
    cases hconcerned : s.concerned? e with
    | some shown =>
      rw [replies_of_concerned hconcerned] at h
      split at h
      · next hdone =>
        cases List.mem_singleton.mp h
        exact ends_of_done hconcerned hdone
      · cases h
    | none =>
      cases e with
      | requested t =>
        rcases refusal?_cases s t with ⟨reason, hreason, -, haccept⟩ | ⟨-, shown, hopened⟩
        · rw [handle, haccept] at h
          cases List.mem_singleton.mp h
          exact ⟨.refused reason, .refused hreason, rfl⟩
        · cases hconcerned.symm.trans hopened
      | exited outcome =>
        have hcomplete : (s.complete outcome).2 = s.abandon.2 := rfl
        rw [handle] at h
        dsimp only at h
        rw [hcomplete, replies_abandon] at h
        obtain ⟨shown, hshown, heq⟩ := Option.map_eq_some_iff.mp (Option.mem_toList.mp h)
        cases heq
        exact ⟨.dismissed, .abandoned hshown outcome, rfl⟩
      | key k =>
        rw [replies_key hconcerned] at h
        cases h
      | widget generation m =>
        rw [replies_widget hconcerned] at h
        cases h
      | resize width height =>
        rw [handle, replies_eq_nil (resize_change s width height).2] at h
        cases h
      | output text => cases h

end Hosted

/-! ### What the client makes of it -/

/-- **The client sees what has become of the request**, if it can read the result and if a reason
is given. -/
theorem resultOf_response {c : Client} {url : Url} (htarget : c.target = .ok url) {ending : Ending}
    (hparse : Response.parse ending.response.encode = .ok ending.response)
    (hreason : ending ≠ .refused []) :
    c.resultOf (.ok (Control.reply 200 ending.response)) = ending.seen := by
  have hanswer : c.answerOf (.ok (Control.reply 200 ending.response)) =
      .ok (Control.reply 200 ending.response) := by
    unfold Client.answerOf
    rw [htarget]
  have hstatus : ¬ Client.failedStatus ≤ 200 := by decide
  have hbody : (Control.reply 200 ending.response).body = ending.response.encode := rfl
  rw [Client.resultOf, Client.replyOf, hanswer]
  dsimp only
  rw [show (Control.reply 200 ending.response).status = 200 from rfl, if_neg hstatus, hbody, hparse]
  cases ending with
  | finished result => rfl
  | dismissed => rfl
  | refused reason =>
    rcases reason with _ | ⟨c, reason⟩
    · exact absurd rfl hreason
    · rfl

namespace Hosted

variable {s : Hosted} {moment : Option Event} {ticket : Nat} {ending : Ending}

/-- A session gives a reason for every refusal. -/
theorem reason_ne_nil {r : Control.Request} {reason : Text} (h : s.refusal? r = some reason) :
    reason ≠ [] := by
  rw [refusal?] at h
  split at h
  · cases h
    decide
  · cases h
    decide
  · split at h
    · cases h
      exact List.append_ne_nil_of_left_ne_nil (by decide) _
    · cases h

/-- What has become of a request can be read by the client. -/
theorem Ends.readable (h : s.Ends moment ticket ending)
    (hreads : ∀ v, s.Ends moment ticket (.finished v) → v.ReadsBack (Json.depthLimit - 1)) :
    Response.parse ending.response.encode = .ok ending.response ∧ ending ≠ .refused [] := by
  cases h with
  | finished hconcerned hdone hkept =>
    refine ⟨Response.parse_encode ?_ ?_, nofun⟩
    · exact fun heq => Widget.wire_ne_null _ _ (Option.some.inj heq)
    · rintro v hv
      obtain rfl := Option.some.inj hv
      exact hreads _ (.finished hconcerned hdone hkept)
  | dismissed => exact ⟨Response.parse_encode nofun nofun, nofun⟩
  | abandoned => exact ⟨Response.parse_encode nofun nofun, nofun⟩
  | left => exact ⟨Response.parse_encode nofun nofun, nofun⟩
  | refused hreason =>
    refine ⟨Response.parse_encode nofun nofun, fun heq => ?_⟩
    exact reason_ne_nil hreason (Ending.refused.inj heq)

/-- The client tells from a reply what has become of the request. -/
theorem resultOf_eq_seen_iff {c : Client} {url : Url} (htarget : c.target = .ok url)
    {response : Response} (hreply : (ticket, response) ∈ replies (s.effectsAt moment))
    (hreads : ∀ v, s.Ends moment ticket (.finished v) → v.ReadsBack (Json.depthLimit - 1)) :
    c.resultOf (.ok (Control.reply 200 response)) = ending.seen ↔ s.Ends moment ticket ending := by
  obtain ⟨actual, hends, rfl⟩ := ends_of_reply hreply
  obtain ⟨hparse, hreason⟩ := hends.readable hreads
  rw [resultOf_response htarget hparse hreason]
  constructor
  · intro h
    rwa [← Ending.seen_injective h]
  · intro h
    rw [hends.unique h]

/-! ### Runs -/

/-- The moments at which a session can answer in a run: each event, after the ones before it, and
the end, after all. -/
def IsMoment (events past : List Event) : Option Event → Prop
  | some e => past ++ [e] <+: events
  | none => past = events

/-- What a session does to an event of a history, it does when that event comes. -/
theorem exists_moment_of_mem_effects {start : Hosted} {events : List Event} {effect : Effect}
    (h : effect ∈ effects start events) :
    ∃ past e, past ++ [e] <+: events ∧ effect ∈ (after start past).effectsAt (some e) := by
  induction events generalizing start with
  | nil => cases h
  | cons e events ih =>
    rw [effects_cons, List.mem_append] at h
    rcases h with h | h
    · exact ⟨[], e, ⟨events, rfl⟩, h⟩
    · obtain ⟨past, e', hprefix, hmem⟩ := ih h
      exact ⟨e :: past, e', List.cons_prefix_cons.mpr ⟨rfl, hprefix⟩, hmem⟩

/-- All that a run does, it does at one of its moments. -/
theorem exists_moment {start : Hosted} {events : List Event} {effect : Effect}
    (h : effect ∈ effects start events ++ (after start events).result.2) :
    ∃ past moment, IsMoment events past moment ∧ effect ∈ (after start past).effectsAt moment := by
  rcases List.mem_append.mp h with h | h
  · obtain ⟨past, e, hprefix, hmem⟩ := exists_moment_of_mem_effects h
    exact ⟨past, some e, hprefix, hmem⟩
  · exact ⟨events, none, rfl, h⟩

theorem mem_replies {effects : List Effect} {response : Response} :
    (ticket, response) ∈ replies effects ↔ Effect.reply ticket response ∈ effects := by
  rw [replies, List.mem_filterMap]
  constructor
  · rintro ⟨effect, heffect, heq⟩
    cases effect with
    | reply number response' =>
      cases heq
      exact heffect
    | _ => cases heq
  · exact fun h => ⟨_, h, rfl⟩

end Hosted

/-- **The requester sees the answer that the session gave.**  A reply is read as it was written,
provided that its result is read back and not `null`; and what a widget yields is read back, as
long as its numbers have 64 bits.  Whatever a session was told, all its replies are given when an
event comes or at the end.  There the request ends in just one way, and what the client makes of
the reply is a result, a dismissal, or a refusal with the session's reason if and only if the
widget was submitted with that result, was dismissed or abandoned, or was refused for that
reason. -/
theorem requester_sees_answer :
    (∀ r : Response, r.result ≠ some .null →
      (∀ v ∈ r.result, v.ReadsBack (Json.depthLimit - 1)) → Response.parse r.encode = .ok r) ∧
    (∀ (kind : Widget.Kind) (value : Widget.Value), value.Fits →
      (Widget.wire kind value).ReadsBack (Json.depthLimit - 1)) ∧
    ∀ (caption : Caption) (theme : Modal.Theme) (files : Files.Tree) (input : Writer)
      (events : List Event),
      let start := Hosted.make caption theme files input
      let s := after start events
      (∀ effect ∈ effects start events ++ s.result.2, ∃ past moment,
        Hosted.IsMoment events past moment ∧ effect ∈ (after start past).effectsAt moment) ∧
      ∀ (moment : Option Event) (ticket : Nat) (response : Response),
        Effect.reply ticket response ∈ s.effectsAt moment →
        (∀ v, s.Ends moment ticket (.finished v) → v.ReadsBack (Json.depthLimit - 1)) →
        (∃! ending, s.Ends moment ticket ending) ∧
        ∀ (c : Client) (url : Url), c.target = .ok url → ∀ ending,
          c.resultOf (.ok (Control.reply 200 response)) = ending.seen ↔
            s.Ends moment ticket ending := by
  refine ⟨fun r hnull hreads => Response.parse_encode hnull hreads,
    fun kind value hfits => (Widget.plain_wire kind hfits).readsBack.mono (by decide),
    fun caption theme files input events => ?_⟩
  intro start s
  refine ⟨fun effect heffect => Hosted.exists_moment heffect,
    fun moment ticket response hreply hreads => ?_⟩
  have hreplies := Hosted.mem_replies.mpr hreply
  obtain ⟨actual, hends, -⟩ := Hosted.ends_of_reply hreplies
  exact ⟨⟨actual, hends, fun other hother => hother.unique hends⟩,
    fun c url htarget ending => Hosted.resultOf_eq_seen_iff htarget hreplies hreads⟩

/-- A second question comes while the first one is shown, which is then answered with yes. -/
theorem requester_sees_answer_yes :
    let theme : Modal.Theme := ⟨⟨26, 26, 46⟩, ⟨124, 58, 237⟩, ⟨124, 58, 237⟩⟩
    let question (number : Nat) : Event := .requested
      { number, request := { component := "confirm".toList, options := .object [] } }
    let s := after (Hosted.make {} theme {} .working) [question 7]
    let agreed : Event := .key { code := .char 'y' }
    let yes : Json := Widget.one "confirmed" (.bool true)
    let reason : Text := "another component is active".toList
    let seen (response : Response) : Except Failure Json :=
      (Client.make "http://127.0.0.1:80".toList "token".toList).resultOf
        (.ok (Control.reply 200 response))
    Effect.reply 7 (.ofResult yes) ∈ s.effectsAt (some agreed) ∧
      seen (.ofResult yes) = .ok yes ∧
      Effect.reply 8 (.refused reason) ∈ s.effectsAt (some (question 8)) ∧
      seen (.refused reason) = .error (.because ("TUI error: ".toList ++ reason)) := by
  intro theme question s agreed yes reason seen
  have htarget : (Client.make "http://127.0.0.1:80".toList "token".toList).target = .ok
      { scheme := "http".toList, host := .number4 2130706433, path := "/tui".toList } := by
    decide
  have hreply : Effect.reply 7 (.ofResult yes) ∈ s.effectsAt (some agreed) := .head _
  have hreply' : Effect.reply 8 (.refused reason) ∈ s.effectsAt (some (question 8)) := .head _
  have hconcerned : s.concerned? agreed =
      some (s.told (.key { code := .char 'y' }) (s.shown.get rfl)) := rfl
  have hyes : s.Ends (some agreed) 7 (.finished yes) := .finished hconcerned rfl rfl
  have hrefused : s.Ends (some (question 8)) 8 (.refused reason) := .refused (by rfl)
  obtain ⟨-, hwire, hruns⟩ := requester_sees_answer
  obtain ⟨-, hreplies⟩ := hruns {} theme {} .working [question 7]
  obtain ⟨-, hseen⟩ := hreplies _ 7 _ hreply fun v hv => by
    obtain rfl := Ending.finished.inj (hv.unique hyes)
    exact hwire .confirm (.bool true) trivial
  obtain ⟨-, hseen'⟩ := hreplies _ 8 _ hreply' fun v hv => nomatch hv.unique hrefused
  exact ⟨hreply, (hseen _ _ htarget _).mpr hyes, hreply', (hseen' _ _ htarget _).mpr hrefused⟩

end Session
end TerminalDialogs
