import TerminalDialogs.Control.Server

/-!
# Handlers take turns

A handler keeps its turn from the look at the server's state to its answer, so
no two handlers have it (`Orderly.one_turn`).  A request that is pending has a
handler that waits for the reply and keeps the turn that long, with one
exception: a handler that finds the server stopped gives up and leaves its
request behind.  Then no other handler is past the look, and whoever looks later
finds the server stopped as well (`Orderly.attended`).

So a handler that is about to forward its request finds none pending
(`Orderly.not_pending_of_cleared`).

The steps of handlers are said once, in `Transition` and `advanceAt_cases`;
`giveUpAt` adds the race that a reply can lose: it comes when the handler has
waited in vain and is about to look at the server's state.
-/

namespace TerminalDialogs
namespace Control

/-- What becomes of a request that is settled; what is settled stays so. -/
def Fate.settle (old new : Fate) : Fate :=
  match old with
  | .pending => new
  | _ => old

/-! ## Lists that have grown by one -/

section Concat

variable {α : Type} {l : List α} {a b : α} {n : Nat}

theorem getElem?_concat_of_some (h : l[n]? = some b) (a : α) : (l ++ [a])[n]? = some b := by
  rw [List.getElem?_append_left (List.getElem?_eq_some_iff.mp h).1, h]

theorem getElem?_concat_cases (h : (l ++ [a])[n]? = some b) :
    l[n]? = some b ∨ n = l.length ∧ b = a := by
  rw [List.getElem?_append] at h
  split at h
  · exact Or.inl h
  · rw [List.getElem?_singleton] at h
    split at h
    · exact Or.inr ⟨by omega, (Option.some.inj h).symm⟩
    · cases h

end Concat

namespace Server

/-- What became of the request of a number, if it was forwarded. -/
def fate? (s : Server) (n : Nat) : Option Fate := (s.requests[n]?).map Prod.snd

/-- A handler gets to another place. -/
def put (s : Server) (i : Nat) (h : Handler) : Server := { s with handlers := s.handlers.set i h }

/-- A handler forwards its request. -/
def forward (s : Server) (i : Nat) (q : Request) : Server :=
  { s with
    handlers := s.handlers.set i (.forwarded s.requests.length)
    requests := s.requests ++ [(q, .pending)] }

/-- A handler that has waited in vain finds the server stopped, whatever comes
meanwhile. -/
def giveUpAt (s : Server) (i : Nat) : Server :=
  match s.handlers[i]? with
  | some (.forwarded _) => if s.state = .stopped then s.put i (.answered shuttingDown) else s
  | _ => s

/-- A request comes in, be the server about to stop or not. -/
def receive (s : Server) (r : Http.Request) : Server :=
  { s with handlers := s.handlers ++ [.arrived r] }

/-! ## The steps of handlers -/

/-- The steps of a handler that forward nothing. -/
inductive Transition (s : Server) : Handler → Handler → Prop where
  | routed {r : Http.Request} {q : Request} (h : route s.token r = .ok q) :
      Transition s (.arrived r) (.queued q)
  | turnedAway {r : Http.Request} {a : Http.Answer} (h : route s.token r = .error a) :
      Transition s (.arrived r) (.answered a)
  | chosen (q : Request) (hfree : s.isBusy = false) : Transition s (.queued q) (.chosen q)
  | cleared (q : Request) (hopen : s.state ≠ .stopped) : Transition s (.chosen q) (.cleared q)
  | late (q : Request) : Transition s (.chosen q) (.answered shuttingDown)
  | unheard (q : Request) : Transition s (.cleared q) (.answered shuttingDown)
  | replied {n : Nat} {response : Response} (h : s.fate? n = some (.replied response)) :
      Transition s (.forwarded n) (.answered (reply 200 response))
  | dropped {n : Nat} (h : s.fate? n = some .dropped) :
      Transition s (.forwarded n) (.answered shuttingDown)
  | gaveUp (n : Nat) (hstopped : s.state = .stopped) :
      Transition s (.forwarded n) (.answered shuttingDown)

variable {s : Server} {i : Nat} {h h' : Handler}

/-- Where the handlers are when one of them has moved. -/
theorem handlers_put (hi : s.handlers[i]? = some h) (h' : Handler) (j : Nat) :
    (s.put i h').handlers[j]? = if j = i then some h' else s.handlers[j]? := by
  have hlength : i < s.handlers.length := (List.getElem?_eq_some_iff.mp hi).1
  rw [put, List.getElem?_set]
  by_cases hj : j = i
  · rw [if_pos hj.symm, if_pos hlength, if_pos hj]
  · rw [if_neg (Ne.symm hj), if_neg hj]

theorem put_self (hi : s.handlers[i]? = some h) : s.put i h = s := by
  have hsame : s.handlers.set i h = s.handlers := by
    obtain ⟨hlength, rfl⟩ := List.getElem?_eq_some_iff.mp hi
    exact List.set_getElem_self hlength
  rw [put, hsame]

/-- **What a handler does next**: it waits, takes one of the steps that forward
nothing, or forwards its request. -/
theorem advanceAt_cases (s : Server) (i : Nat) :
    s.advanceAt i = s ∨
      (∃ h h', s.handlers[i]? = some h ∧ Transition s h h' ∧ s.advanceAt i = s.put i h') ∨
      ∃ q, s.handlers[i]? = some (.cleared q) ∧ s.advanceAt i = s.forward i q := by
  have hput {h h' : Handler} (hi : s.handlers[i]? = some h) (hnext : s.advance h = (h', [])) :
      s.advanceAt i = s.put i h' := by
    rw [advanceAt, hi]
    dsimp only
    rw [hnext, put]
    simp
  cases hi : s.handlers[i]? with
  | none =>
    left
    rw [advanceAt, hi]
  | some h =>
    have hstay (hnext : s.advance h = (h, [])) : s.advanceAt i = s :=
      (hput hi hnext).trans (put_self hi)
    have hstep {h' : Handler} (hnext : s.advance h = (h', [])) (ht : Transition s h h') :
        ∃ h₀ h₁, some h = some h₀ ∧ Transition s h₀ h₁ ∧ s.advanceAt i = s.put i h₁ :=
      ⟨h, h', rfl, ht, hput hi hnext⟩
    cases h with
    | arrived r =>
      right; left
      cases hroute : route s.token r with
      | ok q => exact hstep (by rw [advance, hroute]) (.routed hroute)
      | error a => exact hstep (by rw [advance, hroute]) (.turnedAway hroute)
    | queued q =>
      cases hbusy : s.isBusy with
      | true => exact Or.inl (hstay (by simp [advance, hbusy]))
      | false => exact Or.inr (Or.inl (hstep (by simp [advance, hbusy]) (.chosen q hbusy)))
    | chosen q =>
      right; left
      by_cases hstopped : s.state = .stopped
      · exact hstep (by simp [advance, hstopped]) (.late q)
      · exact hstep (by simp [advance, hstopped]) (.cleared q hstopped)
    | cleared q =>
      right
      cases hheard : s.isHeard with
      | true =>
        refine Or.inr ⟨q, rfl, ?_⟩
        rw [advanceAt, hi]
        dsimp only
        rw [advance, if_pos hheard]
        rfl
      | false => exact Or.inl (hstep (by simp [advance, hheard]) (.unheard q))
    | forwarded n =>
      cases hfate : s.fate? n with
      | none =>
        by_cases hstopped : s.state = .stopped
        · exact Or.inr (Or.inl (hstep (by rw [fate?] at hfate; simp [advance, hfate, hstopped])
            (.gaveUp n hstopped)))
        · exact Or.inl (hstay (by rw [fate?] at hfate; simp [advance, hfate, hstopped]))
      | some fate =>
        cases fate with
        | pending =>
          by_cases hstopped : s.state = .stopped
          · exact Or.inr (Or.inl (hstep (by rw [fate?] at hfate; simp [advance, hfate, hstopped])
              (.gaveUp n hstopped)))
          · exact Or.inl (hstay (by rw [fate?] at hfate; simp [advance, hfate, hstopped]))
        | replied response =>
          exact Or.inr (Or.inl (hstep (by rw [fate?] at hfate; simp [advance, hfate])
            (.replied hfate)))
        | dropped =>
          exact Or.inr (Or.inl (hstep (by rw [fate?] at hfate; simp [advance, hfate])
            (.dropped hfate)))
    | answered a => exact Or.inl (hstay rfl)

theorem giveUpAt_cases (s : Server) (i : Nat) :
    s.giveUpAt i = s ∨
      ∃ h h', s.handlers[i]? = some h ∧ Transition s h h' ∧ s.giveUpAt i = s.put i h' := by
  unfold giveUpAt
  split
  · next n hi =>
    by_cases hstopped : s.state = .stopped
    · rw [if_pos hstopped]
      exact Or.inr ⟨_, _, hi, .gaveUp n hstopped, rfl⟩
    · rw [if_neg hstopped]
      exact Or.inl rfl
  · exact Or.inl rfl

/-- Who has the turn after a step had it before, or nobody had it. -/
theorem Transition.turn (ht : Transition s h h') (hturn : h'.hasTurn = true) :
    h.hasTurn = true ∨ s.isBusy = false := by
  cases ht with
  | chosen q hfree => exact Or.inr hfree
  | cleared q hopen => exact Or.inl rfl
  | _ => cases hturn

theorem not_hasTurn_of_not_busy (hfree : s.isBusy = false) (hi : s.handlers[i]? = some h) :
    ¬ h.hasTurn = true := by
  intro hturn
  have hbusy : s.isBusy = true :=
    List.any_eq_true.mpr ⟨h, List.mem_of_getElem? hi, hturn⟩
  rw [hfree] at hbusy
  cases hbusy

/-! ## What became of requests -/

theorem fate?_put (s : Server) (i : Nat) (h : Handler) (n : Nat) :
    (s.put i h).fate? n = s.fate? n := rfl

theorem fate?_forward (s : Server) (i : Nat) (q : Request) (n : Nat) :
    (s.forward i q).fate? n = if n = s.requests.length then some .pending else s.fate? n := by
  rw [fate?, forward, fate?]
  by_cases hn : n = s.requests.length
  · rw [if_pos hn, hn, List.getElem?_concat_length]
    rfl
  · rw [if_neg hn]
    by_cases hlt : n < s.requests.length
    · rw [List.getElem?_append_left hlt]
    · have hlength : (s.requests ++ [(q, Fate.pending)]).length = s.requests.length + 1 :=
        List.length_append
      rw [List.getElem?_eq_none (l := s.requests ++ _) (by omega),
        List.getElem?_eq_none (l := s.requests) (by omega)]

/-- Only the request of that number is settled. -/
theorem fate?_settle (s : Server) (number : Nat) (fate : Fate) (n : Nat) :
    (s.settle number fate).fate? n =
      if n = number then (s.fate? n).map fun old => old.settle fate else s.fate? n := by
  unfold fate? settle
  rw [List.getElem?_modify]
  by_cases hn : n = number
  · rw [if_pos hn]
    cases s.requests[n]? with
    | none => rfl
    | some r =>
      obtain ⟨q, old⟩ := r
      cases old <;> simp [hn, Fate.settle]
  · rw [if_neg hn]
    cases s.requests[n]? <;> simp [Ne.symm hn]

/-- Settling makes no request pending. -/
theorem pending_of_settle {number : Nat} {fate : Fate} (hfate : fate ≠ .pending) {n : Nat}
    (h : (s.settle number fate).fate? n = some .pending) :
    n ≠ number ∧ s.fate? n = some .pending := by
  rw [fate?_settle] at h
  split at h
  · obtain ⟨old, -, hold⟩ := Option.map_eq_some_iff.mp h
    cases old <;> cases hold
    exact absurd rfl hfate
  · next hn => exact ⟨hn, h⟩

/-- What is found in one place only is found once. -/
theorem length_filterMap_le {α β : Type} {f : α → Option β} {l : List α}
    (hone : ∀ (i j : Nat) (a b : α), l[i]? = some a → l[j]? = some b → (f a).isSome →
      (f b).isSome → i = j) : (l.filterMap f).length ≤ 1 := by
  induction l with
  | nil => exact Nat.zero_le _
  | cons a l ih =>
    cases ha : f a with
    | none =>
      rw [List.filterMap_cons_none ha]
      exact ih fun i j b c hi hj hb hc => Nat.succ.inj (hone (i + 1) (j + 1) b c hi hj hb hc)
    | some b =>
      have hnone : l.filterMap f = [] := by
        rw [List.filterMap_eq_nil_iff]
        intro c hc
        obtain ⟨j, hj⟩ := List.mem_iff_getElem?.mp hc
        rw [← Option.not_isSome_iff_eq_none]
        intro hsome
        exact Nat.succ_ne_zero j (hone 0 (j + 1) a c rfl hj (by rw [ha]; rfl) hsome).symm
      rw [List.filterMap_cons_some ha, hnone]
      exact Nat.le_refl 1

/-- Requests of which only one can be pending are not more than one. -/
theorem length_pending_le (hone : ∀ n m, s.fate? n = some .pending → s.fate? m = some .pending →
    n = m) : s.pending.length ≤ 1 := by
  refine length_filterMap_le fun i j a b hi hj ha hb => hone i j ?_ ?_
  · obtain ⟨q, fate⟩ := a
    cases fate <;> first | cases ha; done | rw [fate?, hi]; rfl
  · obtain ⟨q, fate⟩ := b
    cases fate <;> first | cases hb; done | rw [fate?, hj]; rfl

/-! ## The invariant -/

/-- What holds of every server that handlers can come to. -/
structure Orderly (s : Server) : Prop where
  one_turn : ∀ {i j : Nat} {h k : Handler}, s.handlers[i]? = some h → s.handlers[j]? = some k →
    h.hasTurn = true → k.hasTurn = true → i = j
  /-- Somebody waits for the reply to a request that is pending; or its handler
  has given up, and no other handler will forward its request any more. -/
  attended : ∀ {n : Nat}, s.fate? n = some .pending →
    (∃ i : Nat, s.handlers[i]? = some (.forwarded n)) ∨
      s.state = .stopped ∧ ∀ (i : Nat) (q : Request), s.handlers[i]? ≠ some (.cleared q)

namespace Orderly

/-- **A handler forwards into silence**: no request is pending. -/
theorem not_pending_of_cleared (hs : s.Orderly) {q : Request}
    (hi : s.handlers[i]? = some (.cleared q)) (n : Nat) : s.fate? n ≠ some .pending := by
  intro hpending
  rcases hs.attended hpending with ⟨j, hj⟩ | ⟨-, hnone⟩
  · have hsame : i = j := hs.one_turn hi hj rfl rfl
    rw [hsame, hj] at hi
    cases hi
  · exact hnone i q hi

/-- Whoever keeps the turn or takes it when nobody has it is the only one. -/
theorem one_turn_put (hs : s.Orderly) (hi : s.handlers[i]? = some h)
    (hturn : h'.hasTurn = true → h.hasTurn = true ∨ s.isBusy = false) {j k : Nat}
    {hj hk : Handler} (hat : (s.put i h').handlers[j]? = some hj)
    (hat' : (s.put i h').handlers[k]? = some hk) (hturnj : hj.hasTurn = true)
    (hturnk : hk.hasTurn = true) : j = k := by
  rw [handlers_put hi] at hat hat'
  have hother {m : Nat} {hm : Handler} (hm' : s.handlers[m]? = some hm) (htm : hm.hasTurn = true)
      (ht : h'.hasTurn = true) : i = m := by
    rcases hturn ht with hbefore | hfree
    · exact hs.one_turn hi hm' hbefore htm
    · exact absurd htm (not_hasTurn_of_not_busy hfree hm')
  by_cases hji : j = i
  · rw [if_pos hji] at hat
    cases hat
    by_cases hki : k = i
    · rw [hji, hki]
    · rw [if_neg hki] at hat'
      exact hji.trans (hother hat' hturnk hturnj)
  · rw [if_neg hji] at hat
    by_cases hki : k = i
    · rw [if_pos hki] at hat'
      cases hat'
      exact (hother hat hturnj hturnk).symm.trans hki.symm
    · rw [if_neg hki] at hat'
      exact hs.one_turn hat hat' hturnj hturnk

/-- A step that forwards nothing. -/
theorem put (hs : s.Orderly) (hi : s.handlers[i]? = some h) (ht : Transition s h h') :
    (s.put i h').Orderly where
  one_turn := hs.one_turn_put hi ht.turn
  attended {n} hpending := by
    rw [fate?_put] at hpending
    -- after the step, too, nobody is cleared who was not
    have hcleared {j : Nat} {q : Request} (hj : (s.put i h').handlers[j]? = some (.cleared q)) :
        s.state ≠ .stopped ∨ j ≠ i ∧ s.handlers[j]? = some (.cleared q) := by
      rw [handlers_put hi] at hj
      by_cases hji : j = i
      · rw [if_pos hji] at hj
        cases hj
        cases ht with
        | cleared q hopen => exact Or.inl hopen
      · rw [if_neg hji] at hj
        exact Or.inr ⟨hji, hj⟩
    rcases hs.attended hpending with ⟨j, hj⟩ | ⟨hstopped, hnone⟩
    · by_cases hji : j = i
      · -- the handler that waited has moved, so it has given up
        rw [hji, hi] at hj
        cases hj
        cases ht with
        | replied hfate => rw [hpending] at hfate; cases hfate
        | dropped hfate => rw [hpending] at hfate; cases hfate
        | gaveUp n hstopped =>
          refine Or.inr ⟨hstopped, fun k q hk => ?_⟩
          rcases hcleared hk with hopen | ⟨hki, hk'⟩
          · exact hopen hstopped
          · exact hki (hs.one_turn hk' hi rfl rfl)
      · refine Or.inl ⟨j, ?_⟩
        rw [handlers_put hi, if_neg hji]
        exact hj
    · refine Or.inr ⟨hstopped, fun k q hk => ?_⟩
      rcases hcleared hk with hopen | ⟨-, hk'⟩
      · exact hopen hstopped
      · exact hnone k q hk'

/-- A request is forwarded. -/
theorem forward (hs : s.Orderly) {q : Request} (hi : s.handlers[i]? = some (.cleared q)) :
    (s.forward i q).Orderly where
  one_turn hj hk hturnj hturnk := by
    have hkeeps : Handler.hasTurn (.forwarded s.requests.length) = true →
        Handler.hasTurn (.cleared q) = true ∨ s.isBusy = false := fun _ => Or.inl rfl
    exact hs.one_turn_put hi hkeeps hj hk hturnj hturnk
  attended {n} hpending := by
    rw [fate?_forward] at hpending
    by_cases hn : n = s.requests.length
    · refine Or.inl ⟨i, ?_⟩
      rw [hn]
      exact (handlers_put hi _ i).trans (if_pos rfl)
    · rw [if_neg hn] at hpending
      exact absurd hpending (hs.not_pending_of_cleared hi n)

/-- What leaves the handlers alone and makes no request pending. -/
theorem of_handlers_eq {s' : Server} (hs : s.Orderly) (hhandlers : s'.handlers = s.handlers)
    (hstopped : s.state = .stopped → s'.state = .stopped)
    (hpending : ∀ n, s'.fate? n = some .pending → s.fate? n = some .pending) : s'.Orderly where
  one_turn hi hj := by
    rw [hhandlers] at hi hj
    exact hs.one_turn hi hj
  attended {n} hn := by
    rw [hhandlers]
    exact (hs.attended (hpending n hn)).imp id fun h => ⟨hstopped h.1, h.2⟩

theorem settle (hs : s.Orderly) (number : Nat) {fate : Fate} (hfate : fate ≠ .pending) :
    (s.settle number fate).Orderly :=
  hs.of_handlers_eq rfl id fun _ hn => (pending_of_settle hfate hn).2

theorem receive (hs : s.Orderly) (r : Http.Request) : (s.receive r).Orderly := by
  have hold {j : Nat} {k : Handler} (hj : (s.receive r).handlers[j]? = some k)
      (hk : k ≠ .arrived r) : s.handlers[j]? = some k :=
    (getElem?_concat_cases hj).resolve_right fun hnew => hk hnew.2
  constructor
  · intro i j h k hi hj hturn hturn'
    refine hs.one_turn (hold hi ?_) (hold hj ?_) hturn hturn'
    · rintro rfl
      cases hturn
    · rintro rfl
      cases hturn'
  · intro n hn
    rcases hs.attended hn with ⟨i, hi⟩ | ⟨hstopped, hnone⟩
    · exact Or.inl ⟨i, getElem?_concat_of_some hi _⟩
    · exact Or.inr ⟨hstopped, fun i q hi => hnone i q (hold hi Handler.noConfusion)⟩

end Orderly

end Server
end Control
end TerminalDialogs
