import TerminalDialogs.Styled.Token

/-!
# Reading tokens from left to right

`scan` yields all tokens of a text at once.  Here the same machine is read one
character at a time: `Scan.read` gives the tokens that a character completes and
the state after it, and `scan_eq_readAll` says that `scan` is that reading
followed by what its last state leaves unfinished.  Reading a concatenation is
then reading one part after the other (`readAll_append`).

## Which states and tokens occur

A state holds the characters of the sequence that it is inside of, and it is
*sound* when those characters lead to it again.  Only sound states occur in the
reading of a text, and the tokens completed on the way are *complete*: each is
what its own characters are read as, with nothing left over.  This is the form
in which the absence of complete proper beginnings is used.  Complete tokens can
be left out, repeated and put in another order, and the text that they spell is
still cut into exactly those tokens (`tokens_spell`).
-/

namespace TerminalDialogs
namespace Styled

namespace Scan

/-- One character: the tokens it completes and the state after it. -/
def read : Scan → Char → List Token × Scan
  | none, c => if c = esc then ([], some (.bare, [esc])) else ([.char c], none)
  | some (opening, seen), c =>
      match opening.next c with
      | none => ([.escape (c :: seen).reverse], none)
      | some opening => ([], some (opening, c :: seen))

/-- Reads characters one after the other. -/
def readAll : Scan → Text → List Token × Scan
  | state, [] => ([], state)
  | state, c :: s =>
      let now := read state c
      let later := readAll now.2 s
      (now.1 ++ later.1, later.2)

/-- The characters of the sequence that the state is inside of. -/
def pending : Scan → Text
  | none => []
  | some (_, seen) => seen.reverse

/-- What the end of the text makes of the state. -/
def tail : Scan → List Token
  | none => []
  | some (_, seen) => [.unfinished seen.reverse]

@[simp] theorem pending_none : pending none = [] := rfl

@[simp] theorem tail_none : tail none = [] := rfl

@[simp] theorem readAll_nil (state : Scan) : readAll state [] = ([], state) := rfl

theorem readAll_cons (state : Scan) (c : Char) (s : Text) :
    readAll state (c :: s) =
      ((read state c).1 ++ (readAll (read state c).2 s).1, (readAll (read state c).2 s).2) :=
  rfl

theorem readAll_singleton (state : Scan) (c : Char) : readAll state [c] = read state c := by
  rw [readAll_cons, readAll_nil, List.append_nil]

theorem readAll_append (state : Scan) (a b : Text) :
    readAll state (a ++ b) =
      ((readAll state a).1 ++ (readAll (readAll state a).2 b).1,
        (readAll (readAll state a).2 b).2) := by
  induction a generalizing state with
  | nil => rfl
  | cons c a ih => rw [List.cons_append, readAll_cons, ih, readAll_cons, List.append_assoc]

end Scan

/-- Scanning is reading, and what the last state leaves unfinished. -/
theorem scan_eq_readAll (state : Scan) (s : Text) :
    scan state s = (state.readAll s).1 ++ (state.readAll s).2.tail := by
  induction s generalizing state with
  | nil =>
    rcases state with _ | ⟨opening, seen⟩
    · rfl
    · rfl
  | cons c s ih =>
    rw [Scan.readAll_cons]
    rcases state with _ | ⟨opening, seen⟩
    · by_cases hc : c = esc
      · rw [scan, if_pos hc, ih, Scan.read, if_pos hc, List.nil_append]
      · rw [scan, if_neg hc, ih, Scan.read, if_neg hc]
        rfl
    · rw [scan, Scan.read]
      cases opening.next c with
      | none =>
        dsimp only
        rw [ih]
        rfl
      | some opening' =>
        dsimp only
        rw [ih, List.nil_append]

theorem tokens_eq_readAll (s : Text) :
    tokens s = (Scan.readAll none s).1 ++ (Scan.readAll none s).2.tail :=
  scan_eq_readAll none s

@[simp] theorem spell_tail (state : Scan) : spell state.tail = state.pending := by
  rcases state with _ | ⟨opening, seen⟩
  · rfl
  · exact List.append_nil _

/-- Nothing is lost: what was read stands in the tokens and in the state. -/
theorem spell_readAll (state : Scan) (s : Text) :
    spell (state.readAll s).1 ++ (state.readAll s).2.pending = state.pending ++ s := by
  rw [← spell_tail, ← spell_append, ← scan_eq_readAll, spell_scan]
  rcases state with _ | ⟨opening, seen⟩
  · rfl
  · rfl

/-- A character completes no unfinished token. -/
theorem isUnfinished_eq_false_of_mem_read {state : Scan} {c : Char} {t : Token}
    (ht : t ∈ (state.read c).1) : t.isUnfinished = false := by
  rcases state with _ | ⟨opening, seen⟩
  · by_cases hc : c = esc
    · rw [Scan.read, if_pos hc] at ht
      exact absurd ht List.not_mem_nil
    · rw [Scan.read, if_neg hc] at ht
      rw [List.mem_singleton.mp ht]
      rfl
  · rw [Scan.read] at ht
    cases hnext : opening.next c with
    | none =>
      rw [hnext] at ht
      rw [List.mem_singleton.mp ht]
      rfl
    | some opening' =>
      rw [hnext] at ht
      exact absurd ht List.not_mem_nil

theorem isUnfinished_eq_false_of_mem_readAll {state : Scan} {s : Text} {t : Token}
    (ht : t ∈ (state.readAll s).1) : t.isUnfinished = false := by
  induction s generalizing state with
  | nil => exact absurd ht List.not_mem_nil
  | cons c s ih =>
    rw [Scan.readAll_cons, List.mem_append] at ht
    rcases ht with ht | ht
    · exact isUnfinished_eq_false_of_mem_read ht
    · exact ih ht

/-- Only the end of the text leaves a token unfinished. -/
theorem isUnfinished_of_mem_tail {state : Scan} {t : Token} (ht : t ∈ state.tail) :
    t.isUnfinished = true := by
  rcases state with _ | ⟨opening, seen⟩
  · exact absurd ht List.not_mem_nil
  · rw [List.mem_singleton.mp ht]
    rfl

/-! ## Sound states and complete tokens -/

/-- The state is the one that its own characters lead to. -/
def Scan.Sound (state : Scan) : Prop := Scan.readAll none state.pending = ([], state)

/-- The characters of the token are read as this token and nothing else. -/
def Token.Complete (t : Token) : Prop := Scan.readAll none t.text = ([t], none)

theorem Scan.sound_none : Scan.Sound none := rfl

/-- A visible character other than ESC is complete. -/
theorem Token.complete_char {c : Char} (hc : c ≠ esc) : (Token.char c).Complete := by
  show Scan.readAll none [c] = _
  rw [Scan.readAll_singleton, Scan.read, if_neg hc]

theorem Token.Complete.isUnfinished_eq_false {t : Token} (h : t.Complete) :
    t.isUnfinished = false := by
  have hmem : t ∈ (Scan.readAll none t.text).1 := by
    rw [show Scan.readAll none t.text = _ from h]
    exact List.mem_singleton_self t
  exact isUnfinished_eq_false_of_mem_readAll hmem

/-- **One character keeps the state sound and completes complete tokens only.**
The characters of a sound state, followed by the new one, are read to where the
new one leads; so what they spell is a token exactly when the machine is done. -/
theorem read_of_sound {state : Scan} (h : state.Sound) (c : Char) :
    Scan.Sound (state.read c).2 ∧ ∀ t ∈ (state.read c).1, t.Complete := by
  rcases state with _ | ⟨opening, seen⟩
  · by_cases hc : c = esc
    · rw [Scan.read, if_pos hc]
      exact ⟨rfl, fun t ht => absurd ht List.not_mem_nil⟩
    · rw [Scan.read, if_neg hc]
      refine ⟨rfl, fun t ht => ?_⟩
      rw [List.mem_singleton.mp ht]
      exact Token.complete_char hc
  · have hread : Scan.readAll none (c :: seen).reverse = Scan.read (some (opening, seen)) c := by
      rw [List.reverse_cons, Scan.readAll_append,
        show Scan.readAll none seen.reverse = _ from h, Scan.readAll_singleton]
      rfl
    rw [Scan.read] at hread ⊢
    cases hnext : opening.next c with
    | none =>
      rw [hnext] at hread
      refine ⟨rfl, fun t ht => ?_⟩
      rw [List.mem_singleton.mp ht]
      exact hread
    | some opening' =>
      rw [hnext] at hread
      exact ⟨hread, fun t ht => absurd ht List.not_mem_nil⟩

theorem readAll_of_sound {state : Scan} (h : state.Sound) (s : Text) :
    Scan.Sound (state.readAll s).2 ∧ ∀ t ∈ (state.readAll s).1, t.Complete := by
  induction s generalizing state with
  | nil => exact ⟨h, fun t ht => absurd ht List.not_mem_nil⟩
  | cons c s ih =>
    obtain ⟨hsound, hnow⟩ := read_of_sound h c
    obtain ⟨hend, hlater⟩ := ih hsound
    rw [Scan.readAll_cons]
    refine ⟨hend, fun t ht => ?_⟩
    rcases List.mem_append.mp ht with ht | ht
    · exact hnow t ht
    · exact hlater t ht

/-- Every token of a text is complete unless the end cuts it off. -/
theorem complete_of_mem_tokens {s : Text} {t : Token} (ht : t ∈ tokens s)
    (hfin : t.isUnfinished = false) : t.Complete := by
  rw [tokens_eq_readAll, List.mem_append] at ht
  rcases ht with ht | ht
  · exact (readAll_of_sound Scan.sound_none s).2 t ht
  · exact absurd (isUnfinished_of_mem_tail ht) (by simp [hfin])

/-! ## What the characters of a state look like -/

/-- The characters of the state begin as its kind of sequence does, and a
command knows whether the last of them is ESC. -/
def Scan.Shaped : Scan → Prop
  | none => True
  | some (.bare, seen) => seen.reverse = [esc]
  | some (.control, seen) => ∃ body, seen.reverse = esc :: '[' :: body
  | some (.command afterEsc, seen) =>
      (∃ body, seen.reverse = esc :: ']' :: body) ∧
        afterEsc = (seen.reverse.getLast? == some esc)

theorem read_shaped {state : Scan} (h : state.Shaped) (c : Char) :
    Scan.Shaped (state.read c).2 := by
  rcases state with _ | ⟨opening, seen⟩
  · by_cases hc : c = esc
    · rw [Scan.read, if_pos hc]
      rfl
    · rw [Scan.read, if_neg hc]
      trivial
  · rw [Scan.read]
    rcases opening with _ | _ | afterEsc
    · rw [Opening.next]
      have hseen : seen.reverse = [esc] := h
      by_cases hbracket : c = '['
      · rw [if_pos hbracket]
        exact ⟨[], by rw [List.reverse_cons, hseen, hbracket]; rfl⟩
      by_cases hcommand : c = ']'
      · rw [if_neg hbracket, if_pos hcommand]
        refine ⟨⟨[], by rw [List.reverse_cons, hseen, hcommand]; rfl⟩, ?_⟩
        rw [List.reverse_cons, List.getLast?_concat, hcommand]
        decide
      · rw [if_neg hbracket, if_neg hcommand]
        trivial
    · obtain ⟨body, hseen⟩ := h
      rw [Opening.next]
      by_cases hfinal : isFinal c = true
      · rw [if_pos hfinal]
        trivial
      · rw [if_neg hfinal]
        exact ⟨body ++ [c], by rw [List.reverse_cons, hseen]; rfl⟩
    · obtain ⟨⟨body, hseen⟩, -⟩ := h
      rw [Opening.next]
      by_cases hend : c = bel ∨ (afterEsc = true ∧ c = '\\')
      · rw [if_pos hend]
        trivial
      · rw [if_neg hend]
        refine ⟨⟨body ++ [c], by rw [List.reverse_cons, hseen]; rfl⟩, ?_⟩
        rw [List.reverse_cons, List.getLast?_concat]
        rfl

theorem readAll_shaped {state : Scan} (h : state.Shaped) (s : Text) :
    Scan.Shaped (state.readAll s).2 := by
  induction s generalizing state with
  | nil => exact h
  | cons c s ih => exact ih (read_shaped h c)

theorem Scan.Sound.shaped {state : Scan} (h : state.Sound) : state.Shaped := by
  have hshaped := readAll_shaped (show Scan.Shaped none from trivial) state.pending
  rwa [show Scan.readAll none state.pending = _ from h] at hshaped

/-! ## Texts that complete tokens spell -/

theorem readAll_spell {ts : List Token} (h : ∀ t ∈ ts, t.Complete) :
    Scan.readAll none (spell ts) = (ts, none) := by
  induction ts with
  | nil => rfl
  | cons t ts ih =>
    have ht : Scan.readAll none t.text = ([t], none) := h t List.mem_cons_self
    rw [spell_cons, Scan.readAll_append, ht, ih fun u hu => h u (List.mem_cons_of_mem t hu)]
    rfl

/-- **Complete tokens are read back from the text that they spell.** -/
theorem tokens_spell {ts : List Token} (h : ∀ t ∈ ts, t.Complete) : tokens (spell ts) = ts := by
  rw [tokens_eq_readAll, readAll_spell h, Scan.tail_none, List.append_nil]

end Styled
end TerminalDialogs
