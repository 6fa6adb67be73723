import TerminalDialogs.Proofs.Styled.Scan
import TerminalDialogs.Proofs.Text.Utf8
import TerminalDialogs.Styled.Stream

/-!
# Swallowed sequences

A sequence that has become too long to be held back is given up, and from then
on its bytes are swallowed until it ends.  The reference for this is a reader
that never gives anything up.  It decodes bytes and cuts the characters into
tokens, both one at a time, so where it stands between two bytes is a state of
the decoder and a state of the scanner (`Place`).

A stream that swallows a sequence follows the reader inside it (`Tracks`).  It
looks at bytes and not at characters, which is enough because nothing but the
byte of a character below `0x80` yields that character.  So it finds the end
where the reader finds it (`Tracks.run`).
-/

namespace TerminalDialogs
namespace Styled

open Utf8 (encode)

/-- Whether a sequence is a control sequence. -/
def isControl (sequence : Text) : Bool := [esc, '['].isPrefixOf sequence

/-! ## Reading bytes as tokens -/

/-- Where the reading of bytes stands. -/
structure Place where
  /-- The sequence that the reading is inside of. -/
  scan : Scan
  /-- The character that the reading is inside of. -/
  state : Utf8.State

namespace Place

/-- Between characters and between sequences. -/
def start : Place := ⟨none, none⟩

/-- The tokens that bytes complete, and the place after them. -/
def readAll (p : Place) (bytes : List UInt8) : List Token × Place :=
  let decoded := Utf8.feedAll p.state bytes
  let read := p.scan.readAll decoded.1
  (read.1, ⟨read.2, decoded.2⟩)

/-- The bytes of the sequence and the character that the reading is inside of. -/
def held (p : Place) : List UInt8 := encode p.scan.pending ++ Utf8.State.bytes p.state

/-- A place that occurs in the reading of bytes. -/
structure Sound (p : Place) : Prop where
  scan : p.scan.Sound
  state : p.state.Sound

theorem sound_start : start.Sound := ⟨Scan.sound_none, Utf8.State.sound_none⟩

theorem readAll_append (p : Place) (a b : List UInt8) :
    p.readAll (a ++ b) =
      ((p.readAll a).1 ++ ((p.readAll a).2.readAll b).1, ((p.readAll a).2.readAll b).2) := by
  simp only [readAll, Utf8.feedAll_append, Scan.readAll_append]

/-- Nothing is lost: what was decoded stands in the tokens and in the place. -/
theorem spell_readAll (p : Place) (bytes : List UInt8) :
    spell (p.readAll bytes).1 ++ (p.readAll bytes).2.scan.pending =
      p.scan.pending ++ (Utf8.feedAll p.state bytes).1 :=
  Styled.spell_readAll p.scan _

theorem Sound.readAll {p : Place} (h : p.Sound) (bytes : List UInt8) :
    (p.readAll bytes).2.Sound :=
  ⟨(readAll_of_sound h.scan _).1, Utf8.feedAll_sound h.state bytes⟩

/-- The characters of the place and the character that has begun, from the bytes
that a stream holds back. -/
theorem feedAll_held {p : Place} (h : p.Sound) :
    Utf8.feedAll none p.held = (p.scan.pending, p.state) := by
  rw [held, Utf8.feedAll_append, Utf8.feedAll_encode, Utf8.feedAll_bytes h.state,
    List.append_nil]

/-- **Reading the bytes of a place leads to it**, and completes nothing. -/
theorem readAll_held {p : Place} (h : p.Sound) : start.readAll p.held = ([], p) := by
  simp only [readAll, start, feedAll_held h, show Scan.readAll none p.scan.pending = _ from h.scan]

end Place

/-! ## Swallowing

A sequence that was given up is followed byte by byte. -/

/-- The swallowed sequence is the one that the reading is inside of.  A byte that
waits for its character stands between ESC and what follows. -/
inductive Tracks : Swallow → Place → Prop where
  | control (seen : Text) (state : Utf8.State) : Tracks .control ⟨some (.control, seen), state⟩
  | command (afterEsc : Bool) (seen : Text) (state : Utf8.State) :
      Tracks (.command (afterEsc && state.isNone)) ⟨some (.command afterEsc, seen), state⟩

theorem isFinal_iff {c : Char} : isFinal c = true ↔ 0x40 ≤ c.toNat ∧ c.toNat ≤ 0x7E := by
  rw [isFinal, Bool.and_eq_true, decide_eq_true_iff, decide_eq_true_iff, Char.le_def, Char.le_def,
    UInt32.le_iff_toNat_le, UInt32.le_iff_toNat_le]
  rfl

/-- Characters from `0x80` on end no control sequence. -/
theorem readAll_control_of_high (seen : Text) {s : Text} (h : ∀ c ∈ s, 0x80 ≤ c.toNat) :
    Scan.readAll (some (.control, seen)) s = ([], some (.control, s.reverse ++ seen)) := by
  induction s generalizing seen with
  | nil => rfl
  | cons c s ih =>
    have hc := h c List.mem_cons_self
    have hfinal : ¬ isFinal c = true := fun hf => by
      have := (isFinal_iff.mp hf).2
      omega
    rw [Scan.readAll_cons, Scan.read, Opening.next, if_neg hfinal]
    dsimp only
    rw [ih _ fun d hd => h d (List.mem_cons_of_mem c hd), List.reverse_cons, List.append_assoc]
    rfl

/-- Characters from `0x80` on end no command, and none of them is ESC. -/
theorem readAll_command_of_high (afterEsc : Bool) (seen : Text) {s : Text}
    (h : ∀ c ∈ s, 0x80 ≤ c.toNat) :
    Scan.readAll (some (.command afterEsc, seen)) s =
      ([], some (.command (afterEsc && s.isEmpty), s.reverse ++ seen)) := by
  induction s generalizing afterEsc seen with
  | nil => rw [List.isEmpty_nil, Bool.and_true]; rfl
  | cons c s ih =>
    have hc := h c List.mem_cons_self
    have hne : ∀ d : Char, d.toNat < 0x80 → c ≠ d := fun d hd hcd => by
      rw [hcd] at hc
      omega
    have hend : ¬ (c = bel ∨ (afterEsc = true ∧ c = '\\')) := by
      rintro (hb | ⟨-, hb⟩)
      · exact hne bel (by decide) hb
      · exact hne '\\' (by decide) hb
    rw [Scan.readAll_cons, Scan.read, Opening.next, if_neg hend]
    dsimp only
    rw [ih _ _ fun d hd => h d (List.mem_cons_of_mem c hd), List.reverse_cons, List.append_assoc,
      decide_eq_false (hne esc (by decide)), Bool.false_and, List.isEmpty_cons, Bool.and_false]
    rfl

theorem flush_high (state : Utf8.State) : ∀ c ∈ state.flush, 0x80 ≤ c.toNat := by
  intro c hc
  rcases state with _ | s
  · exact absurd hc List.not_mem_nil
  · rw [List.mem_singleton.mp hc]
    decide

/-- The opening of the swallowed sequence. -/
def Swallow.opening : Swallow → Opening
  | .control => .control
  | .command afterEsc => .command afterEsc

/-- A byte below `0x80` does to a swallowed sequence what its character does to
a sequence that is read. -/
theorem Swallow.map_opening_next (swallow : Swallow) {b : UInt8} (hb : b.toNat < 0x80) :
    (swallow.next b).map Swallow.opening = swallow.opening.next (Char.ofNat b.toNat) := by
  have hnat : (Char.ofNat b.toNat).toNat = b.toNat := Utf8.toNat_ofNat (Or.inl (by omega))
  have heq : ∀ c : Char, Char.ofNat b.toNat = c ↔ b.toNat = c.toNat := fun c =>
    ⟨fun h => by rw [← h, hnat], fun h => by rw [h, Char.ofNat_toNat]⟩
  have hbyte : ∀ d : UInt8, (b == d) = decide (b.toNat = d.toNat) := fun d => by
    rw [Bool.eq_iff_iff, beq_iff_eq, decide_eq_true_iff, UInt8.toNat_inj]
  rcases swallow with _ | afterEsc
  · have hfinal : isFinal (Char.ofNat b.toNat) = (0x40 ≤ b && b ≤ 0x7e : Bool) := by
      rw [Bool.eq_iff_iff, isFinal_iff, hnat, Bool.and_eq_true, decide_eq_true_iff,
        decide_eq_true_iff, UInt8.le_iff_toNat_le, UInt8.le_iff_toNat_le]
      rfl
    rw [Swallow.next, Swallow.opening, Opening.next, hfinal]
    simp only [Bool.and_eq_true, decide_eq_true_iff]
    split
    · rfl
    · rfl
  · rw [Swallow.next, Swallow.opening, Opening.next]
    simp only [heq, hbyte, Bool.or_eq_true, Bool.and_eq_true, decide_eq_true_iff]
    split
    · next h => rw [if_pos (by exact h)]; rfl
    · next h => rw [if_neg (by exact h)]; rfl

/-- No other byte ends a swallowed sequence, and none of them is ESC. -/
theorem Swallow.next_of_high {b : UInt8} (hb : 0x80 ≤ b.toNat) (afterEsc : Bool) :
    Swallow.next .control b = some .control ∧
      Swallow.next (.command afterEsc) b = some (.command false) := by
  have hne : ∀ d : UInt8, d.toNat < 0x80 → (b == d) = false := fun d hd => by
    rw [beq_eq_false_iff_ne]
    rintro rfl
    omega
  have hle : ¬ b ≤ 0x7e := fun h => by
    have h' : b.toNat ≤ 0x7E := UInt8.le_iff_toNat_le.mp h
    omega
  constructor
  · rw [Swallow.next, if_neg fun h => ?_]
    exact hle (by simpa using (Bool.and_eq_true_iff.mp h).2)
  · rw [Swallow.next, hne 0x07 (by decide), hne 0x5c (by decide), hne 0x1b (by decide),
      Bool.and_false]
    rfl

/-- What had begun is no end: with its replacement character the reader is still
inside the swallowed sequence. -/
theorem Tracks.readAll_flush {swallow : Swallow} {p : Place} (h : Tracks swallow p) :
    ∃ seen, p.scan.readAll p.state.flush = ([], some (swallow.opening, seen)) := by
  cases h with
  | control seen state => exact ⟨_, readAll_control_of_high seen (flush_high state)⟩
  | command afterEsc seen state =>
    refine ⟨state.flush.reverse ++ seen, ?_⟩
    rw [readAll_command_of_high afterEsc seen (flush_high state), Swallow.opening]
    rcases state with _ | s
    · rfl
    · rfl

theorem tracks_opening (swallow : Swallow) (seen : Text) :
    Tracks swallow ⟨some (swallow.opening, seen), none⟩ := by
  rcases swallow with _ | afterEsc
  · exact Tracks.control seen none
  · have htracks := Tracks.command afterEsc seen none
    rwa [Option.isNone_none, Bool.and_true] at htracks

/-- **A swallowed byte.**  The stream ends the sequence with the byte with which
the reader ends it, and otherwise follows the reader inside it. -/
theorem Tracks.next {swallow : Swallow} {p : Place} (h : Tracks swallow p) (hp : p.Sound)
    (b : UInt8) :
    match swallow.next b with
    | some swallow' => (p.readAll [b]).1 = [] ∧ Tracks swallow' (p.readAll [b]).2
    | none => ∃ sequence, p.readAll [b] = ([.escape sequence], Place.start) := by
  rcases Nat.lt_or_ge b.toNat 0x80 with hb | hb
  · obtain ⟨seen, hflush⟩ := h.readAll_flush
    have hread : p.readAll [b] =
        ((Scan.read (some (swallow.opening, seen)) (Char.ofNat b.toNat)).1,
          ⟨(Scan.read (some (swallow.opening, seen)) (Char.ofNat b.toNat)).2, none⟩) := by
      simp only [Place.readAll, Utf8.feedAll_singleton, Utf8.feed_of_ascii hp.state hb,
        Scan.readAll_append, hflush, Scan.readAll_singleton, List.nil_append]
    have hnext := swallow.map_opening_next hb
    rw [hread, Scan.read, ← hnext]
    rcases swallow.next b with _ | swallow'
    · exact ⟨_, rfl⟩
    · exact ⟨rfl, tracks_opening swallow' _⟩
  · obtain ⟨hhigh, hnone⟩ := Utf8.feed_of_not_ascii hp.state hb
    cases h with
    | control seen state =>
      rw [(Swallow.next_of_high hb false).1]
      dsimp only [Place.readAll]
      rw [Utf8.feedAll_singleton, readAll_control_of_high seen hhigh]
      exact ⟨rfl, Tracks.control _ _⟩
    | command afterEsc seen state =>
      rw [(Swallow.next_of_high hb _).2]
      dsimp only [Place.readAll]
      rw [Utf8.feedAll_singleton, readAll_command_of_high afterEsc seen hhigh]
      -- a character stands behind ESC now, or one has begun there
      have hbehind : (afterEsc && (Utf8.feed state b).1.isEmpty &&
          (Utf8.feed state b).2.isNone) = false := by
        rcases hempty : (Utf8.feed state b).1 with _ | ⟨c, s⟩
        · rw [hnone hempty, Bool.and_false]
        · rw [List.isEmpty_cons, Bool.and_false, Bool.false_and]
      have htracks := Tracks.command (afterEsc && (Utf8.feed state b).1.isEmpty)
        ((Utf8.feed state b).1.reverse ++ seen) (Utf8.feed state b).2
      rw [hbehind] at htracks
      exact ⟨rfl, htracks⟩

/-- What is held does not get shorter by reading, unless tokens come out. -/
theorem Place.length_held_le {p : Place} (hp : p.Sound) (b : UInt8) :
    p.held.length + 1 ≤
      (encode (spell (p.readAll [b]).1)).length + (p.readAll [b]).2.held.length := by
  have hspell := congrArg (fun s => (encode s).length) (p.spell_readAll [b])
  have hfeed := Utf8.length_le_encode_feed hp.state b
  have hstate : (p.readAll [b]).2.state = (Utf8.feed p.state b).2 := rfl
  simp only [Utf8.encode_append, List.length_append, Utf8.feedAll_singleton] at hspell
  rw [held, held, hstate, List.length_append, List.length_append]
  omega

/-- The swallowed sequence is a command, or a control sequence that is longer
than what was held. -/
theorem Tracks.of_readAll_eq {swallow : Swallow} {p : Place} (h : Tracks swallow p) (hp : p.Sound)
    {b : UInt8} {sequence : Text} (hread : p.readAll [b] = ([.escape sequence], Place.start)) :
    isCommand sequence = true ∨
      isControl sequence = true ∧ p.held.length < (encode sequence).length := by
  have hlen := Place.length_held_le hp b
  rw [hread, spell_cons, spell_nil, List.append_nil] at hlen
  have hlen' : p.held.length < (encode sequence).length := hlen
  have hseq : sequence = p.scan.pending ++ (Utf8.feedAll p.state [b]).1 := by
    have hspell := p.spell_readAll [b]
    rw [hread, spell_cons, spell_nil, List.append_nil] at hspell
    exact (List.append_nil sequence).symm.trans hspell
  have hshaped := hp.scan.shaped
  cases h with
  | control seen state =>
    obtain ⟨body, hbody⟩ := hshaped
    refine Or.inr ⟨?_, hlen'⟩
    rw [hseq, Scan.pending, hbody]
    rfl
  | command afterEsc seen state =>
    obtain ⟨⟨body, hbody⟩, -⟩ := hshaped
    refine Or.inl ?_
    rw [hseq, Scan.pending, hbody]
    rfl

/-- **Swallowed bytes.**  Either the reader is still inside the sequence after
them, or it has completed it where the stream found its end. -/
theorem Tracks.run {swallow : Swallow} {p : Place} (h : Tracks swallow p) (hp : p.Sound)
    (chunk : List UInt8) :
    match swallow.run chunk with
    | .inl swallow' => (p.readAll chunk).1 = [] ∧ Tracks swallow' (p.readAll chunk).2 ∧
        p.held.length ≤ (p.readAll chunk).2.held.length
    | .inr rest => ∃ sequence, p.readAll chunk =
          (.escape sequence :: (Place.start.readAll rest).1, (Place.start.readAll rest).2) ∧
        (isCommand sequence = true ∨
          isControl sequence = true ∧ p.held.length < (encode sequence).length) := by
  induction chunk generalizing swallow p with
  | nil => exact ⟨rfl, h, Nat.le_refl _⟩
  | cons b chunk ih =>
    have hcons := p.readAll_append [b] chunk
    rw [List.singleton_append] at hcons
    have hnext := h.next hp b
    rw [Swallow.run]
    rcases hswallow : swallow.next b with _ | swallow'
    · rw [hswallow] at hnext
      obtain ⟨sequence, hread⟩ := hnext
      refine ⟨sequence, ?_, h.of_readAll_eq hp hread⟩
      rw [hcons, hread]
      rfl
    · rw [hswallow] at hnext
      obtain ⟨hnone, htracks⟩ := hnext
      have hlen := Place.length_held_le hp b
      rw [hnone, spell_nil, Utf8.encode_nil, List.length_nil, Nat.zero_add] at hlen
      have hrun := ih htracks (hp.readAll [b])
      rw [hcons, hnone, List.nil_append]
      dsimp only
      rcases hrest : swallow'.run chunk with swallow'' | rest
      · rw [hrest] at hrun
        obtain ⟨hnone', htracks', hlen'⟩ := hrun
        exact ⟨hnone', htracks', by omega⟩
      · rw [hrest] at hrun
        obtain ⟨sequence, hread, hkind⟩ := hrun
        refine ⟨sequence, hread, hkind.imp_right fun hlong => ⟨hlong.1, ?_⟩⟩
        have hlen' := hlong.2
        omega

end Styled
end TerminalDialogs
