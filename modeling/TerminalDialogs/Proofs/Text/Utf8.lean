import TerminalDialogs.Text.Utf8
import Mathlib.Algebra.Ring.Nat

/-!
# What the decoder keeps between bytes

Written characters are read back (`feedAll_encode`), and so are the bytes of a
character that has begun: a state that occurs in the reading of bytes is the one
that its own bytes lead to (`State.Sound`).  What waits between two chunks can
therefore be held back as bytes and read again together with the next chunk.

## What a byte can do

`first_cases` and `feed_cases` say once what a byte does to a sound state.  A
byte below `0x80` always yields its own character, after a replacement character
for what had begun; any other byte yields characters from `0x80` on, or none.
Characters that end something for a terminal lie below `0x80`, so their bytes
can be looked for without decoding.

## Length

A character is never shorter than the bytes that it was read from
(`length_le_encode_feed`); this is where the overlong forms are excluded.  So a
text that is decoded and written again does not get shorter.
-/

namespace TerminalDialogs
namespace Utf8

theorem toNat_ofNat {n : Nat} (h : n.isValidChar) : (Char.ofNat n).toNat = n := by
  rw [Char.ofNat, dif_pos h]
  rfl

/-! ## First bytes -/

theorem first_ascii {b : UInt8} (h : b.toNat < 0x80) :
    first b = ([Char.ofNat b.toNat], none) := by
  rw [first, if_pos h]

theorem first_two {b : UInt8} (h : 0xC2 ≤ b.toNat) (h' : b.toNat ≤ 0xDF) :
    first b = ([], some ⟨[b], b.toNat - 0xC0, 0, 0x80, 0xBF⟩) := by
  rw [first, if_neg (by omega), if_pos ⟨h, h'⟩]

/-- The first byte of three says which second bytes there can be: none for what
two bytes can spell, and none for surrogates. -/
theorem first_three {b : UInt8} (h : 0xE0 ≤ b.toNat) (h' : b.toNat ≤ 0xEF) :
    first b = ([], some ⟨[b], b.toNat - 0xE0, 1, if b.toNat = 0xE0 then 0xA0 else 0x80,
      if b.toNat = 0xED then 0x9F else 0xBF⟩) := by
  rw [first, if_neg (by omega), if_neg (by omega)]
  by_cases h0 : b.toNat = 0xE0
  · rw [if_pos h0, if_pos h0, if_neg (by omega), h0]
  by_cases hD : b.toNat = 0xED
  · rw [if_neg h0, if_pos hD, if_neg h0, if_pos hD, hD]
  · rw [if_neg h0, if_neg hD, if_pos ⟨by omega, h'⟩, if_neg h0, if_neg hD]

/-- The first byte of four says which second bytes there can be: none for what
three bytes can spell, and none beyond the last character. -/
theorem first_four {b : UInt8} (h : 0xF0 ≤ b.toNat) (h' : b.toNat ≤ 0xF4) :
    first b = ([], some ⟨[b], b.toNat - 0xF0, 2, if b.toNat = 0xF0 then 0x90 else 0x80,
      if b.toNat = 0xF4 then 0x8F else 0xBF⟩) := by
  rw [first, if_neg (by omega), if_neg (by omega), if_neg (by omega), if_neg (by omega),
    if_neg (by omega)]
  by_cases h0 : b.toNat = 0xF0
  · rw [if_pos h0, if_pos h0, if_neg (by omega), h0]
  by_cases h4 : b.toNat = 0xF4
  · rw [if_neg h0, if_neg (by omega), if_pos h4, if_neg h0, if_pos h4, h4]
  · rw [if_neg h0, if_pos ⟨by omega, by omega⟩, if_neg h0, if_neg h4]

theorem first_bad {b : UInt8} (h : 0x80 ≤ b.toNat)
    (h' : b.toNat < 0xC2 ∨ 0xF4 < b.toNat) : first b = ([replacement], none) := by
  rw [first, if_neg (by omega), if_neg (by omega), if_neg (by omega), if_neg (by omega),
    if_neg (by omega), if_neg (by omega), if_neg (by omega), if_neg (by omega)]

/-- A byte in the range that has begun continues the character. -/
theorem feed_next {seen : List UInt8} {value owed low high : Nat} {b : UInt8}
    (h : low ≤ b.toNat) (h' : b.toNat ≤ high) :
    feed (some ⟨seen, value, owed + 1, low, high⟩) b =
      ([], some ⟨seen ++ [b], value * 64 + (b.toNat - 0x80), owed, 0x80, 0xBF⟩) := by
  rw [feed, if_pos ⟨h, h'⟩]

/-- The last byte in the range completes the character. -/
theorem feed_last {seen : List UInt8} {value low high : Nat} {b : UInt8}
    (h : low ≤ b.toNat) (h' : b.toNat ≤ high) :
    feed (some ⟨seen, value, 0, low, high⟩) b =
      ([Char.ofNat (value * 64 + (b.toNat - 0x80))], none) := by
  rw [feed, if_pos ⟨h, h'⟩]

theorem feed_bad {s : Begun} {b : UInt8} (h : ¬ (s.low ≤ b.toNat ∧ b.toNat ≤ s.high)) :
    feed (some s) b = (replacement :: (first b).1, (first b).2) := by
  rw [feed, if_neg h]

/-! ## Reading what was written -/

theorem feedAll_cons (state : State) (b : UInt8) (bytes : List UInt8) :
    feedAll state (b :: bytes) =
      ((feed state b).1 ++ (feedAll (feed state b).2 bytes).1,
        (feedAll (feed state b).2 bytes).2) :=
  rfl

theorem feedAll_singleton (state : State) (b : UInt8) : feedAll state [b] = feed state b := by
  rw [feedAll_cons, feedAll, List.append_nil]

theorem feedAll_encodeChar (c : Char) : feedAll none (encodeChar c) = ([c], none) := by
  have hvalid : c.val.toNat.isValidChar := c.valid
  have hc : Char.ofNat c.val.toNat = c := Char.ofNat_toNat c
  have hbyte : ∀ n, n < 256 → (UInt8.ofNat n).toNat = n := fun n hn => by
    rw [UInt8.toNat_ofNat', Nat.mod_eq_of_lt hn]
  simp only [encodeChar, String.utf8EncodeChar]
  generalize c.val.toNat = v at hvalid hc
  by_cases h1 : v ≤ 0x7F
  · have hb := hbyte v (by omega)
    rw [if_pos h1, feedAll_singleton, feed, first_ascii (by omega), hb, hc]
  by_cases h2 : v ≤ 0x7FF
  · have hb1 := hbyte (v / 64 % 32 + 192) (by omega)
    have hb2 := hbyte (v % 64 + 128) (by omega)
    have hv : (v / 64 % 32 + 192 - 0xC0) * 64 + (v % 64 + 128 - 0x80) = v := by omega
    rw [if_neg h1, if_pos h2, feedAll_cons, feed, first_two (by omega) (by omega), hb1,
      feedAll_singleton, feed_last (by omega) (by omega), hb2, hv, hc]
    rfl
  by_cases h3 : v ≤ 0xFFFF
  · have hb1 := hbyte (v / 4096 % 16 + 224) (by omega)
    have hb2 := hbyte (v / 64 % 64 + 128) (by omega)
    have hb3 := hbyte (v % 64 + 128) (by omega)
    have hv : ((v / 4096 % 16 + 224 - 0xE0) * 64 + (v / 64 % 64 + 128 - 0x80)) * 64 +
        (v % 64 + 128 - 0x80) = v := by omega
    rw [if_neg h1, if_neg h2, if_pos h3, feedAll_cons, feed, first_three (by omega) (by omega),
      hb1, feedAll_cons, feed_next (by split <;> omega) (by split <;> omega), hb2,
      feedAll_singleton, feed_last (by omega) (by omega), hb3, hv, hc]
    rfl
  · have hb1 := hbyte (v / 262144 % 8 + 240) (by omega)
    have hb2 := hbyte (v / 4096 % 64 + 128) (by omega)
    have hb3 := hbyte (v / 64 % 64 + 128) (by omega)
    have hb4 := hbyte (v % 64 + 128) (by omega)
    have hv : (((v / 262144 % 8 + 240 - 0xF0) * 64 + (v / 4096 % 64 + 128 - 0x80)) * 64 +
        (v / 64 % 64 + 128 - 0x80)) * 64 + (v % 64 + 128 - 0x80) = v := by omega
    rw [if_neg h1, if_neg h2, if_neg h3, feedAll_cons, feed, first_four (by omega) (by omega),
      hb1, feedAll_cons, feed_next (by split <;> omega) (by split <;> omega), hb2, feedAll_cons,
      feed_next (by omega) (by omega), hb3, feedAll_singleton, feed_last (by omega) (by omega),
      hb4, hv, hc]
    rfl

/-- **Written characters are read back.** -/
theorem feedAll_encode (s : Text) : feedAll none (encode s) = (s, none) := by
  induction s with
  | nil => rfl
  | cons c s ih => rw [encode_cons, feedAll_append, feedAll_encodeChar, ih]; rfl

/-! ## Sound states -/

/-- The least character that needs so many bytes. -/
def least : Nat → Nat
  | 0 => 0
  | 1 => 0
  | 2 => 0x80
  | 3 => 0x800
  | _ => 0x10000

/-- A character that has begun as characters do: its bytes lead to it again, and
whatever completes it is a character that needs as many bytes. -/
structure Begun.Sound (s : Begun) : Prop where
  replay : feedAll none s.seen = ([], some s)
  seen_pos : 0 < s.seen.length
  length_le : s.seen.length + s.owed ≤ 3
  low_ge : 0x80 ≤ s.low
  high_le : s.high ≤ 0xBF
  least_le : least (s.seen.length + s.owed + 1) ≤ (s.value * 64 + (s.low - 0x80)) * 64 ^ s.owed
  valid : ∀ v, (s.value * 64 + (s.low - 0x80)) * 64 ^ s.owed ≤ v →
    v < (s.value * 64 + (s.high - 0x80) + 1) * 64 ^ s.owed → v.isValidChar

/-- A state that occurs in the reading of bytes. -/
def State.Sound (state : State) : Prop := ∀ s, state = some s → s.Sound

theorem State.sound_none : State.Sound none := fun _ h => by cases h

theorem State.sound_some {s : Begun} (h : s.Sound) : State.Sound (some s) :=
  fun _ hs => Option.some.inj hs ▸ h

/-- **What a first byte does.**  It is a character of its own, it begins one, or
it stands for nothing. -/
theorem first_cases (b : UInt8) :
    (b.toNat < 0x80 ∧ first b = ([Char.ofNat b.toNat], none)) ∨
      (0x80 ≤ b.toNat ∧ first b = ([replacement], none)) ∨
      (0x80 ≤ b.toNat ∧ ∃ s, first b = ([], some s) ∧ s.Sound ∧ s.seen = [b]) := by
  have hreplay : ∀ s, first b = ([], some s) → feedAll none [b] = ([], some s) := fun s hs => by
    rw [feedAll_singleton, feed, hs]
  rcases Nat.lt_or_ge b.toNat 0x80 with hascii | hb
  · exact Or.inl ⟨hascii, first_ascii hascii⟩
  by_cases hbad : b.toNat < 0xC2 ∨ 0xF4 < b.toNat
  · exact Or.inr (Or.inl ⟨hb, first_bad hb hbad⟩)
  refine Or.inr (Or.inr ⟨hb, ?_⟩)
  rcases Nat.lt_or_ge b.toNat 0xE0 with h2 | h3
  · have hf := first_two (b := b) (by omega) (by omega)
    refine ⟨_, hf, ⟨hreplay _ hf, Nat.one_pos, by simp, by simp, by simp, ?_, ?_⟩, rfl⟩
    · simp only [least, List.length_singleton]
      omega
    · intro v _ hv'
      simp only at hv'
      exact Or.inl (by omega)
  rcases Nat.lt_or_ge b.toNat 0xF0 with h3' | h4
  · have hf := first_three (b := b) h3 (by omega)
    refine ⟨_, hf, ⟨hreplay _ hf, Nat.one_pos, by simp, ?_, ?_, ?_, ?_⟩, rfl⟩
    · dsimp only
      split <;> omega
    · dsimp only
      split <;> omega
    · simp only [least, List.length_singleton]
      split <;> omega
    · intro v hv hv'
      simp only at hv hv'
      -- the second bytes behind `0xED` stop before the surrogates
      rw [Nat.isValidChar]
      split at hv' <;> omega
  · have hf := first_four (b := b) h4 (by omega)
    refine ⟨_, hf, ⟨hreplay _ hf, Nat.one_pos, by simp, ?_, ?_, ?_, ?_⟩, rfl⟩
    · dsimp only
      split <;> omega
    · dsimp only
      split <;> omega
    · simp only [least, List.length_singleton]
      split <;> omega
    · intro v hv hv'
      simp only at hv hv'
      rw [Nat.isValidChar]
      split at hv <;> split at hv' <;> omega

/-- A character has at least as many bytes as are needed for it. -/
theorem le_utf8Size {c : Char} {n : Nat} (hn : n ≤ 4) (h : least n ≤ c.toNat) :
    n ≤ c.utf8Size := by
  have hsize : c.utf8Size = if c.toNat ≤ 0x7F then 1 else if c.toNat ≤ 0x7FF then 2
      else if c.toNat ≤ 0xFFFF then 3 else 4 := by
    simp only [Char.utf8Size, UInt32.le_iff_toNat_le]
    rfl
  rw [hsize]
  rcases n with _ | _ | _ | _ | _ | n <;> simp only [least] at h <;> repeat' split
  all_goals omega

/-- **What a byte does inside a character.**  It completes the character, with
one that needs all its bytes, it continues the character, or it does not belong
to it and is read afresh. -/
theorem feed_cases {s : Begun} (h : s.Sound) (b : UInt8) :
    (0x80 ≤ b.toNat ∧ ∃ c, feed (some s) b = ([c], none) ∧ 0x80 ≤ c.toNat ∧
        s.seen.length + 1 ≤ c.utf8Size) ∨
      (0x80 ≤ b.toNat ∧ ∃ s', feed (some s) b = ([], some s') ∧ s'.Sound ∧
        s'.seen = s.seen ++ [b]) ∨
      feed (some s) b = (replacement :: (first b).1, (first b).2) := by
  obtain ⟨hreplay, hpos, hlen, hlow, hhigh, hleast, hvalid⟩ := h
  by_cases hin : s.low ≤ b.toNat ∧ b.toNat ≤ s.high
  · have hb : 0x80 ≤ b.toNat := Nat.le_trans hlow hin.1
    obtain ⟨seen, value, owed, low, high⟩ := s
    simp only at hreplay hpos hlen hlow hhigh hleast hvalid hin
    rcases owed with _ | owed
    · rw [Nat.pow_zero, Nat.mul_one, Nat.add_zero] at hleast
      have hnat := toNat_ofNat (hvalid (value * 64 + (b.toNat - 0x80)) (by omega) (by omega))
      have hge : least (seen.length + 1) ≤ (Char.ofNat (value * 64 + (b.toNat - 0x80))).toNat := by
        rw [hnat]
        omega
      have h80 : 0x80 ≤ least (seen.length + 1) := by
        rcases hn : seen.length with _ | _ | _ | n
        · omega
        all_goals simp only [least]; omega
      have hsize : seen.length + 1 ≤ (Char.ofNat (value * 64 + (b.toNat - 0x80))).utf8Size :=
        le_utf8Size (by omega) hge
      exact Or.inl ⟨hb, _, feed_last hin.1 hin.2, Nat.le_trans h80 hge, hsize⟩
    · have hfeed := @feed_next seen value owed low high b hin.1 hin.2
      -- one byte more narrows the range of characters
      have hlo : ∀ x, (x * 64 + (0x80 - 0x80)) * 64 ^ owed = x * 64 ^ (owed + 1) := fun x => by
        rw [Nat.sub_self, Nat.add_zero, Nat.pow_succ', Nat.mul_assoc]
      have hhi : ∀ x, (x * 64 + (0xBF - 0x80) + 1) * 64 ^ owed = (x + 1) * 64 ^ (owed + 1) :=
        fun x => by
          rw [show x * 64 + (0xBF - 0x80) + 1 = (x + 1) * 64 by omega, Nat.pow_succ',
            Nat.mul_assoc]
      refine Or.inr (Or.inl ⟨hb, _, hfeed, ⟨?_, ?_, ?_, Nat.le_refl _, Nat.le_refl _, ?_, ?_⟩, rfl⟩)
      · rw [feedAll_append, hreplay, feedAll_singleton, hfeed]
        rfl
      · simp
      · simp only [List.length_append, List.length_singleton]
        omega
      · have hlen' : (seen ++ [b]).length + owed + 1 = seen.length + (owed + 1) + 1 := by
          simp only [List.length_append, List.length_singleton]
          omega
        simp only [hlen', hlo]
        exact Nat.le_trans hleast (Nat.mul_le_mul_right _ (by omega))
      · intro v hv hv'
        simp only [hlo, hhi] at hv hv'
        exact hvalid v (Nat.le_trans (Nat.mul_le_mul_right _ (by omega)) hv)
          (Nat.lt_of_lt_of_le hv' (Nat.mul_le_mul_right _ (by omega)))
  · exact Or.inr (Or.inr (feed_bad hin))

theorem first_sound (b : UInt8) : State.Sound (first b).2 := by
  rcases first_cases b with ⟨-, hf⟩ | ⟨-, hf⟩ | ⟨-, s, hf, hs, -⟩
  · rw [hf]
    exact State.sound_none
  · rw [hf]
    exact State.sound_none
  · rw [hf]
    exact State.sound_some hs

theorem feed_sound {state : State} (h : state.Sound) (b : UInt8) :
    State.Sound (feed state b).2 := by
  rcases state with _ | s
  · exact first_sound b
  · rcases feed_cases (h s rfl) b with ⟨-, c, hf, -⟩ | ⟨-, s', hf, hs', -⟩ | hf
    · rw [hf]
      exact State.sound_none
    · rw [hf]
      exact State.sound_some hs'
    · rw [hf]
      exact first_sound b

theorem feedAll_sound {state : State} (h : state.Sound) (bytes : List UInt8) :
    State.Sound (feedAll state bytes).2 := by
  induction bytes generalizing state with
  | nil => exact h
  | cons b bytes ih => exact ih (feed_sound h b)

/-- **The bytes of a character that has begun are read back.** -/
theorem feedAll_bytes {state : State} (h : state.Sound) :
    feedAll none (State.bytes state) = ([], state) := by
  rcases state with _ | s
  · rfl
  · exact (h s rfl).replay

theorem length_bytes_le {state : State} (h : state.Sound) : (State.bytes state).length ≤ 3 := by
  rcases state with _ | s
  · exact Nat.zero_le 3
  · exact Nat.le_trans (Nat.le_add_right _ _) (h s rfl).length_le

theorem isEmpty_bytes {state : State} (h : state.Sound) :
    (State.bytes state).isEmpty = state.isNone := by
  rcases state with _ | s
  · rfl
  · exact List.isEmpty_eq_false_iff.mpr (List.ne_nil_of_length_pos (h s rfl).seen_pos)

/-! ## The end of the bytes -/

/-- What the end of the bytes makes of the state. -/
def State.flush : State → Text
  | none => []
  | some _ => [replacement]

theorem decodeLossy_eq (bytes : List UInt8) :
    decodeLossy bytes = (feedAll none bytes).1 ++ (feedAll none bytes).2.flush := by
  have hsound := feedAll_sound State.sound_none bytes
  rw [decodeLossy, decodeOpen]
  dsimp only
  rw [isEmpty_bytes hsound]
  rcases (feedAll none bytes).2 with _ | s
  · exact (List.append_nil _).symm
  · rfl

/-! ## Characters below `0x80` -/

/-- **A byte below `0x80` is its own character**, after what had begun. -/
theorem feed_of_ascii {state : State} (h : state.Sound) {b : UInt8} (hb : b.toNat < 0x80) :
    feed state b = (state.flush ++ [Char.ofNat b.toNat], none) := by
  rcases state with _ | s
  · exact first_ascii hb
  · rcases feed_cases (h s rfl) b with ⟨hb', -⟩ | ⟨hb', -⟩ | hf
    · omega
    · omega
    · rw [hf, first_ascii hb]
      rfl

/-- **Any other byte yields characters from `0x80` on**, and if it yields none,
it belongs to a character that is not complete. -/
theorem feed_of_not_ascii {state : State} (h : state.Sound) {b : UInt8} (hb : 0x80 ≤ b.toNat) :
    (∀ c ∈ (feed state b).1, 0x80 ≤ c.toNat) ∧
      ((feed state b).1 = [] → (feed state b).2.isNone = false) := by
  have hrep : 0x80 ≤ replacement.toNat := by decide
  have hfirst : (∀ c ∈ (first b).1, 0x80 ≤ c.toNat) ∧
      ((first b).1 = [] → (first b).2.isNone = false) := by
    rcases first_cases b with ⟨hb', -⟩ | ⟨-, hf⟩ | ⟨-, s, hf, -⟩
    · omega
    · rw [hf]
      exact ⟨fun c hc => List.mem_singleton.mp hc ▸ hrep, fun hnil => absurd hnil (by simp)⟩
    · rw [hf]
      exact ⟨fun c hc => absurd hc List.not_mem_nil, fun _ => rfl⟩
  rcases state with _ | s
  · exact hfirst
  · rcases feed_cases (h s rfl) b with ⟨-, c, hf, hc, -⟩ | ⟨-, s', hf, -⟩ | hf
    · rw [hf]
      exact ⟨fun d hd => List.mem_singleton.mp hd ▸ hc, fun hnil => absurd hnil (by simp)⟩
    · rw [hf]
      exact ⟨fun c hc => absurd hc List.not_mem_nil, fun _ => rfl⟩
    · rw [hf]
      refine ⟨fun c hc => ?_, fun hnil => absurd hnil (by simp)⟩
      rcases List.mem_cons.mp hc with rfl | hc
      · exact hrep
      · exact hfirst.1 c hc

/-! ## Length -/

theorem length_encodeChar (c : Char) : (encodeChar c).length = c.utf8Size :=
  String.length_utf8EncodeChar c

theorem size_eq_sum (s : Text) : size s = (s.map Char.utf8Size).sum := by
  have hfrom (n : Nat) : s.foldl (fun n c => n + c.utf8Size) n =
      n + (s.map Char.utf8Size).sum := by
    induction s generalizing n with
    | nil => rfl
    | cons c s ih => rw [List.foldl_cons, ih, List.map_cons, List.sum_cons, Nat.add_assoc]
  exact (hfrom 0).trans (Nat.zero_add _)

theorem size_append (s t : Text) : size (s ++ t) = size s + size t := by
  rw [size_eq_sum, size_eq_sum, size_eq_sum, List.map_append, List.sum_append]

theorem one_le_encode_first (b : UInt8) :
    1 ≤ (encode (first b).1).length + (State.bytes (first b).2).length := by
  rcases first_cases b with ⟨-, hf⟩ | ⟨-, hf⟩ | ⟨-, s, hf, -, hs⟩
  · have hpos := (Char.ofNat b.toNat).utf8Size_pos
    rw [hf, encode_cons, List.length_append, length_encodeChar]
    omega
  · rw [hf]
    decide
  · rw [hf, State.bytes, hs, List.length_singleton]
    exact Nat.le_add_left _ _

/-- **No byte is lost.**  A byte and those that wait are written as at least as
many bytes, by the characters that come out and those that wait afterwards. -/
theorem length_le_encode_feed {state : State} (h : state.Sound) (b : UInt8) :
    (State.bytes state).length + 1 ≤
      (encode (feed state b).1).length + (State.bytes (feed state b).2).length := by
  rcases state with _ | s
  · exact one_le_encode_first b
  · have hlen := (h s rfl).length_le
    rw [State.bytes]
    rcases feed_cases (h s rfl) b with ⟨-, c, hf, -, hc⟩ | ⟨-, s', hf, -, hs'⟩ | hf
    · rw [hf, encode_cons, List.length_append, length_encodeChar]
      omega
    · rw [hf, State.bytes, hs', List.length_append, List.length_singleton]
      exact Nat.le_add_left _ _
    · -- the replacement character is as long as the longest beginning
      have hrep : (encodeChar replacement).length = 3 := by decide
      have hfirst := one_le_encode_first b
      rw [hf, encode_cons, List.length_append, hrep]
      dsimp only
      omega

end Utf8
end TerminalDialogs
