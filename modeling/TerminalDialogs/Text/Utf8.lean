import TerminalDialogs.Text

/-!
# Reading bytes as text

Bytes may arrive cut anywhere, also inside a character.  The decoder is
therefore a machine that is fed one byte at a time: its state holds the bytes
of a character that is not complete yet, and each byte yields the characters it
completes.  Feeding a concatenation is feeding one part after the other
(`feedAll_append`), so a cut cannot be seen in what is decoded.

A byte that cannot continue the character being read ends it with the
replacement character and is then read afresh.  The bytes that one replacement
character stands for are thus the longest beginning of a well-formed character.
-/

namespace TerminalDialogs
namespace Utf8

/-- The replacement character. -/
def replacement : Char := '\uFFFD'

/-- A character of which the first bytes have been read. -/
structure Begun where
  /-- The bytes read so far. -/
  seen : List UInt8
  /-- The bits read so far. -/
  value : Nat
  /-- How many bytes are still owed, less one. -/
  owed : Nat
  /-- The least value of the next byte. -/
  low : Nat
  /-- The greatest value of the next byte. -/
  high : Nat
  deriving DecidableEq, Repr

/-- Between characters, or inside one. -/
abbrev State := Option Begun

/-- The first byte of a character. -/
def first (b : UInt8) : Text × State :=
  let n := b.toNat
  if n < 0x80 then ([Char.ofNat n], none)
  else if 0xC2 ≤ n ∧ n ≤ 0xDF then ([], some ⟨[b], n - 0xC0, 0, 0x80, 0xBF⟩)
  else if n = 0xE0 then ([], some ⟨[b], 0, 1, 0xA0, 0xBF⟩)
  else if n = 0xED then ([], some ⟨[b], 0xD, 1, 0x80, 0x9F⟩)
  else if 0xE1 ≤ n ∧ n ≤ 0xEF then ([], some ⟨[b], n - 0xE0, 1, 0x80, 0xBF⟩)
  else if n = 0xF0 then ([], some ⟨[b], 0, 2, 0x90, 0xBF⟩)
  else if 0xF1 ≤ n ∧ n ≤ 0xF3 then ([], some ⟨[b], n - 0xF0, 2, 0x80, 0xBF⟩)
  else if n = 0xF4 then ([], some ⟨[b], 4, 2, 0x80, 0x8F⟩)
  else ([replacement], none)

/-- One byte: the characters it completes and the state after it. -/
def feed : State → UInt8 → Text × State
  | none, b => first b
  | some begun, b =>
      if begun.low ≤ b.toNat ∧ b.toNat ≤ begun.high then
        let value := begun.value * 64 + (b.toNat - 0x80)
        match begun.owed with
        | 0 => ([Char.ofNat value], none)
        | owed + 1 => ([], some ⟨begun.seen ++ [b], value, owed, 0x80, 0xBF⟩)
      else
        let again := first b
        (replacement :: again.1, again.2)

/-- Feeds bytes one after the other. -/
def feedAll : State → List UInt8 → Text × State
  | state, [] => ([], state)
  | state, b :: bytes =>
      let now := feed state b
      let later := feedAll now.2 bytes
      (now.1 ++ later.1, later.2)

theorem feedAll_append (state : State) (a b : List UInt8) :
    feedAll state (a ++ b) =
      ((feedAll state a).1 ++ (feedAll (feedAll state a).2 b).1,
        (feedAll (feedAll state a).2 b).2) := by
  induction a generalizing state with
  | nil => simp [feedAll]
  | cons x a ih => simp [feedAll, ih]

/-- The bytes of a character that has begun. -/
def State.bytes : State → List UInt8
  | none => []
  | some begun => begun.seen

/-- The characters of the bytes that are complete, and the bytes of a character
that the end cuts off. -/
def decodeOpen (bytes : List UInt8) : Text × List UInt8 :=
  let read := feedAll none bytes
  (read.1, State.bytes read.2)

/-- Every byte read; a character that the end cuts off is replaced too. -/
def decodeLossy (bytes : List UInt8) : Text :=
  let read := decodeOpen bytes
  if read.2.isEmpty then read.1 else read.1 ++ [replacement]

/-- Whether one fed byte was well-formed so far. -/
def accepts : State → UInt8 → Bool
  | none, b => (first b).1 != [replacement]
  | some begun, b => decide (begun.low ≤ b.toNat ∧ b.toNat ≤ begun.high)

/-- The text of well-formed bytes. -/
def decode? : State → List UInt8 → Option Text
  | none, [] => some []
  | some _, [] => none
  | state, b :: bytes =>
      if accepts state b then
        let now := feed state b
        (decode? now.2 bytes).map (now.1 ++ ·)
      else none

/-- The bytes of one character. -/
def encodeChar (c : Char) : List UInt8 := String.utf8EncodeChar c

/-- The bytes of a text. -/
def encode (s : Text) : List UInt8 := s.flatMap encodeChar

@[simp] theorem encode_nil : encode [] = [] := rfl

@[simp] theorem encode_cons (c : Char) (s : Text) :
    encode (c :: s) = encodeChar c ++ encode s := rfl

@[simp] theorem encode_append (s t : Text) : encode (s ++ t) = encode s ++ encode t := by
  simp [encode]

/-- The number of bytes of a text. -/
def size (s : Text) : Nat := s.foldl (fun n c => n + c.utf8Size) 0

end Utf8
end TerminalDialogs
