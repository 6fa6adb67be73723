import TerminalDialogs.Styled.Token
import TerminalDialogs.Text.Utf8

/-!
# Output that arrives in chunks

The output of a command is read in chunks that may end anywhere: inside a
character, or inside an escape sequence.  `Stream.push` lets through what is
complete, without commands, and holds the rest back for the next chunk;
`Stream.finish` lets through what can still be shown at the end.

## The limit

A sequence that never ends must not hold everything back.  When more than
`heldLimit` bytes are waiting, the sequence is given up: the waiting bytes are
dropped, and what follows is swallowed up to the character that would have
ended it.  Such a character is always a single byte, so it can be looked for
without decoding.
-/

namespace TerminalDialogs
namespace Styled

/-- The greatest number of bytes held back. -/
def heldLimit : Nat := 4096

/-- A sequence that was given up and is swallowed up to its end. -/
inductive Swallow where
  /-- A control sequence. -/
  | control
  /-- A command; the flag says whether its last byte was ESC. -/
  | command (afterEsc : Bool)
  deriving DecidableEq, Repr

/-- One more byte of a sequence that was given up; `none` if it ends there. -/
def Swallow.next : Swallow → UInt8 → Option Swallow
  | .control, b => if 0x40 ≤ b && b ≤ 0x7e then none else some .control
  | .command afterEsc, b =>
      if b == 0x07 || (afterEsc && b == 0x5c) then none else some (.command (b == 0x1b))

/-- Swallows bytes: either all of them, or those up to the end of the sequence,
with the bytes that follow. -/
def Swallow.run : Swallow → List UInt8 → Swallow ⊕ List UInt8
  | swallow, [] => .inl swallow
  | swallow, b :: bytes =>
      match swallow.next b with
      | none => .inr bytes
      | some swallow => swallow.run bytes

/-- How a sequence is given up, if it is one that has an end to wait for.
`tail` holds the bytes of a character that the end of the chunk cuts off. -/
def Swallow.ofUnfinished (sequence : Text) (tail : List UInt8) : Option Swallow :=
  match sequence with
  | _ :: '[' :: _ => some .control
  | _ :: ']' :: _ => some (.command (tail.isEmpty && sequence.getLast? == some esc))
  | _ => none

/-- What is waiting between two chunks. -/
structure Stream where
  /-- Bytes held back until the next chunk. -/
  held : List UInt8 := []
  /-- A sequence that was given up. -/
  swallowing : Option Swallow := none
  deriving DecidableEq, Repr

/-- The tokens in front of an unfinished sequence, and the characters of that
sequence. -/
def splitUnfinished : List Token → List Token × Text
  | [] => ([], [])
  | .unfinished sequence :: _ => ([], sequence)
  | t :: ts =>
      let split := splitUnfinished ts
      (t :: split.1, split.2)

/-- The tokens without commands, spelled. -/
def spellWithoutCommands (ts : List Token) : Text :=
  spell (ts.filter fun
    | .escape sequence => !isCommand sequence
    | _ => true)

namespace Stream

/-- Nothing is waiting. -/
def empty : Stream := {}

/-- Lets through what is complete in the waiting bytes and the new ones. -/
def absorb (held chunk : List UInt8) : Text × Stream :=
  let decoded := Utf8.decodeOpen (held ++ chunk)
  let split := splitUnfinished (tokens decoded.1)
  let waiting := Utf8.encode split.2 ++ decoded.2
  let shown := spellWithoutCommands split.1
  if heldLimit < waiting.length then
    (shown,
      { held := if split.2.isEmpty then waiting else []
        swallowing := Swallow.ofUnfinished split.2 decoded.2 })
  else (shown, { held := waiting })

/-- Takes one chunk: the text that can be shown, and what is waiting now. -/
def push (stream : Stream) (chunk : List UInt8) : Text × Stream :=
  match stream.swallowing with
  | none => absorb stream.held chunk
  | some swallow =>
      match swallow.run chunk with
      | .inl swallow => ([], { stream with swallowing := some swallow })
      | .inr rest => absorb stream.held rest

/-- The text that can still be shown when no chunk follows. -/
def finish (stream : Stream) : Text :=
  spellWithoutCommands (splitUnfinished (tokens (Utf8.decodeLossy stream.held))).1

end Stream

end Styled
end TerminalDialogs
