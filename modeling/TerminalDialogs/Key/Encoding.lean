import TerminalDialogs.Key
import TerminalDialogs.Text.Utf8

/-!
# The bytes that keys send

A program in a terminal does not see keys but bytes.  A character sends its own
bytes; with Control held it sends the control code of the same position, if
there is one; keys without a character send a fixed sequence or nothing at all.
Alt puts an escape byte in front.
-/

namespace TerminalDialogs
namespace Key

/-- The escape byte. -/
def escapeByte : UInt8 := 0x1b

/-- The control code that a character sends with Control held.  Letters of
either case count from one; the digits are stand-ins for characters that not
every keyboard can send. -/
def controlByte? (c : Char) : Option UInt8 :=
  if ('a' ≤ c && c ≤ 'z') || ('A' ≤ c && c ≤ 'Z') then some (c.toNat.toUInt8 &&& 0x1f)
  else if c = ' ' ∨ c = '@' ∨ c = '2' then some 0x00
  else if c = '[' ∨ c = '3' then some 0x1b
  else if c = '\\' ∨ c = '4' then some 0x1c
  else if c = ']' ∨ c = '5' then some 0x1d
  else if c = '^' ∨ c = '6' then some 0x1e
  else if c = '_' ∨ c = '/' ∨ c = '7' then some 0x1f
  else none

/-- The escape sequence with the given end. -/
def sequence (ending : String) : List UInt8 := escapeByte :: Utf8.encode ending.toList

/-- What a key sends without Alt. -/
def plainBytes? (code : KeyCode) (ctrl : Bool) : Option (List UInt8) :=
  match code with
  | .char c => if ctrl then (controlByte? c).map fun b => [b] else some (Utf8.encodeChar c)
  | .enter => some [0x0d]
  | .tab => some [0x09]
  | .backTab => some (sequence "[Z")
  | .backspace => some [0x7f]
  | .delete => some (sequence "[3~")
  | .up => some (sequence "[A")
  | .down => some (sequence "[B")
  | .right => some (sequence "[C")
  | .left => some (sequence "[D")
  | .home => some (sequence "[H")
  | .endKey => some (sequence "[F")
  | .pageUp => some (sequence "[5~")
  | .pageDown => some (sequence "[6~")
  | .escape => some [escapeByte]
  | _ => none

/-- What a key sends; Alt makes no difference to the escape key. -/
def bytes? (k : Key) : Option (List UInt8) :=
  (plainBytes? k.code k.ctrl).map fun bytes =>
    if k.alt && k.code != .escape then escapeByte :: bytes else bytes

/-- Whether a key ends a session by force: the backslash with Control, which
some terminals report as the digit 4. -/
def isForceQuit (k : Key) : Bool := k.ctrl && (k.code == .char '\\' || k.code == .char '4')

/-- Whether a key is a character typed without Control and Alt. -/
def isPlain (k : Key) : Bool := !k.ctrl && !k.alt

end Key

end TerminalDialogs
