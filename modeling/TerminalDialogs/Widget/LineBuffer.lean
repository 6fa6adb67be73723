import TerminalDialogs.Key
import TerminalDialogs.Screen.Line

/-!
# A line of text that is edited

The text is held in two parts, before and behind the cursor, so the cursor is
always inside the text.  Insertion stops at a limit, if there is one.

What is shown is a window on the text that is as wide as the field and always
holds the cursor; behind the last character the cursor stands on a blank.
-/

namespace TerminalDialogs

open Screen

/-- A text with a cursor. -/
structure LineBuffer where
  before : Text := []
  after : Text := []
  /-- The greatest number of characters; zero for any number. -/
  limit : Nat := 0
  deriving DecidableEq, Repr

namespace LineBuffer

/-- The whole text. -/
def value (b : LineBuffer) : Text := b.before ++ b.after

/-- The number of characters. -/
def length (b : LineBuffer) : Nat := b.value.length

/-- The number of characters before the cursor. -/
def cursor (b : LineBuffer) : Nat := b.before.length

theorem cursor_le_length (b : LineBuffer) : b.cursor ≤ b.length := by
  simp [cursor, length, value]

/-- A text with the cursor at its end, cut at the limit. -/
def ofText (value : Text) (limit : Nat) : LineBuffer :=
  { before := if limit = 0 then value else value.take limit, limit }

/-- Whether the limit is reached. -/
def isFull (b : LineBuffer) : Bool := b.limit != 0 && b.limit ≤ b.length

/-- Puts a character before the cursor. -/
def insert (b : LineBuffer) (c : Char) : LineBuffer :=
  if b.isFull then b else { b with before := b.before ++ [c] }

/-- Removes the character before the cursor. -/
def backspace (b : LineBuffer) : LineBuffer := { b with before := b.before.dropLast }

/-- Removes the character under the cursor. -/
def delete (b : LineBuffer) : LineBuffer := { b with after := b.after.tail }

/-- Moves the cursor back. -/
def left (b : LineBuffer) : LineBuffer :=
  { b with before := b.before.dropLast, after := b.before.getLast?.toList ++ b.after }

/-- Moves the cursor on. -/
def right (b : LineBuffer) : LineBuffer :=
  { b with before := b.before ++ b.after.head?.toList, after := b.after.tail }

/-- Moves the cursor to the start. -/
def toStart (b : LineBuffer) : LineBuffer := { b with before := [], after := b.value }

/-- Moves the cursor to the end. -/
def toEnd (b : LineBuffer) : LineBuffer := { b with before := b.value, after := [] }

/-- Removes everything before the cursor. -/
def clearToStart (b : LineBuffer) : LineBuffer := { b with before := [] }

/-- What a key does to the text; `none` if it is no key for editing. -/
def handleKey? (b : LineBuffer) (k : Key) : Option LineBuffer :=
  match k.code with
  | .char c =>
      if k.ctrl then
        if c = 'a' then some b.toStart
        else if c = 'e' then some b.toEnd
        else if c = 'u' then some b.clearToStart
        else none
      else some (b.insert c)
  | .backspace => some b.backspace
  | .delete => some b.delete
  | .left => some b.left
  | .right => some b.right
  | .home => some b.toStart
  | .endKey => some b.toEnd
  | _ => none

/-- What a key does to the text. -/
def handleKey (b : LineBuffer) (k : Key) : LineBuffer := (b.handleKey? k).getD b

/-- The character shown for one of the text. -/
def shownChar (mask : Bool) (c : Char) : Char := if mask then '•' else c

/-- What is shown of a text: the part before the cursor, what is under the
cursor, and the part behind it. -/
structure Window where
  before : Text
  under : Text
  after : Text
  deriving DecidableEq, Repr

/-- The window of the given width on a text with a cursor. -/
def Window.of (before after : Text) (width : Nat) : Window :=
  let start := before.length + 1 - max width 1
  { before := before.drop start
    under := [after.headD ' ']
    after := after.tail.take (width - (before.length - start + 1)) }

/-- The window on the text. -/
def window (b : LineBuffer) (width : Nat) (mask : Bool) : Window :=
  Window.of (b.before.map (shownChar mask)) (b.after.map (shownChar mask)) (max width 1)

/-- A window as spans; the cursor is shown reversed. -/
def Window.spans (w : Window) (style : Style) : List Span :=
  [⟨w.before, style⟩, ⟨w.under, style.adding .reversed⟩, ⟨w.after, style⟩]

end LineBuffer

end TerminalDialogs
