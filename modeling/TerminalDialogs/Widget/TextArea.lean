import TerminalDialogs.Key
import TerminalDialogs.Text

/-!
# A text of several lines that is edited

The text is held around the cursor: the lines above, the parts of the current
line before and behind the cursor, and the lines below.  So there is always a
current line, and the cursor is always inside it.

Each line break counts as one character, and insertion stops at a limit, if
there is one.
-/

namespace TerminalDialogs

/-- Lines of text with a cursor. -/
structure TextArea where
  above : List Text := []
  before : Text := []
  after : Text := []
  below : List Text := []
  /-- The greatest number of characters; zero for any number. -/
  limit : Nat := 0
  deriving DecidableEq, Repr

namespace TextArea

/-- The line with the cursor. -/
def current (t : TextArea) : Text := t.before ++ t.after

/-- All lines. -/
def lines (t : TextArea) : List Text := t.above ++ t.current :: t.below

/-- The number of lines above the cursor. -/
def row (t : TextArea) : Nat := t.above.length

/-- The number of characters before the cursor in its line. -/
def column (t : TextArea) : Nat := t.before.length

/-- The whole text. -/
def value (t : TextArea) : Text := Text.unrows t.lines

/-- The number of characters, line breaks counted. -/
def length (t : TextArea) : Nat :=
  t.lines.foldr (fun line n => line.length + n) (t.lines.length - 1)

/-- Whether there is no text. -/
def isEmpty (t : TextArea) : Bool :=
  t.above.isEmpty && t.below.isEmpty && t.current.isEmpty

/-- Whether the limit is reached. -/
def isFull (t : TextArea) : Bool := t.limit != 0 && t.limit ≤ t.length

/-- Puts a character before the cursor. -/
def insert (t : TextArea) (c : Char) : TextArea :=
  if t.isFull then t else { t with before := t.before ++ [c] }

/-- Breaks the line at the cursor. -/
def newline (t : TextArea) : TextArea :=
  if t.isFull then t else { t with above := t.above ++ [t.before], before := [] }

/-- Puts a character of some given text before the cursor. -/
def take (t : TextArea) (c : Char) : TextArea :=
  if c = '\n' then t.newline else if c = '\r' then t else t.insert c

/-- A text with the cursor at its end, as far as the limit allows. -/
def ofText (value : Text) (limit : Nat) : TextArea := value.foldl take { limit }

/-- Removes the character or the line break before the cursor. -/
def backspace (t : TextArea) : TextArea :=
  if t.before.isEmpty then
    match t.above.getLast? with
    | none => t
    | some line => { t with above := t.above.dropLast, before := line }
  else { t with before := t.before.dropLast }

/-- Removes the character or the line break behind the cursor. -/
def delete (t : TextArea) : TextArea :=
  match t.after, t.below with
  | _ :: after, _ => { t with after }
  | [], [] => t
  | [], line :: below => { t with after := line, below }

/-- The cursor in another line, as far to the right as that line allows. -/
def enter (above : List Text) (line : Text) (below : List Text) (column limit : Nat) : TextArea :=
  { above, before := line.take column, after := line.drop column, below, limit }

/-- Moves the cursor to the line above. -/
def up (t : TextArea) : TextArea :=
  match t.above.getLast? with
  | none => t
  | some line => enter t.above.dropLast line (t.current :: t.below) t.column t.limit

/-- Moves the cursor to the line below. -/
def down (t : TextArea) : TextArea :=
  match t.below with
  | [] => t
  | line :: below => enter (t.above ++ [t.current]) line below t.column t.limit

/-- Moves the cursor back, also into the line above. -/
def left (t : TextArea) : TextArea :=
  match t.before.getLast? with
  | some c => { t with before := t.before.dropLast, after := c :: t.after }
  | none =>
      match t.above.getLast? with
      | none => t
      | some line =>
          { t with
            above := t.above.dropLast, before := line, after := [],
            below := t.current :: t.below }

/-- Moves the cursor on, also into the line below. -/
def right (t : TextArea) : TextArea :=
  match t.after, t.below with
  | c :: after, _ => { t with before := t.before ++ [c], after }
  | [], [] => t
  | [], line :: below =>
      { t with above := t.above ++ [t.current], before := [], after := line, below }

/-- Moves the cursor to the start of its line. -/
def toStart (t : TextArea) : TextArea := { t with before := [], after := t.current }

/-- Moves the cursor to the end of its line. -/
def toEnd (t : TextArea) : TextArea := { t with before := t.current, after := [] }

/-- What a key does. -/
def handleKey (t : TextArea) (k : Key) : TextArea :=
  match k.code with
  | .char c =>
      if k.ctrl then
        if c = 'a' then t.toStart else if c = 'e' then t.toEnd else t
      else t.insert c
  | .enter => t.newline
  | .backspace => t.backspace
  | .delete => t.delete
  | .up => t.up
  | .down => t.down
  | .left => t.left
  | .right => t.right
  | .home => t.toStart
  | .endKey => t.toEnd
  | _ => t

end TextArea

end TerminalDialogs
