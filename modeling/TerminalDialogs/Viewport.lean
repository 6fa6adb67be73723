import TerminalDialogs.Number.Significant
import TerminalDialogs.Text

/-!
# A window on a long text

A viewport shows a fixed number of lines of a text, starting at some offset.
The offset never lies beyond the last line that can stand at the top of a full
window, whatever is done to the window or its text.
-/

namespace TerminalDialogs

/-- A window on a list of lines. -/
structure Viewport where
  lines : List Text := []
  offset : Nat := 0
  width : Nat := 0
  height : Nat := 0
  deriving DecidableEq, Repr

namespace Viewport

/-- What remains of a line in which the cursor returns to the start: the text
after the last return, not counting one at the very end. -/
def overwritten (line : Text) : Text :=
  ((Text.dropReturn line).reverse.takeWhile (· != '\r')).reverse

/-- The greatest offset. -/
def lastOffset (v : Viewport) : Nat := v.lines.length - v.height

/-- The viewport with its offset brought back into the text. -/
def clamp (v : Viewport) : Viewport := { v with offset := min v.offset v.lastOffset }

/-- A viewport on nothing. -/
def empty (width height : Nat) : Viewport := { width, height }

/-- Replaces the text. -/
def setContent (v : Viewport) (content : Text) : Viewport :=
  clamp { v with lines := (Text.rows content).map overwritten }

/-- Changes the size of the window. -/
def setSize (v : Viewport) (width height : Nat) : Viewport := clamp { v with width, height }

/-- Whether the end of the text is in the window. -/
def atBottom (v : Viewport) : Bool := v.lastOffset ≤ v.offset

/-- Moves to the first line. -/
def toTop (v : Viewport) : Viewport := { v with offset := 0 }

/-- Moves to the last line. -/
def toBottom (v : Viewport) : Viewport := { v with offset := v.lastOffset }

/-- Moves up by some lines. -/
def up (v : Viewport) (n : Nat) : Viewport := { v with offset := v.offset - n }

/-- Moves down by some lines. -/
def down (v : Viewport) (n : Nat) : Viewport :=
  { v with offset := min (v.offset + n) v.lastOffset }

/-- The lines of a page. -/
def page (v : Viewport) : Nat := max v.height 1

/-- The lines of half a page. -/
def halfPage (v : Viewport) : Nat := max (v.height / 2) 1

/-- The lines in the window, blank where the text has ended. -/
def visible (v : Viewport) : List Text :=
  let shown := (v.lines.drop v.offset).take v.height
  shown ++ List.replicate (v.height - shown.length) []

/-- The window as text. -/
def view (v : Viewport) : Text := Text.unrows v.visible

/-- How far the window has been moved, as a fraction. -/
structure Progress where
  passed : Nat
  total : Nat
  deriving DecidableEq, Repr

/-- The share of the possible offsets that lies behind; all of it if there is
nothing to move. -/
def progress (v : Viewport) : Progress :=
  if v.lastOffset = 0 then ⟨1, 1⟩ else ⟨v.offset, v.lastOffset⟩

/-- A fraction with as many significant bits as numbers have. -/
def Progress.quotient (p : Progress) : Number.Quotient :=
  Number.Quotient.ofRatio p.passed p.total

/-- A fraction in whole percent.  Both the fraction and its hundredfold are
rounded to the significant bits of a number first; a half goes to the even
neighbour. -/
def Progress.percent (p : Progress) : Nat := p.quotient.scaled Number.nearestEven 100

/-- A fraction in whole millionths, rounded in the same way, but for a half, which
goes up. -/
def Progress.millionths (p : Progress) : Nat := p.quotient.scaled Number.nearestUp 1000000

end Viewport

end TerminalDialogs
