import TerminalDialogs.Widget.Kind

/-!
# Size and place of a dialog

A dialog has a border and padding around its contents and leaves a margin on
the screen.  Its contents get the room that remains, up to a limit for the kind
of widget and down to a size below which nothing can be read.
-/

namespace TerminalDialogs
namespace Modal

/-- Columns of padding on each side. -/
def paddingColumns : Nat := 2

/-- Rows of padding on each side. -/
def paddingRows : Nat := 1

/-- Columns that border and padding take. -/
def frameColumns : Nat := 2 + 2 * paddingColumns

/-- Rows that border and padding take. -/
def frameRows : Nat := 2 + 2 * paddingRows

/-- Columns that are left free beside a dialog. -/
def marginColumns : Nat := 4

/-- Rows that are left free above and below a dialog. -/
def marginRows : Nat := 4

/-- The least width of the contents. -/
def leastWidth : Nat := 20

/-- The least height of the contents. -/
def leastHeight : Nat := 3

/-- A number of columns and rows. -/
structure Size where
  width : Nat
  height : Nat
  deriving DecidableEq, Repr

/-- The greatest width of the contents of a dialog. -/
def greatestWidth : Widget.Kind → Nat
  | .table => 90
  | .pager => 90
  | .spin => 50
  | _ => 70

/-- The greatest height of the contents of a dialog, if there is one. -/
def greatestHeight? : Widget.Kind → Option Nat
  | .input => some 4
  | .confirm => some 4
  | .choose => some 12
  | .filter => some 12
  | .file => some 16
  | .table => some 16
  | .pager => none
  | .write => some 8
  | .spin => some 2

/-- The size of the contents of a dialog on a screen of the given size. -/
def contentSize (kind : Widget.Kind) (screen : Size) : Size :=
  let width := max (screen.width - marginColumns - frameColumns) leastWidth
  let height := max (screen.height - marginRows - frameRows) leastHeight
  { width := min width (greatestWidth kind)
    height :=
      match greatestHeight? kind with
      | none => height
      | some limit => min height limit }

/-- A block on the screen. -/
structure Placement where
  x : Nat
  y : Nat
  size : Size
  deriving DecidableEq, Repr

/-- A block in the middle of the screen; one that is too large starts at the
upper left corner. -/
def placement (block screen : Size) : Placement :=
  { x := (screen.width - block.width) / 2
    y := (screen.height - block.height) / 2
    size := block }

end Modal
end TerminalDialogs
