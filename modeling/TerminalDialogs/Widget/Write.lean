import TerminalDialogs.Options.Kinds
import TerminalDialogs.Widget.Draw
import TerminalDialogs.Widget.LineBuffer
import TerminalDialogs.Widget.Protocol
import TerminalDialogs.Widget.TextArea

/-!
# The editor

Enter starts a new line, and D with Control submits the text.  As many rows are
shown as there is room for, and the row of the cursor is always among them.
-/

namespace TerminalDialogs
namespace Widget

open Modal Screen

/-- An editor. -/
structure Write where
  options : Options.Write
  text : TextArea
  /-- The first row shown. -/
  top : Nat := 0
  palette : Palette
  phase : Phase := .open
  width : Nat := 80
  height : Nat := 10
  deriving DecidableEq, Repr

namespace Write

/-- The rows of an editor for which no height is given. -/
def defaultRows : Nat := 5

/-- The editor at first. -/
def make (options : Options.Write) (palette : Palette) : Write :=
  { options, palette, text := TextArea.ofText options.value options.charLimit }

/-- The lines above the text. -/
def header (w : Write) : List Line :=
  headerLines w.options.title w.options.description w.palette

/-- The rows of the text. -/
def rows (w : Write) : Nat :=
  let wanted := if w.options.height = 0 then defaultRows else w.options.height
  min wanted (max (w.height - (w.header.length + 1)) 1)

/-- Moves the first row shown as little as needed to show the cursor. -/
def reveal (w : Write) : Write :=
  if w.text.row < w.top then { w with top := w.text.row }
  else if w.top + w.rows ≤ w.text.row then { w with top := w.text.row + 1 - w.rows }
  else w

/-- What a key does. -/
def handleKey (w : Write) (k : Key) : Write :=
  if k.isCancel then { w with phase := .cancelled }
  else if k.code = .char 'd' ∧ k.ctrl = true then { w with phase := .submitted }
  else { w with text := w.text.handleKey k }.reveal

/-- What the editor yields. -/
def value (w : Write) : Value := .text w.text.value

/-- Changes the room for the editor. -/
def setSize (w : Write) (width height : Nat) : Write := { w with width, height }.reveal

/-- The columns for line numbers. -/
def gutter (w : Write) : Nat :=
  if w.options.showLineNumbers then (Text.ofNat w.text.lines.length).length + 2 else 0

/-- The columns for text. -/
def field (w : Write) : Nat :=
  let width := if 0 < w.options.width then min w.options.width w.width else w.width
  width - (w.gutter + 1)

/-- The number of a row in front of it; blanks below the text. -/
def numberSpans (w : Write) (index : Nat) : List Span :=
  let gutter := w.gutter
  if gutter = 0 then []
  else
    let number :=
      if index < w.text.lines.length then
        Text.padLeft (gutter - 1) (Text.ofNat (index + 1)) ++ [' ']
      else Text.blanks gutter
    [⟨number, Style.fg w.palette.dim⟩]

/-- A row of the editor. -/
def rowLine (w : Write) (index : Nat) : Line :=
  let style := Style.fg w.palette.text
  let text : List Span :=
    match w.text.lines[index]? with
    | none => []
    | some line =>
        if index = w.text.row then
          (LineBuffer.Window.of w.text.before w.text.after w.field).spans style
        else [⟨line.take w.field, style⟩]
  w.numberSpans index ++ text

/-- The rows of the text, or what stands for a missing text. -/
def textLines (w : Write) : List Line :=
  if w.text.isEmpty && !w.options.placeholder.isEmpty then
    let first : Line :=
      w.numberSpans 0 ++ [⟨w.options.placeholder.take w.field, Style.fg w.palette.dim⟩]
    first :: (List.range (w.rows - 1)).map fun i => w.rowLine (i + 1)
  else (List.range w.rows).map fun i => w.rowLine (w.top + i)

/-- The editor as text. -/
def view (w : Write) : Text :=
  renderLines
    (w.header ++ w.textLines ++ [hintLine "ctrl+d submit • esc cancel".toList w.palette])
    w.width w.palette

end Write

end Widget
end TerminalDialogs
