import TerminalDialogs.Options.Kinds
import TerminalDialogs.Widget.Draw
import TerminalDialogs.Widget.LineBuffer
import TerminalDialogs.Widget.Protocol

/-!
# The one-line field

What is typed goes into a line of text; Enter submits it.
-/

namespace TerminalDialogs
namespace Widget

open Modal Screen

/-- A one-line field. -/
structure Input where
  options : Options.Input
  buffer : LineBuffer
  palette : Palette
  phase : Phase := .open
  width : Nat := 80
  height : Nat := 4
  deriving DecidableEq, Repr

namespace Input

/-- The field at first. -/
def make (options : Options.Input) (palette : Palette) : Input :=
  { options, palette, buffer := LineBuffer.ofText options.value options.charLimit }

/-- What a key does. -/
def handleKey (w : Input) (k : Key) : Input :=
  if k.isCancel then { w with phase := .cancelled }
  else if k.code = .enter then { w with phase := .submitted }
  else { w with buffer := w.buffer.handleKey k }

/-- What the field yields. -/
def value (w : Input) : Value := .text w.buffer.value

/-- Changes the room for the field. -/
def setSize (w : Input) (width height : Nat) : Input := { w with width, height }

/-- What stands in front of the field. -/
def prompt (w : Input) : Text :=
  if w.options.prompt.isEmpty then "> ".toList else w.options.prompt

/-- The columns for text behind the prompt. -/
def room (w : Input) : Nat :=
  let field := if 0 < w.options.width then min w.options.width w.width else w.width
  field - (w.prompt.length + 1)

/-- A text that stands for the missing one; the cursor is on its first
character. -/
def placeholderSpans (placeholder : Text) (room : Nat) (p : Palette) : List Span :=
  [⟨placeholder.take 1, (Style.fg p.dim).adding .reversed⟩,
    ⟨(placeholder.drop 1).take (room - 1), Style.fg p.dim⟩]

/-- The line with the field. -/
def fieldLine (w : Input) : Line :=
  let p := w.palette
  let shown :=
    if w.buffer.value.isEmpty && !w.options.placeholder.isEmpty then
      placeholderSpans w.options.placeholder w.room p
    else (w.buffer.window w.room w.options.password).spans (Style.fg p.text)
  ⟨w.prompt, Style.fg p.accent⟩ :: shown

/-- The field as text. -/
def view (w : Input) : Text :=
  let p := w.palette
  let lines := headerLines w.options.title w.options.description p ++ [w.fieldLine]
  let hint :=
    if lines.length < w.height then [hintLine "enter submit • esc cancel".toList p] else []
  renderLines (lines ++ hint) w.width p

end Input

end Widget
end TerminalDialogs
