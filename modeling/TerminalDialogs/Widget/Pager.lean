import TerminalDialogs.Options.Kinds
import TerminalDialogs.Styled.Wrap
import TerminalDialogs.Viewport
import TerminalDialogs.Widget.Draw
import TerminalDialogs.Widget.Protocol

/-!
# The pager

A long text is shown through a viewport.  The text may bring its own styling,
which is passed through; lines may be numbered and may be broken at the right
edge.
-/

namespace TerminalDialogs
namespace Widget

open Modal Screen

/-- A pager. -/
structure Pager where
  options : Options.Pager
  viewport : Viewport := {}
  palette : Palette
  phase : Phase := .open
  width : Nat := 80
  height : Nat := 20
  deriving DecidableEq, Repr

namespace Pager

/-- The rows taken by title and hint. -/
def chrome (w : Pager) : Nat := (if w.options.title.isEmpty then 0 else 1) + 1

/-- The digits of the greatest line number. -/
def numberWidth (w : Pager) : Nat :=
  (Text.ofNat (max (Text.lines w.options.content).length 1)).length

/-- The columns for line numbers and the rule beside them. -/
def gutter (w : Pager) : Nat := if w.options.showLineNumbers then w.numberWidth + 3 else 0

/-- The gutter in front of a piece of a line, with room for so many digits; only
the first piece is numbered. -/
def gutterText (w : Pager) (digits line piece : Nat) : Text :=
  let number := if piece = 0 then Text.ofNat (line + 1) else []
  paint (Text.padLeft digits number ++ " │ ".toList) (Style.fg w.palette.dim)

/-- The rows of a line of the text, of the given width beside the gutter. -/
def lineRows (w : Pager) (digits width : Nat) (line : Text) (index : Nat) : List Text :=
  let pieces := if w.options.softWrap then Styled.wrap width line else [line]
  if w.options.showLineNumbers then
    pieces.zipIdx.map fun piece => w.gutterText digits index piece.2 ++ piece.1
  else pieces

/-- The rows of the whole text. -/
def contentRows (w : Pager) : List Text :=
  let digits := w.numberWidth
  let width := w.width - w.gutter
  (Text.lines w.options.content).zipIdx.flatMap fun line => w.lineRows digits width line.1 line.2

/-- Lays the text out for the room there is. -/
def layOut (w : Pager) : Pager :=
  let viewport := w.viewport.setSize w.width (max (w.height - w.chrome) 1)
  { w with viewport := viewport.setContent (Text.unrows w.contentRows) }

/-- The pager at first. -/
def make (options : Options.Pager) (palette : Palette) : Pager :=
  layOut { options, palette }

/-- Moves the viewport. -/
def scroll (w : Pager) (f : Viewport → Viewport) : Pager := { w with viewport := f w.viewport }

/-- What a key does. -/
def handleKey (w : Pager) (k : Key) : Pager :=
  if k.isCancel then { w with phase := .cancelled }
  else
    match k.code with
    | .char 'q' | .enter => { w with phase := .submitted }
    | .up | .char 'k' => w.scroll fun v => v.up 1
    | .down | .char 'j' => w.scroll fun v => v.down 1
    | .pageUp | .char 'b' => w.scroll fun v => v.up v.page
    | .pageDown | .char 'f' | .char ' ' => w.scroll fun v => v.down v.page
    | .char 'u' => w.scroll fun v => v.up v.halfPage
    | .char 'd' => w.scroll fun v => v.down v.halfPage
    | .home | .char 'g' => w.scroll Viewport.toTop
    | .endKey | .char 'G' => w.scroll Viewport.toBottom
    | _ => w

/-- What the pager yields. -/
def value (_ : Pager) : Value := .nothing

/-- Changes the room for the pager. -/
def setSize (w : Pager) (width height : Nat) : Pager := { w with width, height }.layOut

/-- The hint below the text. -/
def hint (w : Pager) : Text :=
  "↑/↓ scroll • q/enter close • ".toList ++
    Text.padLeft 3 (Text.ofNat w.viewport.progress.percent) ++ ['%']

/-- The pager as text. -/
def view (w : Pager) : Text :=
  let p := w.palette
  let title :=
    if w.options.title.isEmpty then []
    else [renderLines [[⟨w.options.title, boldStyle p.accent⟩]] w.width p]
  Text.unrows (title ++ w.viewport.visible.map (Styled.fit w.width) ++
    [renderLines [hintLine w.hint p] w.width p])

end Pager

end Widget
end TerminalDialogs
