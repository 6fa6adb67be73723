import TerminalDialogs.Options.Kinds
import TerminalDialogs.Widget.Draw
import TerminalDialogs.Widget.Protocol

/-!
# The question

Two buttons, one of which has the focus.  Enter submits it; Y and N submit
their own answer.
-/

namespace TerminalDialogs
namespace Widget

open Modal Screen

/-- A question. -/
structure Confirm where
  options : Options.Confirm
  /-- Whether the positive button has the focus. -/
  choice : Bool
  palette : Palette
  phase : Phase := .open
  width : Nat := 80
  deriving DecidableEq, Repr

namespace Confirm

/-- The question at first. -/
def make (options : Options.Confirm) (palette : Palette) : Confirm :=
  { options, palette, choice := options.initial }

/-- What a key does. -/
def handleKey (w : Confirm) (k : Key) : Confirm :=
  if k.isCancel then { w with phase := .cancelled }
  else
    match k.code with
    | .left | .right | .tab | .backTab => { w with choice := !w.choice }
    | .char 'h' => { w with choice := true }
    | .char 'l' => { w with choice := false }
    | .char 'y' | .char 'Y' => { w with choice := true, phase := .submitted }
    | .char 'n' | .char 'N' => { w with choice := false, phase := .submitted }
    | .enter => { w with phase := .submitted }
    | _ => w

/-- What the question yields. -/
def value (w : Confirm) : Value := .bool w.choice

/-- Changes the room for the question. -/
def setSize (w : Confirm) (width _height : Nat) : Confirm := { w with width }

/-- A label, or its default. -/
def label (given : Text) (default : String) : Text :=
  if given.isEmpty then default.toList else given

/-- A button. -/
def button (p : Palette) (label : Text) (focused : Bool) : Span :=
  { text := "  ".toList ++ label ++ "  ".toList
    style :=
      if focused then
        { foreground := some p.onAccent, background := some p.accent, add := Modifiers.only .bold }
      else Style.fg p.dim }

/-- The question as text. -/
def view (w : Confirm) : Text :=
  let p := w.palette
  let buttons : Line :=
    [button p (label w.options.affirmative "Yes") w.choice, ⟨[' '], {}⟩,
      button p (label w.options.negative "No") (!w.choice)]
  renderLines (headerLines w.options.title w.options.description p ++ [buttons]) w.width p

end Confirm

end Widget
end TerminalDialogs
