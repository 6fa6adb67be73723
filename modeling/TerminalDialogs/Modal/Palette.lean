import TerminalDialogs.Screen.Style
import TerminalDialogs.Styled.Background

/-!
# Colours by role

Widgets are drawn with a palette that names colours by their role.  A widget
that owns the terminal keeps the terminal's own colours for text and
background; a widget in a dialog has the dialog's background, white text and
the accent that the settings give.
-/

namespace TerminalDialogs
namespace Modal

open Screen

/-- The colours of a widget. -/
structure Palette where
  /-- Behind everything. -/
  background : Color
  /-- Text. -/
  text : Color
  /-- Hints, descriptions and what is not selected. -/
  dim : Color
  /-- Titles and the cursor. -/
  accent : Color
  /-- What is selected. -/
  highlight : Color
  /-- Names and labels of second rank. -/
  secondary : Color
  success : Color
  failure : Color
  warning : Color
  /-- Separating rules. -/
  rule : Color
  deriving DecidableEq, Repr

/-- A colour triple. -/
def rgb (red green blue : UInt8) : Color := .rgb ⟨red, green, blue⟩

namespace Palette

/-- The colours of a widget that owns the terminal. -/
def standalone : Palette where
  background := .default
  text := .default
  dim := rgb 0x6B 0x72 0x80
  accent := rgb 0x7C 0x3A 0xED
  highlight := rgb 0xA7 0x8B 0xFA
  secondary := rgb 0x3B 0x82 0xF6
  success := rgb 0x10 0xB9 0x81
  failure := rgb 0xEF 0x44 0x44
  warning := rgb 0xF5 0x9E 0x0B
  rule := rgb 0x37 0x41 0x51

/-- The colours of a widget in a dialog. -/
def dialog (background accent : Color) : Palette :=
  { standalone with background, accent, text := rgb 0xFF 0xFF 0xFF }

/-- The colour of text on the accent. -/
def onAccent (p : Palette) : Color :=
  match p.background with
  | .default => .named .black false
  | background => background

/-- The style of everything that has no style of its own. -/
def base (p : Palette) : Style := { foreground := some p.text, background := some p.background }

end Palette

/-- The colours of a dialog. -/
structure Theme where
  background : Rgb
  border : Rgb
  accent : Rgb
  deriving DecidableEq, Repr

namespace Theme

/-- The colour given for some role, or a complaint about it. -/
def color (role given : Text) : Except Text Rgb :=
  match Rgb.ofHex? given with
  | some c => .ok c
  | none => .error ("Invalid ".toList ++ role ++ " color: ".toList ++ given)

/-- The theme with the given colours. -/
def ofHex (background border accent : Text) : Except Text Theme := do
  let background ← color "modal background".toList background
  let border ← color "modal border".toList border
  let accent ← color "accent".toList accent
  pure { background, border, accent }

/-- The colours of a widget in the dialog. -/
def palette (t : Theme) : Palette := Palette.dialog (.rgb t.background) (.rgb t.accent)

/-- The sequence that selects the dialog's background. -/
def backgroundSequence (t : Theme) : Text := Styled.backgroundSequence t.background

/-- The colour of the dialog's border. -/
def borderColor (t : Theme) : Color := .rgb t.border

end Theme

end Modal
end TerminalDialogs
