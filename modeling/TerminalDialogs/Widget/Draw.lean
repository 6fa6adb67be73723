import TerminalDialogs.Modal.Palette
import TerminalDialogs.Screen.Line

/-!
# What all widgets draw alike

A widget is drawn line by line on its palette.  Title and description come
first and hints last; a line that is not given is not drawn.
-/

namespace TerminalDialogs
namespace Widget

open Modal Screen

/-- A style that sets the foreground and makes text bold. -/
def boldStyle (c : Color) : Style := (Style.fg c).adding .bold

/-- The lines of title and description. -/
def headerLines (title description : Text) (p : Palette) : List Line :=
  (if title.isEmpty then [] else [[⟨title, boldStyle p.accent⟩]]) ++
    (if description.isEmpty then [] else [[⟨description, Style.fg p.dim⟩]])

/-- A line with a hint. -/
def hintLine (hint : Text) (p : Palette) : Line := [⟨hint, Style.fg p.dim⟩]

/-- Lines drawn one below the other. -/
def renderLines (lines : List Line) (width : Nat) (p : Palette) : Text :=
  paintRows (drawLines (max width 1) p.base lines)

end Widget
end TerminalDialogs
