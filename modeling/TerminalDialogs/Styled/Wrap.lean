import TerminalDialogs.Styled.Cut

/-!
# Breaking styled lines

A line that is too wide is broken into pieces of the given width; the last one
may be shorter.  Each piece is cut from the whole line, so it starts with the
style that is in force there.
-/

namespace TerminalDialogs
namespace Styled

/-- The pieces of a line from a column on, when the line has so many columns. -/
def pieces (width total : Nat) (line : Text) (start : Nat) : List Text :=
  if 0 < width ∧ start < total then
    take width (skip start line) :: pieces width total line (start + width)
  else []
termination_by total - start

/-- The pieces of a line of the given width; in no width at all the line stays
whole. -/
def wrap (width : Nat) (line : Text) : List Text :=
  let total := Styled.width line
  if width = 0 ∨ total ≤ width then [line] else pieces width total line 0

end Styled
end TerminalDialogs
