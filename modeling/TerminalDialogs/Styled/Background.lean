import TerminalDialogs.Screen.Color
import TerminalDialogs.Styled.Token

/-!
# Keeping a background colour through resets

A dialog is drawn over its own background, but its contents do not know that
background: whatever they reset falls back to the terminal's colour and leaves
a hole.  `restore` writes the dialog's background after each style sequence
that gives the background up.

The sequences looked for are control sequences of digits and semicolons with
final `m`.  They are found by reading the text once from left to right, also
inside longer sequences.  A sequence that the background already follows is
left as it is, so restoring twice is restoring once.
-/

namespace TerminalDialogs
namespace Styled

/-- Whether a character may stand among the parameters of a style sequence. -/
def isParameter (c : Char) : Bool := ('0' ≤ c && c ≤ '9') || c == ';'

/-- Whether a style sequence with these parameters gives the background up: an
empty list, the list `0`, or any list with a `49` in it. -/
def givesUpBackground (parameters : Text) : Bool :=
  parameters == [] || parameters == ['0'] ||
    (Text.pieces ';' parameters).any fun p => p == ['4', '9']

/-- The sequence that sets the background to a colour. -/
def backgroundSequence (c : Screen.Rgb) : Text :=
  [esc] ++ "[48;2;".toList ++ Text.ofNat c.red.toNat ++ [';'] ++ Text.ofNat c.green.toNat ++
    [';'] ++ Text.ofNat c.blue.toNat ++ ['m']

/-- How far a style sequence has been read. -/
inductive StyleScan where
  /-- Outside. -/
  | outside
  /-- ESC has been read. -/
  | opened
  /-- The parameters read so far, the last character first. -/
  | parameters (seen : Text)
  deriving DecidableEq, Repr

/-- The state after a character that does not end a style sequence. -/
def StyleScan.next : StyleScan → Char → StyleScan
  | .opened, '[' => .parameters []
  | .parameters seen, c =>
      if isParameter c then .parameters (c :: seen)
      else if c = esc then .opened
      else .outside
  | _, c => if c = esc then .opened else .outside

/-- What is written after a style sequence in front of `rest`. -/
def restoration (background seen rest : Text) : Text :=
  if givesUpBackground seen.reverse && !background.isPrefixOf rest then background else []

/-- Restores the background in a text read from the given state on. -/
def restoreFrom (background : Text) : StyleScan → Text → Text
  | _, [] => []
  | .parameters seen, 'm' :: rest =>
      'm' :: (restoration background seen rest ++ restoreFrom background .outside rest)
  | state, c :: rest => c :: restoreFrom background (state.next c) rest

/-- Writes the background after every style sequence that gives it up. -/
def restore (background s : Text) : Text :=
  if background.isEmpty then s else restoreFrom background .outside s

end Styled
end TerminalDialogs
