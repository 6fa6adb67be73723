import TerminalDialogs.Command.Pattern
import TerminalDialogs.Text

/-!
# Fields

What a word stands for is cut into fields at the blanks that come out of
parameters and scripts.  Everything else in a word stays together, and what was
written in quotes is there even if it is empty.
-/

namespace TerminalDialogs
namespace Command

/-- A piece of what a word stands for. -/
inductive Piece where
  /-- A character; one that `splits` may separate fields. -/
  | char (c : Char) (quoted splits : Bool)
  /-- The sign of a field that is there even if it is empty. -/
  | mark
  /-- The gap between two arguments. -/
  | gap
  deriving DecidableEq, Repr

namespace Piece

/-- The pieces of a value. -/
def ofValue (quoted : Bool) (s : Text) : List Piece := s.map fun c => .char c quoted (!quoted)

/-- The pieces of several values, which stay apart. -/
def ofValues (quoted : Bool) (values : List Text) : List Piece :=
  let one (s : Text) : List Piece := if quoted then .mark :: ofValue true s else ofValue false s
  (values.map one).intersperse [.gap] |>.flatten

/-- Pieces that stand for a parameter, so that what is not quoted splits. -/
def loosened (quoted : Bool) (pieces : List Piece) : List Piece :=
  pieces.map fun p =>
    match p with
    | .char c isQuoted splits => .char c isQuoted (splits || !(isQuoted || quoted))
    | p => p

/-- The text of pieces that are not cut. -/
def text (pieces : List Piece) : Text :=
  pieces.filterMap fun p =>
    match p with
    | .char c _ _ => some c
    | .mark => none
    | .gap => some ' '

/-- The characters of a pattern. -/
def pattern (pieces : List Piece) : List PatternChar :=
  pieces.filterMap fun p =>
    match p with
    | .char c quoted _ => some ⟨c, quoted⟩
    | .mark => none
    | .gap => some ⟨' ', true⟩

/-- The state of cutting. -/
structure Cutting where
  /-- The fields, the last one first. -/
  done : List Text := []
  /-- The characters of the present field, the last one first. -/
  current : Option Text := none
  /-- Whether the last field was ended by a blank. -/
  isClosed : Bool := false

/-- Ends the present field. -/
def Cutting.close (c : Cutting) (byBlank : Bool) : Cutting :=
  match c.current with
  | some s => { done := s.reverse :: c.done, isClosed := byBlank }
  | none => c

/-- One piece. -/
def Cutting.add (separators : Text) (c : Cutting) : Piece → Cutting
  | .mark => { c with current := some (c.current.getD []), isClosed := false }
  | .gap => c.close false
  | .char x _ splits =>
      if splits && separators.elem x then
        if x == ' ' || x == '\t' || x == '\n' then c.close true
        else if c.current.isNone && c.isClosed then { c with isClosed := false }
        else ({ c with current := some (c.current.getD []) } : Cutting).close false
      else { c with current := some (x :: c.current.getD []), isClosed := false }

/-- The fields of pieces. -/
def fields (separators : Text) (pieces : List Piece) : List Text :=
  ((pieces.foldl (Cutting.add separators) {}).close false).done.reverse

end Piece

end Command
end TerminalDialogs
