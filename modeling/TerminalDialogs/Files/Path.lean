import TerminalDialogs.Text

/-!
# Paths

A path is a text whose pieces are separated by slashes.  Empty pieces and single
dots mean nothing, except that a single dot may start a path; so a path can be
written in many ways.  Going to the parent cuts the text of the path and keeps
the way in which the rest is written.
-/

namespace TerminalDialogs
namespace Path

/-- Whether a path starts at the root. -/
def isAbsolute (p : Text) : Bool := p.head? == some '/'

/-- Whether the piece at some position means something. -/
def isComponent (position : Nat) (piece : Text) : Bool :=
  piece != [] && (piece != ['.'] || position == 0)

/-- Pieces without those at the end that mean nothing. -/
def trimPieces (pieces : List Text) : List Text :=
  let numbered := pieces.zipIdx.reverse.dropWhile fun p => !isComponent p.2 p.1
  numbered.reverse.map Prod.fst

/-- The path that pieces spell, which may be the root itself. -/
def ofPieces (absolute : Bool) (pieces : List Text) : Text :=
  match pieces with
  | [] => if absolute then ['/'] else []
  | pieces => Text.join ['/'] pieces

/-- The parent of a path; the root and the empty path have none. -/
def parent? (p : Text) : Option Text :=
  match trimPieces (Text.pieces '/' p) with
  | [] => none
  | pieces => some (ofPieces (isAbsolute p) (trimPieces pieces.dropLast))

/-- A path and its parents, at most as many as `fuel`. -/
def upward : (fuel : Nat) → Text → List Text
  | 0, _ => []
  | fuel + 1, p =>
      match parent? p with
      | none => []
      | some parent => p :: upward fuel parent

/-- A path and its parents, the innermost first, without the root and the empty
path.  Each parent is shorter than its path. -/
def ancestors (p : Text) : List Text := upward (p.length + 1) p

/-- The name of what a path leads to, unless it ends in dots. -/
def name? (p : Text) : Option Text :=
  match (trimPieces (Text.pieces '/' p)).getLast? with
  | none => none
  | some piece => if piece = ['.'] ∨ piece = ['.', '.'] then none else some piece

/-- The path of a name inside a directory. -/
def child (directory name : Text) : Text :=
  if isAbsolute name then name
  else if directory.isEmpty then name
  else if directory.getLast? = some '/' then directory ++ name
  else directory ++ ['/'] ++ name

/-- The ending of a name: what follows its last dot, unless that dot is the
first character. -/
def extension? (name : Text) : Option Text :=
  let ending := name.reverse.takeWhile (· != '.')
  if name = ['.', '.'] then none
  else if ending.length + 1 < name.length then some ending.reverse
  else none

end Path
end TerminalDialogs
