import TerminalDialogs.Text

/-!
# Patterns

A pattern is a list of pieces, each of which matches one character of a kind or
any run of characters.  A text matches as a whole, or its beginning or its end
is cut off where it matches.
-/

namespace TerminalDialogs
namespace Command

/-- A character of a pattern; a quoted one stands for itself. -/
structure PatternChar where
  char : Char
  quoted : Bool
  deriving DecidableEq, Repr

namespace Pattern

/-- Characters between two ends. -/
structure Interval where
  low : Char
  high : Char
  deriving DecidableEq, Repr

/-- A piece of a pattern. -/
inductive Piece where
  /-- Any characters. -/
  | many
  /-- Any one character. -/
  | one
  | char (c : Char)
  /-- One character of some intervals, or one that is in none of them. -/
  | among (negated : Bool) (intervals : List Interval)
  deriving DecidableEq, Repr

/-- The intervals of a class of characters. -/
def classIntervals (name : String) : List Interval :=
  match name with
  | "digit" => [⟨'0', '9'⟩]
  | "lower" => [⟨'a', 'z'⟩]
  | "upper" => [⟨'A', 'Z'⟩]
  | "alpha" => [⟨'a', 'z'⟩, ⟨'A', 'Z'⟩]
  | "alnum" => [⟨'0', '9'⟩, ⟨'a', 'z'⟩, ⟨'A', 'Z'⟩]
  | "xdigit" => [⟨'0', '9'⟩, ⟨'a', 'f'⟩, ⟨'A', 'F'⟩]
  | "blank" => [⟨' ', ' '⟩, ⟨'\t', '\t'⟩]
  | "space" => [⟨' ', ' '⟩, ⟨'\t', '\x0d'⟩]
  | "punct" => [⟨'!', '/'⟩, ⟨':', '@'⟩, ⟨'[', '\x60'⟩, ⟨'\x7b', '~'⟩]
  | "cntrl" => [⟨'\x00', '\x1f'⟩, ⟨'\x7f', '\x7f'⟩]
  | "print" => [⟨' ', '~'⟩]
  | "graph" => [⟨'!', '~'⟩]
  | _ => []

/-- The intervals between brackets and what is behind the closing one, `seen`
being the intervals before. -/
def intervals : (fuel : Nat) → (seen : List Interval) → List PatternChar →
    Option (List Interval × List PatternChar)
  | 0, _, _ => none
  | _ + 1, _, [] => none
  | fuel + 1, seen, p :: rest =>
      if p = ⟨']', false⟩ && !seen.isEmpty then some (seen, rest)
      else
        match p, rest with
        | ⟨'[', false⟩, ⟨':', _⟩ :: inside =>
            let name := (inside.takeWhile fun p => p.char.isAlpha).map PatternChar.char
            match inside.drop name.length with
            | ⟨':', _⟩ :: ⟨']', _⟩ :: behind =>
                intervals fuel (seen ++ classIntervals (String.ofList name)) behind
            | _ => intervals fuel (seen ++ [⟨'[', '['⟩]) rest
        | low, ⟨'-', false⟩ :: high :: behind =>
            if high = ⟨']', false⟩ then intervals fuel (seen ++ [⟨low.char, low.char⟩]) rest
            else intervals fuel (seen ++ [⟨low.char, high.char⟩]) behind
        | low, _ => intervals fuel (seen ++ [⟨low.char, low.char⟩]) rest

/-- The pieces of a pattern. -/
def pieces : (fuel : Nat) → List PatternChar → List Piece
  | 0, _ => []
  | _ + 1, [] => []
  | fuel + 1, p :: rest =>
      if p.quoted then .char p.char :: pieces fuel rest
      else
        match p.char with
        | '*' => .many :: pieces fuel rest
        | '?' => .one :: pieces fuel rest
        | '[' =>
            let negated := rest.head? = some ⟨'!', false⟩ || rest.head? = some ⟨'^', false⟩
            match intervals (rest.length + 1) [] (if negated then rest.tail else rest) with
            | some (inside, behind) => .among negated inside :: pieces fuel behind
            | none => .char '[' :: pieces fuel rest
        | c => .char c :: pieces fuel rest

/-- Whether a piece matches a character. -/
def Piece.accepts (c : Char) : Piece → Bool
  | .many => true
  | .one => true
  | .char d => c == d
  | .among negated inside => (inside.any fun i => i.low ≤ c && c ≤ i.high) != negated

/-- Whether a text matches pieces. -/
def accepts : List Piece → Text → Bool
  | [], s => s.isEmpty
  | .many :: rest, s => (List.range (s.length + 1)).any fun n => accepts rest (s.drop n)
  | piece :: rest, c :: s => piece.accepts c && accepts rest s
  | _ :: _, [] => false

end Pattern

/-- A pattern. -/
abbrev Pattern := List Pattern.Piece

/-- The pattern that characters spell. -/
def Pattern.ofChars (s : List PatternChar) : Pattern := pieces (s.length + 1) s

/-- A text without the part at its beginning that matches: the longest one, or
the shortest. -/
def Pattern.cutFront (p : Pattern) (longest : Bool) (s : Text) : Text :=
  let lengths := List.range (s.length + 1)
  let fits (n : Nat) : Bool := accepts p (s.take n)
  s.drop (((if longest then lengths.reverse else lengths).find? fits).getD 0)

/-- A text without the part at its end that matches: the longest one, or the
shortest. -/
def Pattern.cutBack (p : Pattern) (longest : Bool) (s : Text) : Text :=
  let lengths := List.range (s.length + 1)
  let fits (n : Nat) : Bool := accepts p (s.drop n)
  s.take (((if longest then lengths else lengths.reverse).find? fits).getD s.length)

end Command
end TerminalDialogs
