import TerminalDialogs.Styled.Token

/-!
# Cutting styled lines by width

Widths count visible characters.  A line is cut into the part that holds its
first `n` visible characters (`take`) and the part that holds the others
(`skip`), and it is brought to an exact width by cutting or padding (`fit`).

## What happens to the style at a cut

The first part keeps every sequence that stands before its last character; what
stands after that character is dropped, so the caller has to reset.  The second
part must look as it did before the cut: the style sequences of the part that
was left out are written again in front of it, and a reset among them makes the
earlier ones void.  Sequences that are cut off by the end of the line go to
neither part, so they cannot swallow what is appended later.
-/

namespace TerminalDialogs
namespace Styled

/-- The tokens up to the `n`-th visible character, spelled. -/
def takeTokens : Nat → List Token → Text
  | 0, _ => []
  | _ + 1, [] => []
  | n + 1, .char c :: ts => c :: takeTokens n ts
  | n + 1, .escape sequence :: ts => sequence ++ takeTokens (n + 1) ts
  | n + 1, .unfinished _ :: ts => takeTokens (n + 1) ts

/-- The beginning of a line with its first `n` visible characters. -/
def take (n : Nat) (line : Text) : Text := takeTokens n (tokens line)

/-- The style sequences in force after one more sequence. -/
def carry (carried sequence : Text) : Text :=
  if isStyle sequence then
    if isReset sequence then [] else carried ++ sequence
  else carried

/-- Leaves out `n` visible characters: the style sequences that are still in
force there and the tokens that follow, or `none` if the line ends first. -/
def skipTokens : Nat → Text → List Token → Option (Text × List Token)
  | 0, carried, ts => some (carried, ts)
  | _ + 1, _, [] => none
  | n + 1, carried, .char _ :: ts => skipTokens n carried ts
  | n + 1, carried, .escape sequence :: ts => skipTokens (n + 1) (carry carried sequence) ts
  | n + 1, carried, .unfinished _ :: ts => skipTokens (n + 1) carried ts

/-- Tokens without a sequence that the end cuts off. -/
def finished (ts : List Token) : List Token := ts.filter fun t => !t.isUnfinished

/-- The end of a line without its first `n` visible characters, in the style it
had in the line. -/
def skip (n : Nat) (line : Text) : Text :=
  match skipTokens n [] (tokens line) with
  | none => []
  | some (carried, ts) =>
      let rest := spell (finished ts)
      if ts.any fun t => t.visible?.isSome then carried ++ rest else rest

/-- A line of exactly the given width, cut or padded with blanks, and ending in
a reset. -/
def fit (n : Nat) (line : Text) : Text :=
  if n < width line then take n line ++ reset
  else line ++ reset ++ Text.blanks (n - width line) ++ reset

end Styled
end TerminalDialogs
