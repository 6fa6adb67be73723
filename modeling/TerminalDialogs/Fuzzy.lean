import TerminalDialogs.Number.Significant
import TerminalDialogs.Text.Blank
import TerminalDialogs.Text.Case

/-!
# Finding a query in texts

A query matches a text if its characters occur in the text in the same order,
whatever stands between them; upper and lower case count as the same.  Of all
ways to find them the first one is taken, character by character.

## Scores

A match has a score, and a lower score is better.  Characters found next to
each other lower it, the more the longer the run; a character at the start of a
word lowers it a little; skipped characters and late positions raise it.  The
bonus for the start of a word is smaller than the smallest one for a run.

Scores are sums of whole numbers and tenths.  Since tenths are not exact in
binary, sums are rounded as they are formed, and which of two texts comes first
can depend on it.  The scoring is therefore written over an arbitrary
arithmetic: `Arithmetic.rounded` is the one by which texts are ordered, and
`Arithmetic.exact` counts in tenths without rounding.
-/

namespace TerminalDialogs
namespace Fuzzy

/-- What a score is made of. -/
structure Arithmetic where
  add : Int → Int → Int
  whole : Int → Int
  tenths : Nat → Int

namespace Arithmetic

/-- Scores as exact numbers of tenths. -/
def exact : Arithmetic where
  add a b := a + b
  whole n := 10 * n
  tenths n := Int.ofNat n

/-- The number of bits behind the point of a rounded score. -/
def fractionBits : Nat := 56

/-- One tenth, as near as significant bits allow. -/
def tenth : Nat := Number.nearestEven (Nat.pow 2 fractionBits) 10

/-- Scores with a fixed number of significant bits, as counts of the smallest
fraction. -/
def rounded : Arithmetic where
  add a b := Number.roundSigned (a + b)
  whole n := n * Int.ofNat (Nat.pow 2 fractionBits)
  tenths n := Int.ofNat (Number.roundSignificant (n * tenth))

end Arithmetic

/-- A score in whole millionths, a half rounded away from zero. -/
def millionths (score : Int) : Int :=
  let unit := Nat.pow 2 Arithmetic.fractionBits
  let n := (2 * score.natAbs * 1000000 + unit) / (2 * unit)
  if score < 0 then -Int.ofNat n else Int.ofNat n

/-- A query found in a text. -/
structure Match where
  score : Int := 0
  /-- The positions of the characters that were found. -/
  positions : List Nat := []
  deriving DecidableEq, Repr

/-- Whether a word starts behind a character. -/
def isBoundary (c : Char) : Bool :=
  Text.isBlank c || c == '-' || c == '_' || c == '.' || c == '/' || c == ':'

/-- How far the search has come. -/
structure Search where
  /-- The position of the next character of the text. -/
  position : Nat := 0
  /-- The character in front of it. -/
  previous : Option Char := none
  /-- The position of the last character found. -/
  last : Option Nat := none
  /-- How many characters in a row have been found next to each other. -/
  run : Nat := 0
  score : Int := 0
  deriving DecidableEq, Repr

/-- What adjacency and gaps contribute when a character is found: the run and
the change of the score. -/
def Search.step (s : Search) : Nat × Option Int :=
  match s.last with
  | none => (0, none)
  | some last =>
      if last + 1 = s.position then (s.run + 1, some (-5 * Int.ofNat (s.run + 1)))
      else (0, some (2 * Int.ofNat (s.position - last - 1)))

/-- Whether the next character starts a word. -/
def Search.atBoundary (s : Search) : Bool :=
  match s.previous with
  | none => true
  | some c => isBoundary c

/-- The score after the next character is found. -/
def Search.scored (A : Arithmetic) (s : Search) : Int :=
  let score :=
    match s.step.2 with
    | none => s.score
    | some change => A.add s.score (A.whole change)
  let score := if s.atBoundary then A.add score (A.whole (-4)) else score
  A.add score (A.tenths s.position)

/-- The search after a character that is not looked for. -/
def Search.pass (s : Search) (c : Char) : Search :=
  { s with position := s.position + 1, previous := some c }

/-- The search after a character that is found. -/
def Search.found (A : Arithmetic) (s : Search) (c : Char) : Search :=
  { position := s.position + 1
    previous := some c
    last := some s.position
    run := s.step.1
    score := s.scored A }

/-- Looks for the characters of a query in a text, both folded. -/
def search (A : Arithmetic) : Search → (query text : Text) → Option Match
  | s, [], _ => some ⟨s.score, []⟩
  | _, _ :: _, [] => none
  | s, q :: query, c :: text =>
      if c = q then
        (search A (s.found A c) query text).map fun m =>
          { m with positions := s.position :: m.positions }
      else search A (s.pass c) (q :: query) text

/-- The match of a query in a text, its characters in order.  A text that is shorter than the
query is not searched. -/
def subsequence (A : Arithmetic) (query text : Text) : Option Match :=
  let query := Text.fold query
  if query.isEmpty then some {}
  else
    let text := Text.fold text
    if text.length < query.length then none else search A {} query text

/-- The first position where a text continues with a block. -/
def blockAt? (block : Text) : Text → Option Nat
  | [] => if block.isEmpty then some 0 else none
  | c :: rest =>
      if block.isPrefixOf (c :: rest) then some 0 else (blockAt? block rest).map (· + 1)

/-- The match of a query in a text as one block. -/
def substring (A : Arithmetic) (query text : Text) : Option Match :=
  let block := Text.fold query
  if block.isEmpty then some {}
  else
    (blockAt? block (Text.fold text)).map fun start =>
      ⟨A.whole (Int.ofNat start), (List.range block.length).map (· + start)⟩

/-- An item that matches: its position in the list, and how. -/
structure Ranked where
  index : Nat
  score : Int
  positions : List Nat
  deriving DecidableEq, Repr

/-- Sorted numbers, each once. -/
def dedupSorted : List Nat → List Nat
  | [] => []
  | [a] => [a]
  | a :: b :: rest => if a = b then dedupSorted (b :: rest) else a :: dedupSorted (b :: rest)

/-- Looks for all words of a query in a text, adding up the scores. -/
def allWords (A : Arithmetic) : List Text → Match → Text → Option Match
  | [], found, _ => some found
  | word :: words, found, text =>
      match subsequence A word text with
      | none => none
      | some m =>
          allWords A words ⟨A.add found.score m.score, found.positions ++ m.positions⟩ text

/-- How an item matches a query that is not blank. -/
def matchItem (A : Arithmetic) (fuzzy : Bool) (query text : Text) : Option Match :=
  if fuzzy then
    (allWords A (Text.blankWords query) {} text).map fun m =>
      { m with positions := dedupSorted (m.positions.mergeSort (· ≤ ·)) }
  else substring A (Text.trim query) text

/-- The items that match a query, in the order of the list. -/
def survivors (A : Arithmetic) (items : List Text) (query : Text) (fuzzy : Bool) : List Ranked :=
  items.zipIdx.filterMap fun item =>
    if (Text.blankWords query).isEmpty then some ⟨item.2, 0, []⟩
    else (matchItem A fuzzy query item.1).map fun m => ⟨item.2, m.score, m.positions⟩

/-- The items that match a query, better ones first if they are to be sorted;
items that are equally good keep the order of the list. -/
def rank (A : Arithmetic) (items : List Text) (query : Text) (fuzzy sort : Bool) : List Ranked :=
  let found := survivors A items query fuzzy
  if sort && !(Text.blankWords query).isEmpty then found.mergeSort fun a b => a.score ≤ b.score
  else found

end Fuzzy
end TerminalDialogs
