/-!
# Text as a list of characters

Every screen line, option and answer of this library is a list of characters.
A list splits, appends and recurses definitionally, so the laws of the later
modules are laws of lists; strings appear only where bytes enter or leave the
program.

## Two ways to cut a text into lines

A *piece* is what stands between two separators, so a text has one piece more
than separators, and the empty text has one empty piece.  A *line* ends at a
line feed, which may follow a carriage return; a line feed at the very end of
the text closes the last line and opens none.  Screens are compared piece by
piece, while documents are read line by line, and the two differ exactly on a
final line feed and on carriage returns.
-/

namespace TerminalDialogs

/-- A text is the list of its characters. -/
abbrev Text := List Char

namespace Text

/-- The number `n` in decimal digits. -/
def ofNat (n : Nat) : Text := Nat.toDigits 10 n

theorem isDigit_of_mem_ofNat {c : Char} {n : Nat} (h : c ∈ ofNat n) : c.isDigit = true :=
  Nat.isDigit_of_mem_toDigits (by decide) (by decide) h

theorem notMem_ofNat {c : Char} (hc : c.isDigit = false) (n : Nat) : c ∉ ofNat n := fun h =>
  absurd (isDigit_of_mem_ofNat h) (Bool.eq_false_iff.mp hc)

/-- An integer in decimal digits, with a sign in front of a negative one. -/
def ofInt : Int → Text
  | .ofNat n => ofNat n
  | .negSucc n => '-' :: ofNat (n + 1)

/-- `n` blanks. -/
def blanks (n : Nat) : Text := List.replicate n ' '

@[simp] theorem length_blanks (n : Nat) : (blanks n).length = n := by simp [blanks]

/-- The pieces between the separators; there is always at least one. -/
def pieces (separator : Char) : Text → List Text
  | [] => [[]]
  | c :: rest =>
      if c = separator then [] :: pieces separator rest
      else
        match pieces separator rest with
        | [] => [[c]]
        | piece :: others => (c :: piece) :: others

theorem pieces_ne_nil (separator : Char) (s : Text) : pieces separator s ≠ [] := by
  cases s with
  | nil => simp [pieces]
  | cons c rest =>
      unfold pieces
      split
      · simp
      · split <;> simp

/-- The pieces between line feeds. -/
def rows (s : Text) : List Text := pieces '\n' s

/-- Texts with a separator between each two. -/
def join (separator : Text) : List Text → Text
  | [] => []
  | [piece] => piece
  | piece :: others => piece ++ separator ++ join separator others

@[simp] theorem join_nil (separator : Text) : join separator [] = [] := rfl

@[simp] theorem join_singleton (separator piece : Text) :
    join separator [piece] = piece := rfl

/-- Rows with a line feed between each two. -/
def unrows (pieces : List Text) : Text := join ['\n'] pieces

/-- A line without the carriage return that stands before its line feed. -/
def dropReturn (line : Text) : Text :=
  if line.getLast? = some '\r' then line.dropLast else line

/-- Closes every piece but the last, which is a line of its own unless it is
empty. -/
def closeLines : List Text → List Text
  | [] => []
  | [last] => if last = [] then [] else [last]
  | piece :: others => dropReturn piece :: closeLines others

/-- The lines of a document. -/
def lines (s : Text) : List Text := closeLines (rows s)

/-- What follows `front` in `s`, when `s` starts with `front`. -/
def after? : (front : Text) → (s : Text) → Option Text
  | [], s => some s
  | _ :: _, [] => none
  | a :: front, c :: s => if a = c then after? front s else none

/-- Whether `inner` occurs in `s` as a block. -/
def contains (inner : Text) : Text → Bool
  | [] => inner.isEmpty
  | c :: rest => inner.isPrefixOf (c :: rest) || contains inner rest

/-- The text before and after the first occurrence of a character. -/
def splitAt? (separator : Char) : Text → Option (Text × Text)
  | [] => none
  | c :: rest =>
      if c = separator then some ([], rest)
      else (splitAt? separator rest).map fun cut => (c :: cut.1, cut.2)

/-- Writes a text to the left edge of a field of the given width. -/
def padRight (width : Nat) (s : Text) : Text := s ++ blanks (width - s.length)

/-- Writes a text to the right edge of a field of the given width. -/
def padLeft (width : Nat) (s : Text) : Text := blanks (width - s.length) ++ s

/-- Removes the longest run at both ends whose characters all satisfy `p`. -/
def trimBoth (p : Char → Bool) (s : Text) : Text :=
  ((s.dropWhile p).reverse.dropWhile p).reverse

/-- The maximal runs of characters that do not satisfy `p`, in order. -/
def words (p : Char → Bool) (s : Text) : List Text :=
  let add (c : Char) (state : Text × List Text) : Text × List Text :=
    if p c then ([], if state.1.isEmpty then state.2 else state.1 :: state.2)
    else (c :: state.1, state.2)
  let state := s.foldr add ([], [])
  if state.1.isEmpty then state.2 else state.1 :: state.2

end Text

end TerminalDialogs
