import TerminalDialogs.Text

/-!
# Characters and escape sequences

A styled line mixes visible characters with escape sequences, which take no
room on the screen.  This module cuts a text into *tokens*: visible characters,
complete escape sequences, and at most one sequence that the end of the text
cuts off.

## Which sequences are recognised

* a control sequence: ESC, `[`, then everything up to a final character between
  `@` and `~`;
* a command: ESC, `]`, then everything up to BEL or up to ESC followed by a
  backslash;
* any other character after ESC ends the sequence at once.

The sequence is read by a machine (`Opening.next`) that either goes on or is
done, so no proper beginning of a complete sequence is complete: the machine
would have stopped there.  A text is read from left to right with that machine
as its only state, which makes the tokens of a concatenation the concatenation
of the tokens whenever the first part ends between sequences.
-/

namespace TerminalDialogs
namespace Styled

/-- The character that starts every escape sequence. -/
def esc : Char := '\x1b'

/-- The bell, which ends a command. -/
def bel : Char := '\x07'

/-- The sequence that returns to the default style. -/
def reset : Text := [esc, '[', '0', 'm']

/-- How an escape sequence goes on after the characters read so far. -/
inductive Opening where
  /-- Only ESC has been read. -/
  | bare
  /-- A control sequence, which waits for its final character. -/
  | control
  /-- A command; the flag says whether its last character was ESC. -/
  | command (afterEsc : Bool)
  deriving DecidableEq, Repr

/-- Whether a character ends a control sequence. -/
def isFinal (c : Char) : Bool := '@' ≤ c && c ≤ '~'

/-- One more character of a sequence; `none` when that character completes it. -/
def Opening.next : Opening → Char → Option Opening
  | .bare, c =>
      if c = '[' then some .control
      else if c = ']' then some (.command false)
      else none
  | .control, c => if isFinal c then none else some .control
  | .command afterEsc, c =>
      if c = bel ∨ (afterEsc = true ∧ c = '\\') then none else some (.command (c = esc))

/-- What a text consists of. -/
inductive Token where
  /-- A visible character. -/
  | char (c : Char)
  /-- A complete escape sequence. -/
  | escape (sequence : Text)
  /-- A sequence that the end of the text cuts off. -/
  | unfinished (sequence : Text)
  deriving DecidableEq, Repr

namespace Token

/-- The characters that the token stands for. -/
def text : Token → Text
  | .char c => [c]
  | .escape sequence => sequence
  | .unfinished sequence => sequence

/-- The visible character, if the token is one. -/
def visible? : Token → Option Char
  | .char c => some c
  | .escape _ => none
  | .unfinished _ => none

/-- Whether the token is a sequence that the end cuts off. -/
def isUnfinished : Token → Bool
  | .unfinished _ => true
  | _ => false

end Token

/-- Between sequences, or inside one together with its characters so far, the
last of them first. -/
abbrev Scan := Option (Opening × Text)

/-- The tokens of a text that is read from the given state on. -/
def scan : Scan → Text → List Token
  | none, [] => []
  | some (_, seen), [] => [.unfinished seen.reverse]
  | none, c :: rest =>
      if c = esc then scan (some (.bare, [esc])) rest else .char c :: scan none rest
  | some (opening, seen), c :: rest =>
      match opening.next c with
      | none => .escape (c :: seen).reverse :: scan none rest
      | some opening => scan (some (opening, c :: seen)) rest

/-- The tokens of a text. -/
def tokens (s : Text) : List Token := scan none s

/-- The characters that tokens stand for, one after the other. -/
def spell (ts : List Token) : Text := ts.flatMap Token.text

@[simp] theorem spell_nil : spell [] = [] := rfl

@[simp] theorem spell_cons (t : Token) (ts : List Token) :
    spell (t :: ts) = t.text ++ spell ts := rfl

@[simp] theorem spell_append (ts us : List Token) :
    spell (ts ++ us) = spell ts ++ spell us := by
  simp [spell]

/-- Reading a text and spelling its tokens gives back what was read. -/
theorem spell_scan (state : Scan) (s : Text) :
    spell (scan state s) = (state.elim [] fun p => p.2.reverse) ++ s := by
  induction s generalizing state with
  | nil =>
      cases state with
      | none => simp [scan]
      | some p => obtain ⟨opening, seen⟩ := p; simp [scan, Token.text]
  | cons c rest ih =>
      cases state with
      | none =>
          unfold scan
          split
          · next h => simp [ih, h]
          · simp [ih, Token.text]
      | some p =>
          obtain ⟨opening, seen⟩ := p
          unfold scan
          split
          · simp [ih, Token.text]
          · simp [ih]

@[simp] theorem spell_tokens (s : Text) : spell (tokens s) = s := by
  simp [tokens, spell_scan]

/-! ## Runs

For display, neighbouring visible characters are put together into one run. -/

/-- A maximal block of visible text, or one escape sequence. -/
inductive Run where
  /-- Visible text. -/
  | text (s : Text)
  /-- A complete escape sequence. -/
  | escape (sequence : Text)
  /-- A sequence that the end of the text cuts off. -/
  | unfinished (sequence : Text)
  deriving DecidableEq, Repr

/-- Puts a token in front of runs. -/
def Run.push : Token → List Run → List Run
  | .char c, .text s :: runs => .text (c :: s) :: runs
  | .char c, runs => .text [c] :: runs
  | .escape sequence, runs => .escape sequence :: runs
  | .unfinished sequence, runs => .unfinished sequence :: runs

/-- The runs of a text. -/
def runs (s : Text) : List Run := (tokens s).foldr Run.push []

/-- Whether a sequence sets the style: a control sequence with final `m`. -/
def isStyle (sequence : Text) : Bool :=
  [esc, '['].isPrefixOf sequence && sequence.getLast? == some 'm'

/-- Whether a sequence returns to the default style. -/
def isReset (sequence : Text) : Bool :=
  sequence == reset || sequence == [esc, '[', 'm']

/-- Whether a sequence is a command. -/
def isCommand (sequence : Text) : Bool := [esc, ']'].isPrefixOf sequence

/-- The visible characters of a text. -/
def strip (s : Text) : Text := (tokens s).filterMap Token.visible?

/-- The number of visible characters of a text. -/
def width (s : Text) : Nat := (strip s).length

/-- A text without its commands and without a sequence that its end cuts off. -/
def stripCommands (s : Text) : Text :=
  spell ((tokens s).filter fun
    | .char _ => true
    | .escape sequence => !isCommand sequence
    | .unfinished _ => false)

end Styled
end TerminalDialogs
