import TerminalDialogs.Proofs.Styled.Sequence
import TerminalDialogs.Proofs.Text.Rows

/-!
# The ground behind the characters

A terminal reads a style sequence as a list of numbers.  For the background, 0
and 49 return to the default, 40 to 47 and 100 to 107 set one of the terminal's
own colours, and 48 sets the colour that the numbers behind it describe.  The
numbers behind a 38 describe a colour as well, but one for the characters.  An
empty parameter counts as 0, and the last parameter that says anything wins.

`grounds` is this reading as a styling, so the cells of a line are its
characters with what is behind them.
-/

namespace TerminalDialogs
namespace Styled

/-- What is behind a character. -/
inductive Ground where
  /-- The default of the terminal. -/
  | default
  /-- One of the terminal's sixteen colours. -/
  | named (n : Nat)
  /-- A colour of the palette. -/
  | indexed (n : Nat)
  /-- A colour by its channels. -/
  | rgb (red green blue : Nat)
  deriving DecidableEq, Repr

namespace Ground

/-- The ground of a colour. -/
def ofColor (c : Screen.Rgb) : Ground := .rgb c.red.toNat c.green.toNat c.blue.toNat

/-- What is seen when the default of the terminal is covered. -/
def beneath (cover : Ground) : Ground → Ground
  | .default => cover
  | g => g

theorem beneath_of_ne {g : Ground} (h : g ≠ .default) (cover : Ground) : cover.beneath g = g := by
  cases g with
  | default => exact absurd rfl h
  | named n => rfl
  | indexed n => rfl
  | rgb r g b => rfl

/-- What a number alone says about the ground, if anything. -/
def ofNumber? (n : Nat) : Option Ground :=
  if n = 0 ∨ n = 49 then some .default
  else if 40 ≤ n ∧ n ≤ 47 then some (.named (n - 40))
  else if 100 ≤ n ∧ n ≤ 107 then some (.named (n - 92))
  else none

/-- What a list of numbers says about the ground, if anything. -/
def ofNumbers? : List Nat → Option Ground
  | [] => none
  | 38 :: 5 :: _ :: rest => ofNumbers? rest
  | 38 :: 2 :: _ :: _ :: _ :: rest => ofNumbers? rest
  | 48 :: 5 :: n :: rest => ofNumbers? rest <|> some (.indexed n)
  | 48 :: 2 :: r :: g :: b :: rest => ofNumbers? rest <|> some (.rgb r g b)
  | n :: rest => ofNumbers? rest <|> ofNumber? n

/-- What the parameters of a style sequence say about the ground, if anything. -/
def ofParameters? (parameters : Text) : Option Ground :=
  ofNumbers? ((Text.pieces ';' parameters).map fun digits => Nat.ofDigitChars 10 digits 0)

end Ground

/-! ## Sequences -/

/-- The parameters of a style sequence, if it has no other characters. -/
def parametersOf? (sequence : Text) : Option Text :=
  let body := (sequence.drop 2).dropLast
  if isStyle sequence && body.all isParameter then some body else none

/-- What a sequence says about the ground, if anything. -/
def Ground.ofSequence? (sequence : Text) : Option Ground :=
  (parametersOf? sequence).bind Ground.ofParameters?

/-- The styling that only looks at the ground. -/
def grounds : Styling Ground where
  start := .default
  apply g sequence := (Ground.ofSequence? sequence).getD g
  apply_reset _ := rfl
  apply_bareReset _ := rfl

theorem dropLast_drop_controlSequence (body : Text) (final : Char) :
    ((controlSequence body final).drop 2).dropLast = body :=
  List.dropLast_concat

theorem parametersOf?_controlSequence {body : Text} (h : body.all isParameter = true) :
    parametersOf? (controlSequence body 'm') = some body := by
  rw [parametersOf?, dropLast_drop_controlSequence, isStyle_controlSequence, h]
  rfl

/-- Only style sequences have parameters. -/
theorem parametersOf?_of_not_isStyle {sequence : Text} (h : isStyle sequence = false) :
    parametersOf? sequence = none := by
  rw [parametersOf?, h]
  rfl

/-- A style sequence with a character that is no parameter has none at all. -/
theorem parametersOf?_of_stray {body : Text} (h : body.all isParameter = false) (final : Char) :
    parametersOf? (controlSequence body final) = none := by
  rw [parametersOf?, dropLast_drop_controlSequence, h, Bool.and_false]
  rfl

theorem grounds_after (g : Ground) (sequence : Text) :
    grounds.after g sequence = (Ground.ofSequence? sequence).getD g := by
  rw [Styling.after]
  by_cases h : isStyle sequence = true
  · rw [if_pos h]
    rfl
  · rw [if_neg h, Ground.ofSequence?, parametersOf?_of_not_isStyle (Bool.eq_false_iff.mpr h)]
    rfl

/-- A sequence without parameters leaves the ground alone. -/
theorem grounds_after_of_no_parameters {sequence : Text} (h : parametersOf? sequence = none)
    (g : Ground) : grounds.after g sequence = g := by
  rw [grounds_after, Ground.ofSequence?, h]
  rfl

/-! ## The sequence that sets the ground to a colour -/

/-- The parameters of the sequence that sets the ground to a colour. -/
def colorParameters (c : Screen.Rgb) : Text :=
  Text.join [';'] ([48, 2, c.red.toNat, c.green.toNat, c.blue.toNat].map Text.ofNat)

theorem backgroundSequence_eq (c : Screen.Rgb) :
    backgroundSequence c = controlSequence (colorParameters c) 'm' := by
  simp only [backgroundSequence, controlSequence, colorParameters, List.map_cons, List.map_nil,
    Text.join, List.append_assoc, List.cons_append]
  rfl

theorem all_isParameter_colorParameters (c : Screen.Rgb) :
    (colorParameters c).all isParameter = true := by
  simp only [colorParameters, List.map_cons, List.map_nil, Text.join, List.all_append,
    all_isParameter_ofNat]
  rfl

theorem whole_backgroundSequence (c : Screen.Rgb) : Whole (backgroundSequence c) := by
  rw [backgroundSequence_eq]
  exact whole_controlSequence (all_isParameter_colorParameters c)

theorem strip_backgroundSequence (c : Screen.Rgb) : strip (backgroundSequence c) = [] := by
  rw [backgroundSequence_eq, strip_controlSequence (all_isParameter_colorParameters c)]

theorem notMem_backgroundSequence {d : Char} (hreset : d ∉ reset) (hd : isParameter d = false)
    (c : Screen.Rgb) : d ∉ backgroundSequence c := by
  rw [backgroundSequence_eq]
  exact notMem_controlSequence hreset hd (all_isParameter_colorParameters c)

theorem pieces_colorParameters (c : Screen.Rgb) :
    Text.pieces ';' (colorParameters c) =
      [48, 2, c.red.toNat, c.green.toNat, c.blue.toNat].map Text.ofNat := by
  refine Text.pieces_join (List.cons_ne_nil _ _) fun l hl hmem => ?_
  obtain ⟨n, -, rfl⟩ := List.mem_map.mp hl
  exact Text.notMem_ofNat (by decide) n hmem

theorem parametersOf?_backgroundSequence (c : Screen.Rgb) :
    parametersOf? (backgroundSequence c) = some (colorParameters c) := by
  rw [backgroundSequence_eq, parametersOf?_controlSequence (all_isParameter_colorParameters c)]

theorem ofSequence?_backgroundSequence (c : Screen.Rgb) :
    Ground.ofSequence? (backgroundSequence c) = some (Ground.ofColor c) := by
  have hnumber (n : Nat) : Nat.ofDigitChars 10 (Text.ofNat n) 0 = n :=
    Nat.ofDigitChars_toDigits (by decide) (by decide)
  rw [Ground.ofSequence?, parametersOf?_backgroundSequence, Option.bind_some, Ground.ofParameters?,
    pieces_colorParameters, List.map_map]
  simp only [List.map_cons, List.map_nil, Function.comp_apply, hnumber]
  rfl

theorem grounds_after_backgroundSequence (g : Ground) (c : Screen.Rgb) :
    grounds.after g (backgroundSequence c) = Ground.ofColor c := by
  rw [grounds_after, ofSequence?_backgroundSequence]
  rfl

end Styled
end TerminalDialogs
