import TerminalDialogs.Proofs.Screen.Paint
import TerminalDialogs.Proofs.Styled.Ground

/-!
# Reading a screen back

A terminal reads a style sequence as a list of numbers, one after the other.  0
returns to the default, 1 to 9 turn modifiers on, 30 to 37 and 90 to 97 select
one of the terminal's own colours for the characters, 40 to 47 and 100 to 107
one for what is behind them; 38 and 48 are followed by a colour of the palette
or by its channels.  An empty parameter counts as 0.

`looks` is this reading as a styling, with a table of its own: what the numbers
mean is said here, not looked up where they are written.  A row that was written
cell by cell is read back as its cells (`cells_paintRow`), because the sequence
of a pen leads from the default to the look of the pen (`styleAfter_sequence`)
and a change of pen begins with a reset.
-/

namespace TerminalDialogs
namespace Screen

open Styled

/-! ## Looks -/

/-- How a terminal shows a character. -/
structure Look where
  foreground : Color := .default
  background : Color := .default
  /-- Which modifiers are on. -/
  lit : Modifier → Bool := fun _ => false

namespace Look

/-- A position in the terminal's table. -/
def hue? : Nat → Option Hue
  | 0 => some .black
  | 1 => some .red
  | 2 => some .green
  | 3 => some .yellow
  | 4 => some .blue
  | 5 => some .magenta
  | 6 => some .cyan
  | 7 => some .white
  | _ => none

/-- The modifier that a number turns on. -/
def modifier? : Nat → Option Modifier
  | 1 => some .bold
  | 2 => some .dim
  | 3 => some .italic
  | 4 => some .underlined
  | 5 => some .slowBlink
  | 6 => some .rapidBlink
  | 7 => some .reversed
  | 8 => some .hidden
  | 9 => some .crossedOut
  | _ => none

/-- The colour for characters that a number selects. -/
def color? (n : Nat) : Option Color :=
  if 30 ≤ n ∧ n ≤ 37 then (hue? (n - 30)).map fun hue => .named hue false
  else if 90 ≤ n ∧ n ≤ 97 then (hue? (n - 90)).map fun hue => .named hue true
  else none

/-- The look after a number that stands alone. -/
def number (l : Look) (n : Nat) : Look :=
  if n = 0 then {}
  else
    match modifier? n, color? n, color? (n - 10) with
    | some m, _, _ => { l with lit := fun m' => m' == m || l.lit m' }
    | none, some c, _ => { l with foreground := c }
    | none, none, some c => { l with background := c }
    | none, none, none => l

/-- The look after numbers; positions and channels are bytes. -/
def read (l : Look) : List Nat → Look
  | [] => l
  | 38 :: 5 :: n :: rest => read { l with foreground := .indexed (.ofNat n) } rest
  | 38 :: 2 :: r :: g :: b :: rest =>
      read { l with foreground := .rgb ⟨.ofNat r, .ofNat g, .ofNat b⟩ } rest
  | 48 :: 5 :: n :: rest => read { l with background := .indexed (.ofNat n) } rest
  | 48 :: 2 :: r :: g :: b :: rest =>
      read { l with background := .rgb ⟨.ofNat r, .ofNat g, .ofNat b⟩ } rest
  | n :: rest => read (l.number n) rest

end Look

/-- The numbers that parameters are. -/
def numbersOf (parameters : Text) : List Nat :=
  (Text.pieces ';' parameters).map fun digits => Nat.ofDigitChars 10 digits 0

/-- The styling that looks at everything. -/
def looks : Styling Look where
  start := {}
  apply l sequence :=
    match parametersOf? sequence with
    | some parameters => l.read (numbersOf parameters)
    | none => l
  apply_reset _ := rfl
  apply_bareReset _ := rfl

/-- How a pen makes characters look. -/
def Pen.look (pen : Pen) : Look :=
  { foreground := pen.foreground, background := pen.background, lit := pen.modifiers.has }

/-- What is seen of a row: the characters of its cells, each as its cell makes it
look. -/
def Row.seen (row : Row) : List (Char × Look) :=
  row.flatMap fun cell => cell.symbol.map fun c => (c, cell.pen.look)

/-! ## Numbers -/

/-- Parameters with a separator between each two are read one by one. -/
theorem numbersOf_join {ls : List Text} (hne : ls ≠ []) :
    numbersOf (Text.join [';'] ls) = ls.flatMap numbersOf := by
  induction ls with
  | nil => exact absurd rfl hne
  | cons l ls ih =>
    rcases ls with _ | ⟨next, ls⟩
    · simp
    · have hjoin : Text.join [';'] (l :: next :: ls) =
          l ++ ';' :: Text.join [';'] (next :: ls) := by
        rw [Text.join_cons_cons, List.append_assoc, List.singleton_append]
      rw [hjoin, numbersOf, Text.pieces_append_cons, List.map_append, ← numbersOf, ← numbersOf,
        ih (List.cons_ne_nil _ _)]
      rfl

theorem numbersOf_ofNat (n : Nat) : numbersOf (Text.ofNat n) = [n] := by
  have hdigits : ';' ∉ Text.ofNat n := Text.notMem_ofNat (by decide) n
  have hpieces : Text.pieces ';' (Text.ofNat n) = [Text.ofNat n] :=
    Text.pieces_join (List.cons_ne_nil _ _) fun l hl => by rwa [List.mem_singleton.mp hl]
  rw [numbersOf, hpieces, List.map_singleton, Text.ofNat,
    Nat.ofDigitChars_toDigits (by decide) (by decide)]

/-- Numbers with a separator between each two are read back. -/
theorem numbersOf_join_ofNat {ns : List Nat} (hne : ns ≠ []) :
    numbersOf (Text.join [';'] (ns.map Text.ofNat)) = ns := by
  rw [numbersOf_join (by simpa using hne), List.flatMap_map]
  simp [numbersOf_ofNat]

/-- The numbers that select a colour. -/
def Color.numbers (isBackground : Bool) (c : Color) : List Nat :=
  let base := if isBackground then 10 else 0
  match c with
  | .default => []
  | .named hue bright => [(if bright then 90 else 30) + hue.index + base]
  | .indexed n => [38 + base, 5, n.toNat]
  | .rgb c => [38 + base, 2, c.red.toNat, c.green.toNat, c.blue.toNat]

theorem Color.flatMap_numbersOf (isBackground : Bool) (c : Color) :
    (c.parameters isBackground).toList.flatMap numbersOf = c.numbers isBackground := by
  cases c with
  | default => rfl
  | named hue bright =>
    rw [Color.parameters, Option.toList_some, List.flatMap_singleton, numbersOf_ofNat]
    rfl
  | indexed n =>
    have hparameters : Color.parameters isBackground (.indexed n) =
        some (Text.join [';'] ((Color.numbers isBackground (.indexed n)).map Text.ofNat)) := by
      simp [Color.parameters, Color.numbers, Text.join]
      rfl
    rw [hparameters, Option.toList_some, List.flatMap_singleton]
    exact numbersOf_join_ofNat (List.cons_ne_nil _ _)
  | rgb c =>
    have hparameters : Color.parameters isBackground (.rgb c) =
        some (Text.join [';'] ((Color.numbers isBackground (.rgb c)).map Text.ofNat)) := by
      simp [Color.parameters, Color.numbers, Text.join]
      rfl
    rw [hparameters, Option.toList_some, List.flatMap_singleton]
    exact numbersOf_join_ofNat (List.cons_ne_nil _ _)

/-- The numbers that select a pen from the default one. -/
def Pen.numbers (pen : Pen) : List Nat :=
  pen.modifiers.list.map Modifier.code ++
    (pen.foreground.numbers false ++ pen.background.numbers true)

theorem Pen.flatMap_numbersOf (pen : Pen) : pen.parameters.flatMap numbersOf = pen.numbers := by
  rw [Pen.parameters, List.flatMap_append, List.flatMap_append, Color.flatMap_numbersOf,
    Color.flatMap_numbersOf, List.append_assoc, List.flatMap_map, Pen.numbers]
  simp only [numbersOf_ofNat, ← List.map_eq_flatMap]

/-! ## What numbers select -/

namespace Look

theorem read_cons {n : Nat} (hforeground : n ≠ 38) (hbackground : n ≠ 48) (l : Look)
    (rest : List Nat) : l.read (n :: rest) = (l.number n).read rest := by
  rw [read] <;> simp [hforeground, hbackground]

/-- Modifiers are turned on one after the other. -/
theorem read_modifiers (l : Look) (ms : List Modifier) (rest : List Nat) :
    l.read (ms.map Modifier.code ++ rest) =
      { l with lit := fun m => ms.contains m || l.lit m }.read rest := by
  induction ms generalizing l with
  | nil => simp
  | cons m ms ih =>
    have hnumber : l.number m.code = { l with lit := fun m' => m' == m || l.lit m' } := by
      cases m <;> rfl
    have hcode : m.code ≠ 38 ∧ m.code ≠ 48 := by cases m <;> decide
    rw [List.map_cons, List.cons_append, read_cons hcode.1 hcode.2, hnumber, ih]
    simp only [List.contains_cons]
    congr 2
    funext m'
    exact (Bool.or_left_comm _ _ _).trans (Bool.or_assoc _ _ _).symm

/-- A colour for the characters. -/
theorem read_foreground {l : Look} (h : l.foreground = .default) (c : Color) (rest : List Nat) :
    l.read (c.numbers false ++ rest) = { l with foreground := c }.read rest := by
  cases c with
  | default =>
    have hsame : { l with foreground := .default } = l := by rw [← h]
    rw [hsame]
    rfl
  | named hue bright =>
    rw [Color.numbers, List.singleton_append, read_cons]
    · cases hue <;> cases bright <;> rfl
    · cases hue <;> cases bright <;> decide
    · cases hue <;> cases bright <;> decide
  | indexed n => simp [Color.numbers, read]
  | rgb c => simp [Color.numbers, read]

/-- A colour for what is behind them. -/
theorem read_background {l : Look} (h : l.background = .default) (c : Color) (rest : List Nat) :
    l.read (c.numbers true ++ rest) = { l with background := c }.read rest := by
  cases c with
  | default =>
    have hsame : { l with background := .default } = l := by rw [← h]
    rw [hsame]
    rfl
  | named hue bright =>
    rw [Color.numbers, List.singleton_append, read_cons]
    · cases hue <;> cases bright <;> rfl
    · cases hue <;> cases bright <;> decide
    · cases hue <;> cases bright <;> decide
  | indexed n => simp [Color.numbers, read]
  | rgb c => simp [Color.numbers, read]

end Look

/-- **The numbers of a pen select its look.** -/
theorem Pen.read_numbers (pen : Pen) : ({} : Look).read pen.numbers = pen.look := by
  rw [Pen.numbers, Look.read_modifiers, Look.read_foreground rfl,
    ← List.append_nil (pen.background.numbers true), Look.read_background rfl, Look.read,
    Pen.look]
  congr 1
  exact funext fun m => Bool.or_false _

/-! ## Pens -/

theorem looks_after {sequence parameters : Text} (h : parametersOf? sequence = some parameters)
    (l : Look) : looks.after l sequence = l.read (numbersOf parameters) := by
  have hstyle : isStyle sequence = true := by
    cases hnot : isStyle sequence with
    | true => rfl
    | false =>
      rw [parametersOf?_of_not_isStyle hnot] at h
      cases h
  rw [Styling.after, if_pos hstyle]
  show (match parametersOf? sequence with
    | some parameters => l.read (numbersOf parameters)
    | none => l) = _
  rw [h]

theorem whole_sequence (pen : Pen) : Whole pen.sequence := by
  rcases pen.sequence_eq with h | ⟨parameters, hparameters, h⟩
  · rw [h]
    exact whole_nil
  · rw [h]
    exact whole_controlSequence hparameters

/-- The sequence of a pen shows nothing. -/
theorem cellsFrom_sequence (l : Look) (pen : Pen) : looks.cellsFrom l pen.sequence = [] := by
  rcases pen.sequence_eq with h | ⟨parameters, hparameters, h⟩
  · rw [h]
    rfl
  · rw [h, Styling.cellsFrom_eq_cellsOf, tokens_controlSequence hparameters]
    rfl

/-- **The sequence of a pen leads from the default to its look.** -/
theorem styleAfter_sequence (pen : Pen) : looks.styleAfter looks.start pen.sequence = pen.look := by
  have hnumbers := pen.flatMap_numbersOf
  have hlook : Look.read {} pen.numbers = pen.look := pen.read_numbers
  rw [Pen.sequence]
  by_cases h : pen.parameters.isEmpty = true
  · rw [if_pos h]
    rw [List.isEmpty_iff.mp h] at hnumbers
    rw [← hnumbers] at hlook
    exact hlook
  · have hne : pen.parameters ≠ [] := fun hnil => h (by rw [hnil]; rfl)
    have hparameters : (Text.join [';'] pen.parameters).all isParameter = true :=
      all_isParameter_join fun l hl => Pen.all_isParameter hl
    rw [if_neg h]
    show looks.styleAfter looks.start (controlSequence (Text.join [';'] pen.parameters) 'm') = _
    rw [Styling.styleAfter, tokens_controlSequence hparameters, Styling.steps_cons,
      Styling.steps_nil, Styling.step, looks_after (parametersOf?_controlSequence hparameters),
      numbersOf_join hne, hnumbers]
    exact hlook

theorem whole_changePen (current next : Pen) : Whole (changePen current next) := by
  rw [changePen]
  split
  · exact whole_nil
  · exact whole_reset.append (whole_sequence next)

/-- A change of pen shows nothing and leads to the look of the next pen. -/
theorem changePen_spec (current next : Pen) :
    looks.cellsFrom current.look (changePen current next) = [] ∧
      looks.styleAfter current.look (changePen current next) = next.look := by
  rw [changePen]
  split
  · next h =>
    rw [h]
    exact ⟨rfl, rfl⟩
  · rw [looks.cellsFrom_append _ whole_reset, looks.styleAfter_append _ whole_reset,
      Styling.styleAfter_reset, styleAfter_sequence, cellsFrom_sequence]
    exact ⟨rfl, rfl⟩

/-! ## Rows -/

/-- What a row ends with. -/
theorem paintCells_eq {row : Row} (h : ∀ cell ∈ row, esc ∉ cell.symbol) (current : Pen) :
    ∃ body, paintCells current row = body ++ reset ∧ Whole body := by
  induction row generalizing current with
  | nil => exact ⟨[], rfl, whole_nil⟩
  | cons cell row ih =>
    obtain ⟨body, hbody, hwhole⟩ :=
      ih (fun other ho => h other (List.mem_cons_of_mem cell ho)) cell.pen
    refine ⟨changePen current cell.pen ++ cell.symbol ++ body, ?_, ?_⟩
    · rw [paintCells, hbody, List.append_assoc _ body]
    · exact ((whole_changePen current cell.pen).append
        (whole_of_visible (h cell List.mem_cons_self))).append hwhole

theorem cellsFrom_paintCells {row : Row} (h : ∀ cell ∈ row, esc ∉ cell.symbol) (current : Pen) :
    looks.cellsFrom current.look (paintCells current row) = row.seen := by
  induction row generalizing current with
  | nil => rfl
  | cons cell row ih =>
    have hsymbol : esc ∉ cell.symbol := h cell List.mem_cons_self
    have hchange : Whole (changePen current cell.pen) := whole_changePen current cell.pen
    obtain ⟨hcells, hstyle⟩ := changePen_spec current cell.pen
    rw [paintCells, looks.cellsFrom_append _ (hchange.append (whole_of_visible hsymbol)),
      looks.cellsFrom_append _ hchange, looks.styleAfter_append _ hchange, hcells, hstyle,
      looks.cellsFrom_of_visible _ hsymbol, looks.styleAfter_of_visible _ hsymbol,
      ih (fun other ho => h other (List.mem_cons_of_mem cell ho))]
    rfl

/-- A row that was written is read back as its cells. -/
theorem cells_paintRow {row : Row} (h : ∀ cell ∈ row, esc ∉ cell.symbol) :
    looks.cells (paintRow row) = row.seen :=
  cellsFrom_paintCells h {}

theorem whole_paintRow {row : Row} (h : ∀ cell ∈ row, esc ∉ cell.symbol) :
    Whole (paintRow row) := by
  obtain ⟨body, hbody, hwhole⟩ := paintCells_eq h {}
  rw [paintRow, hbody]
  exact hwhole.append whole_reset

/-- A row ends with a reset, and so in the default look whatever was before it. -/
theorem reset_paintRow {row : Row} (h : ∀ cell ∈ row, esc ∉ cell.symbol) :
    reset <:+ paintRow row ∧ ∀ l, looks.styleAfter l (paintRow row) = looks.start := by
  obtain ⟨body, hbody, hwhole⟩ := paintCells_eq h {}
  rw [paintRow, hbody]
  refine ⟨List.suffix_append body reset, fun l => ?_⟩
  rw [looks.styleAfter_append l hwhole, Styling.styleAfter_reset]

/-- A row holds no character besides those of its cells and of sequences. -/
theorem notMem_paintCells {c : Char} (hreset : c ∉ reset) (hc : isParameter c = false) {row : Row}
    (h : ∀ cell ∈ row, c ∉ cell.symbol) (current : Pen) : c ∉ paintCells current row := by
  have hsequence (pen : Pen) : c ∉ pen.sequence := by
    rcases pen.sequence_eq with hpen | ⟨parameters, hparameters, hpen⟩
    · rw [hpen]
      exact List.not_mem_nil
    · rw [hpen]
      exact notMem_controlSequence hreset hc hparameters
  induction row generalizing current with
  | nil => exact hreset
  | cons cell row ih =>
    have hchange : c ∉ changePen current cell.pen := by
      rw [changePen]
      split
      · exact List.not_mem_nil
      · rw [List.mem_append, not_or]
        exact ⟨hreset, hsequence cell.pen⟩
    rw [paintCells, List.mem_append, List.mem_append, not_or, not_or]
    exact ⟨⟨hchange, h cell List.mem_cons_self⟩,
      ih (fun other ho => h other (List.mem_cons_of_mem cell ho)) cell.pen⟩

/-- The rows of a screen are read one after the other, none under the influence of
another. -/
theorem cells_paintRows {rows : List Row} (h : ∀ row ∈ rows, ∀ cell ∈ row, esc ∉ cell.symbol) :
    looks.cells (paintRows rows) = [('\n', looks.start)].intercalate (rows.map Row.seen) := by
  induction rows with
  | nil => rfl
  | cons row rows ih =>
    have hrow : ∀ cell ∈ row, esc ∉ cell.symbol := h row List.mem_cons_self
    have hrest := ih fun other ho => h other (List.mem_cons_of_mem row ho)
    rcases rows with _ | ⟨next, rows⟩
    · simpa [paintRows, Text.unrows] using cells_paintRow hrow
    · have hunrows : paintRows (row :: next :: rows) =
          paintRow row ++ (['\n'] ++ paintRows (next :: rows)) := by
        rw [paintRows, Text.unrows, List.map_cons, List.map_cons, Text.join_cons_cons,
          List.append_assoc]
        rfl
      have hfeed : esc ∉ ['\n'] := by decide
      rw [hunrows, ← looks.cellsFrom_start, looks.cellsFrom_append _ (whole_paintRow hrow),
        (reset_paintRow hrow).2, looks.cellsFrom_append _ (whole_of_visible hfeed),
        looks.cellsFrom_of_visible _ hfeed, looks.styleAfter_of_visible _ hfeed,
        looks.cellsFrom_start, cells_paintRow hrow, looks.cellsFrom_start, hrest]
      simp [List.intercalate_cons_cons]

/-- The lines of a screen can be told apart, unless a cell holds a line feed. -/
theorem rows_paintRows {rows : List Row} (hne : rows ≠ [])
    (h : ∀ row ∈ rows, ∀ cell ∈ row, '\n' ∉ cell.symbol) :
    Text.rows (paintRows rows) = rows.map paintRow := by
  refine Text.rows_unrows (by simpa using hne) fun line hline => ?_
  obtain ⟨row, hrow, rfl⟩ := List.mem_map.mp hline
  exact notMem_paintCells (by decide) (by decide) (h row hrow) {}

/-- **A screen is read back as it was written.**  If no cell holds an escape
character,

* reading the line of a row yields the characters of its cells in order, each with
  the colours and the modifiers of its cell;
* the line ends with a reset and leads to the default look, from whatever look
  it is read;
* so the lines of a screen are read one after the other as each is read alone,
  with a line feed between each two;
* and they can be told apart, unless a cell holds a line feed itself. -/
theorem screen_read_back {rows : List Row} (h : ∀ row ∈ rows, ∀ cell ∈ row, esc ∉ cell.symbol) :
    (∀ row ∈ rows, looks.cells (paintRow row) = row.seen ∧ reset <:+ paintRow row ∧
      ∀ l, looks.styleAfter l (paintRow row) = looks.start) ∧
    looks.cells (paintRows rows) = [('\n', looks.start)].intercalate (rows.map Row.seen) ∧
    (rows ≠ [] → (∀ row ∈ rows, ∀ cell ∈ row, '\n' ∉ cell.symbol) →
      Text.rows (paintRows rows) = rows.map paintRow) := by
  refine ⟨fun row hrow => ?_, cells_paintRows h, rows_paintRows⟩
  exact ⟨cells_paintRow (h row hrow), reset_paintRow (h row hrow)⟩

/-- A bright word behind a bold one, on a colour of the palette. -/
theorem screen_read_back_bright :
    let bold : Pen := { foreground := .named .red false, modifiers := .only .bold }
    let bright : Pen := { foreground := .named .cyan true, background := .indexed 200 }
    let row : Row := [⟨['a'], bold⟩, ⟨['b'], bright⟩, ⟨['c'], {}⟩]
    (∀ other ∈ [row], ∀ cell ∈ other, esc ∉ cell.symbol) ∧
      looks.cells (paintRow row) = [('a', bold.look), ('b', bright.look), ('c', {})] ∧
      paintRow row = "\x1b[0m\x1b[1;31ma\x1b[0m\x1b[96;48;5;200mb\x1b[0mc\x1b[0m".toList := by
  intro bold bright row
  have h : ∀ other ∈ [row], ∀ cell ∈ other, esc ∉ cell.symbol := by decide
  exact ⟨h, ((screen_read_back h).1 row (List.mem_singleton_self row)).1, by decide⟩

end Screen
end TerminalDialogs
