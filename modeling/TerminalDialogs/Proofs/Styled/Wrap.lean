import TerminalDialogs.Proofs.Styled.Whole
import TerminalDialogs.Styled.Wrap

/-!
# What a broken line shows

A line that is broken shows what it showed before: each piece, read by itself from the start style,
shows its share of the cells of the line, so the pieces together show all of them (`Broken`).

The line is cut again for every piece, twice: the columns before the piece are left out, and what
follows it is dropped (`wrap_of_lt`).  A cut keeps the cells of what stays (`cells_take_skip`).  So
the pieces are the cells of the line, so many at a time (`map_cells_wrap`), and all that is said
about them is a matter of lists.
-/

namespace TerminalDialogs
namespace Styled

universe u

variable {Q : Type u} {S : Styling Q} {width : Nat} {line : Text}

/-! ## So many at a time -/

/-- The first `count` parts of a list, each of the given length as long as there is enough. -/
def parts {α : Type u} (width count : Nat) (l : List α) : List (List α) :=
  (List.range count).map fun i => (l.drop (i * width)).take width

theorem parts_succ {α : Type u} (width count : Nat) (l : List α) :
    parts width (count + 1) l = l.take width :: parts width count (l.drop width) := by
  simp only [parts, List.range_succ_eq_map, List.map_cons, List.map_map, Nat.zero_mul,
    List.drop_zero, Function.comp_def, List.drop_drop, Nat.succ_mul, Nat.add_comm width]

theorem flatten_parts {α : Type u} (width count : Nat) (l : List α) :
    (parts width count l).flatten = l.take (count * width) := by
  induction count generalizing l with
  | zero => rw [Nat.zero_mul, List.take_zero]; rfl
  | succ count ih =>
    rw [parts_succ, List.flatten_cons, ih, Nat.succ_mul, Nat.add_comm, List.take_add]

theorem length_parts {α : Type u} (width count : Nat) (l : List α) :
    (parts width count l).length = count := by
  rw [parts, List.length_map, List.length_range]

theorem length_of_mem_parts {α : Type u} {width count : Nat} {l part : List α}
    (h : part ∈ parts width count l) : part.length ≤ width := by
  obtain ⟨i, -, rfl⟩ := List.mem_map.mp h
  exact List.length_take_le width _

/-- Where there is enough for all parts but the last, these are full. -/
theorem length_of_mem_dropLast_parts {α : Type u} {width count : Nat} {l part : List α}
    (hl : (count - 1) * width ≤ l.length) (h : part ∈ (parts width count l).dropLast) :
    part.length = width := by
  rcases count with _ | count
  · exact absurd h List.not_mem_nil
  · rw [parts, List.range_succ, List.map_append, List.map_singleton, List.dropLast_concat] at h
    obtain ⟨i, hi, rfl⟩ := List.mem_map.mp h
    have hle : (i + 1) * width ≤ count * width :=
      Nat.mul_le_mul_right width (List.mem_range.mp hi)
    rw [Nat.succ_mul] at hle
    rw [Nat.add_sub_cancel] at hl
    rw [List.length_take, List.length_drop]
    omega

/-! ## Pieces -/

/-- **The pieces are cut one behind the other**, if there are as many of them as are needed and
none too many. -/
theorem pieces_eq_map {count total start : Nat} (hwidth : 1 ≤ width)
    (henough : total ≤ start + count * width) (hneeded : start + count * width < total + width) :
    pieces width total line start =
      (List.range count).map fun i => take width (skip (start + i * width) line) := by
  induction count generalizing start with
  | zero =>
    rw [pieces, if_neg fun h => Nat.not_lt_of_le henough (by omega)]
    rfl
  | succ count ih =>
    rw [Nat.succ_mul] at henough hneeded
    rw [pieces, if_pos ⟨hwidth, by omega⟩, ih (by omega) (by omega), List.range_succ_eq_map,
      List.map_cons, List.map_map, Nat.zero_mul, Nat.add_zero]
    refine congrArg _ (List.map_congr_left fun i _ => ?_)
    rw [Function.comp_apply, Nat.succ_mul, Nat.add_right_comm, Nat.add_assoc]

/-- The number of pieces of a line. -/
def pieceCount (width : Nat) (line : Text) : Nat := max 1 ((Styled.width line + width - 1) / width)

theorem pieceCount_of_fits (hwidth : 1 ≤ width) (h : Styled.width line ≤ width) :
    pieceCount width line = 1 := by
  have hlt : (Styled.width line + width - 1) / width < 2 :=
    (Nat.div_lt_iff_lt_mul hwidth).mpr (by omega)
  rw [pieceCount]
  omega

/-- There are as many pieces as are needed and none too many. -/
theorem pieceCount_mul (hwidth : 1 ≤ width) (h : 1 ≤ Styled.width line) :
    Styled.width line ≤ pieceCount width line * width ∧
      pieceCount width line * width < Styled.width line + width := by
  have hcount : pieceCount width line = (Styled.width line + width - 1) / width :=
    Nat.max_eq_right ((Nat.one_le_div_iff hwidth).mpr (by omega))
  have hdiv := Nat.div_add_mod' (Styled.width line + width - 1) width
  have hmod := Nat.mod_lt (Styled.width line + width - 1) hwidth
  rw [hcount]
  omega

/-- A line that is too wide is cut again for each of its pieces. -/
theorem wrap_of_lt (hwidth : 1 ≤ width) (h : width < Styled.width line) :
    wrap width line =
      (List.range (pieceCount width line)).map fun i => take width (skip (i * width) line) := by
  obtain ⟨henough, hneeded⟩ := pieceCount_mul hwidth (Nat.le_of_lt (Nat.lt_of_le_of_lt hwidth h))
  rw [← Nat.zero_add (pieceCount width line * width)] at henough hneeded
  rw [wrap, if_neg (by omega), pieces_eq_map hwidth henough hneeded]
  simp only [Nat.zero_add]

theorem map_cells_wrap (hwidth : 1 ≤ width) (line : Text) :
    (wrap width line).map S.cells = parts width (pieceCount width line) (S.cells line) := by
  by_cases hfits : Styled.width line ≤ width
  · have hlength : (S.cells line).length ≤ width := by
      rwa [← S.cellsFrom_start, S.length_cellsFrom]
    rw [wrap, if_pos (Or.inr hfits), pieceCount_of_fits hwidth hfits, parts_succ,
      List.take_of_length_le hlength]
    rfl
  · rw [wrap_of_lt hwidth (Nat.lt_of_not_le hfits), List.map_map, parts]
    refine List.map_congr_left fun i _ => ?_
    rw [Function.comp_apply, (cells_take_skip S width _).1, S.cells_skip]

/-! ## Broken lines -/

/-- A line broken into pieces of a width. -/
structure Broken (S : Styling Q) (width : Nat) (line : Text) (pieces : List Text) : Prop where
  count : pieces.length = pieceCount width line
  /-- All pieces but the last are full. -/
  full : ∀ piece ∈ pieces.dropLast, Styled.width piece = width
  /-- No piece is too wide. -/
  fits : ∀ piece ∈ pieces, Styled.width piece ≤ width
  /-- The pieces, each by itself, show what the line shows. -/
  cells : pieces.flatMap S.cells = S.cells line

/-- **Breaking a line loses nothing.** -/
theorem broken_wrap (S : Styling Q) (hwidth : 1 ≤ width) (line : Text) :
    Broken S width line (wrap width line) := by
  have hcells := map_cells_wrap (S := S) hwidth line
  have hlength (s : Text) : Styled.width s = (S.cells s).length :=
    (S.length_cellsFrom S.start s).symm
  have hcovered : Styled.width line ≤ pieceCount width line * width ∧
      (pieceCount width line - 1) * width ≤ Styled.width line := by
    rcases Nat.eq_zero_or_pos (Styled.width line) with hzero | hpos
    · rw [hzero, pieceCount_of_fits hwidth (hzero ▸ Nat.zero_le width)]
      omega
    · obtain ⟨henough, hneeded⟩ := pieceCount_mul hwidth hpos
      rw [Nat.sub_mul]
      omega
  refine ⟨?_, fun piece hpiece => ?_, fun piece hpiece => ?_, ?_⟩
  · rw [← List.length_map S.cells, hcells, length_parts]
  · have hmem : S.cells piece ∈ ((wrap width line).map S.cells).dropLast := by
      rw [← List.map_dropLast]
      exact List.mem_map_of_mem hpiece
    rw [hcells] at hmem
    rw [hlength, length_of_mem_dropLast_parts (hlength line ▸ hcovered.2) hmem]
  · have hmem : S.cells piece ∈ (wrap width line).map S.cells := List.mem_map_of_mem hpiece
    rw [hcells] at hmem
    rw [hlength]
    exact length_of_mem_parts hmem
  · rw [List.flatMap_def, hcells, flatten_parts]
    exact List.take_of_length_le (hlength line ▸ hcovered.1)

end Styled
end TerminalDialogs
