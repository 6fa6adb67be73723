import TerminalDialogs.Modal.Overlay
import TerminalDialogs.Proofs.Styled.Whole
import TerminalDialogs.Proofs.Text.Rows

/-!
# A block over other text, cell by cell

The parts of a row that a block meets are separated by resets, so each of them
is read from the start style: what is left of the block, the block itself behind
its background, and what is right of it.  The left part is cut from the row
behind and the right part is skipped to, and neither cut loses text or style;
so on both sides of the block each column has the cell of the row behind, and
where the row has ended a blank (`cells_leftOf`, `cells_rightOf`).  In the block
each column has the cell of the block's line, read in the style that the
background leads to (`cells_inside`).  The three parts are as wide as the screen
together, which gives a whole row column by column (`cells_compositeRow`).
-/

namespace TerminalDialogs
namespace Modal

open Styled

universe u

variable {Q : Type u} (S : Styling Q)

/-! ## What should be seen -/

/-- The rows of the text behind a block; the empty text has none. -/
def behind (base : Text) : List Text := if base.isEmpty then [] else Text.rows base

/-- Where a block is put on the screen. -/
def placeOf (overlay : Text) (screen : Size) : Placement :=
  placement ⟨widest (Text.rows overlay), (Text.rows overlay).length⟩ screen

/-- Whether a row of the screen meets the block. -/
def Placement.meets (place : Placement) (row : Nat) : Prop :=
  place.y ≤ row ∧ row < place.y + place.size.height

/-- Whether a column of a row that meets the block belongs to the block. -/
def Placement.holds (place : Placement) (column : Nat) : Prop :=
  place.x ≤ column ∧ column < place.x + place.size.width

instance (place : Placement) (row : Nat) : Decidable (place.meets row) :=
  inferInstanceAs (Decidable (_ ∧ _))

instance (place : Placement) (column : Nat) : Decidable (place.holds column) :=
  inferInstanceAs (Decidable (_ ∧ _))

/-- The cell of a line of the block, behind its background. -/
def blockCell (background line : Text) (column : Nat) : Char × Q :=
  let q := S.styleAfter S.start background
  cellAt (S.cellsFrom q line) (S.styleAfter q line) column

/-- The cell of a row behind the block. -/
def baseCell (line : Text) (column : Nat) : Char × Q := cellAt (S.cells line) S.start column

/-- The cell that should be seen when the block lies over the text, in the middle of the screen:
half of the columns that the block leaves are to its left, and half of the rows above it. -/
def seenCell (base overlay background : Text) (screen : Size) (row column : Nat) : Char × Q :=
  let lines := Text.rows overlay
  let left := (screen.width - widest lines) / 2
  let top := (screen.height - lines.length) / 2
  if (top ≤ row ∧ row < top + lines.length) ∧ left ≤ column ∧ column < left + widest lines then
    blockCell S background (lines[row - top]?.getD []) (column - left)
  else baseCell S ((behind base)[row]?.getD []) column

/-- The middle of the screen is where the block is put. -/
theorem seenCell_eq (base overlay background : Text) (screen : Size) (row column : Nat) :
    seenCell S base overlay background screen row column =
      let place := placeOf overlay screen
      if place.meets row ∧ place.holds column then
        blockCell S background ((Text.rows overlay)[row - place.y]?.getD []) (column - place.x)
      else baseCell S ((behind base)[row]?.getD []) column := rfl

/-! ## The parts of a row -/

variable {base line : Text}

theorem whole_leftOf (h : Whole base) (x : Nat) : Whole (leftOf base x) := by
  rw [leftOf]
  split
  · exact whole_nil
  · split
    · exact whole_take x base
    · exact (h.append whole_reset).append (whole_blanks _)

/-- Left of the block is the row behind, filled up with blanks. -/
theorem cells_leftOf (h : Whole base) (x : Nat) :
    S.cells (leftOf base x) = (List.range x).map (baseCell S base) := by
  show S.cells _ = (List.range x).map (cellAt (S.cells base) S.start)
  rw [map_cellAt_range, ← S.cellsFrom_start, ← S.cellsFrom_start, S.length_cellsFrom, leftOf]
  by_cases hx : x = 0
  · rw [if_pos hx, hx, List.take_zero, Nat.zero_sub]
    rfl
  rw [if_neg hx]
  by_cases hle : x ≤ width base
  · rw [if_pos hle, S.cellsFrom_take, Nat.sub_eq_zero_of_le hle, List.replicate_zero,
      List.append_nil]
  · have htake : (S.cellsFrom S.start base).take x = S.cellsFrom S.start base :=
      List.take_of_length_le (by rw [S.length_cellsFrom]; omega)
    rw [if_neg hle, htake, S.cellsFrom_append _ (h.append whole_reset), S.cellsFrom_append _ h,
      S.cellsFrom_reset, S.styleAfter_append _ h, S.styleAfter_reset, S.cellsFrom_blanks,
      List.append_nil]

theorem whole_inside (h : Whole line) (shown : Nat) : Whole (inside line shown) := by
  rw [inside]
  split
  · exact whole_take shown line
  · exact h.append (whole_blanks _)

/-- In the block is its line, cut or filled up in the style at its end. -/
theorem cells_inside (h : Whole line) (q : Q) (shown : Nat) :
    S.cellsFrom q (inside line shown) =
      (List.range shown).map (cellAt (S.cellsFrom q line) (S.styleAfter q line)) := by
  rw [map_cellAt_range, S.length_cellsFrom, inside]
  by_cases hshown : shown < width line
  · rw [if_pos hshown, S.cellsFrom_take, Nat.sub_eq_zero_of_le (Nat.le_of_lt hshown),
      List.replicate_zero, List.append_nil]
  · have htake : (S.cellsFrom q line).take shown = S.cellsFrom q line :=
      List.take_of_length_le (by rw [S.length_cellsFrom]; omega)
    rw [if_neg hshown, htake, S.cellsFrom_append _ h, S.cellsFrom_blanks]

theorem whole_rightOf (base : Text) (right screenWidth : Nat) :
    Whole (rightOf base right screenWidth) := by
  rw [rightOf]
  dsimp only
  by_cases hright : right < screenWidth
  · rw [if_pos hright]
    by_cases hbase : right < width base
    · rw [if_pos hbase]
      refine (whole_take _ _).append ?_
      split
      · exact whole_reset.append (whole_blanks _)
      · exact whole_nil
    · rw [if_neg hbase]
      exact whole_blanks _
  · rw [if_neg hright]
    exact whole_nil

/-- Right of the block is the row behind again, in its own style. -/
theorem cells_rightOf (base : Text) (right screenWidth : Nat) :
    S.cells (rightOf base right screenWidth) =
      (List.range (screenWidth - right)).map fun c => baseCell S base (right + c) := by
  have hcells : (fun c => baseCell S base (right + c)) =
      cellAt ((S.cells base).drop right) S.start :=
    funext fun c => cellAt_add (S.cells base) S.start right c
  have hlength : (S.cells base).length = width base := S.length_cellsFrom S.start base
  rw [hcells, map_cellAt_range, List.length_drop, hlength, rightOf]
  dsimp only
  by_cases hright : right < screenWidth
  · rw [if_pos hright]
    by_cases hbase : right < width base
    · have hskip : width (skip right base) = width base - right := by
        rw [← S.length_cellsFrom S.start, S.cellsFrom_start, S.cells_skip, List.length_drop,
          hlength]
      rw [if_pos hbase, ← S.cellsFrom_start, S.cellsFrom_append _ (whole_take _ _),
        S.cellsFrom_take, S.cellsFrom_start, S.cells_skip, hskip]
      congr 1
      by_cases hroom : width base - right < screenWidth - right
      · rw [if_pos (by omega), S.cellsFrom_append _ whole_reset, S.cellsFrom_reset,
          S.styleAfter_reset, S.cellsFrom_blanks, List.nil_append, Nat.min_eq_left (by omega)]
      · rw [if_neg (by omega), S.cellsFrom_nil, Nat.sub_eq_zero_of_le (by omega),
          List.replicate_zero]
    · have hnone : (S.cells base).drop right = [] :=
        List.drop_eq_nil_of_le (by rw [hlength]; omega)
      rw [if_neg hbase, ← S.cellsFrom_start, S.cellsFrom_blanks, hnone, List.take_nil,
        List.nil_append, Nat.sub_eq_zero_of_le (Nat.le_of_not_lt hbase), Nat.sub_zero]
  · rw [if_neg hright, Nat.sub_eq_zero_of_le (Nat.le_of_not_lt hright), List.take_zero,
      Nat.zero_sub]
    rfl

/-! ## A row -/

/-- A background is nothing, or one complete style sequence. -/
def IsBackground (background : Text) : Prop :=
  background = [] ∨ runs background = [.escape background] ∧ isStyle background = true

theorem IsBackground.whole {background : Text} (h : IsBackground background) :
    Whole background := by
  rcases h with rfl | ⟨hruns, -⟩
  · exact whole_nil
  · intro sequence hmem
    rw [hruns] at hmem
    exact nomatch List.mem_singleton.mp hmem

theorem IsBackground.cellsFrom {background : Text} (h : IsBackground background) (q : Q) :
    S.cellsFrom q background = [] := by
  rcases h with rfl | ⟨hruns, -⟩
  · rfl
  · rw [Styling.cellsFrom, hruns]
    rfl

/-- **A row with a line of the block over it**, column by column. -/
theorem cells_compositeRow {background : Text} (hbase : Whole base) (hline : Whole line)
    (hbackground : IsBackground background) (place : Placement) {screenWidth : Nat}
    (hplace : place.x ≤ screenWidth) :
    S.cells (compositeRow base line place screenWidth background) =
      (List.range screenWidth).map fun c =>
        if place.holds c then blockCell S background line (c - place.x) else baseCell S base c := by
  obtain ⟨x, y, w, height⟩ := place
  dsimp only at hplace
  -- the three parts, as wide as the screen together
  have hparts : S.cells (compositeRow base line ⟨x, y, w, height⟩ screenWidth background) =
      (List.range x).map (baseCell S base) ++
        (List.range (min w (screenWidth - x))).map (blockCell S background line) ++
          (List.range (screenWidth - (x + w))).map fun c => baseCell S base (x + w + c) := by
    have hleft := whole_leftOf hbase x
    have hinside := whole_inside hline (min w (screenWidth - x))
    have hright := whole_rightOf base (x + w) screenWidth
    have hback := hbackground.whole
    rw [← cells_leftOf S hbase, ← cells_rightOf S base, compositeRow, ← S.cellsFrom_start]
    dsimp only
    rw [S.cellsFrom_append _ ((((((hleft.append whole_reset).append hback).append
        hinside).append whole_reset).append hright)),
      S.cellsFrom_append _ (((((hleft.append whole_reset).append hback).append
        hinside).append whole_reset)),
      S.cellsFrom_append _ ((((hleft.append whole_reset).append hback).append hinside)),
      S.cellsFrom_append _ (((hleft.append whole_reset).append hback)),
      S.cellsFrom_append _ (hleft.append whole_reset), S.cellsFrom_append _ hleft,
      S.styleAfter_append _ (((hleft.append whole_reset).append hback).append hinside),
      S.styleAfter_append _ (hleft.append whole_reset), S.styleAfter_append _ hleft]
    simp only [S.cellsFrom_reset, S.styleAfter_reset, hbackground.cellsFrom S, List.append_nil,
      cells_inside S hline, S.cellsFrom_start]
    rfl
  have hwidth : screenWidth = x + min w (screenWidth - x) + (screenWidth - (x + w)) := by omega
  have hrange : List.range screenWidth = List.range x ++
      (List.range (min w (screenWidth - x))).map (x + ·) ++
        (List.range (screenWidth - (x + w))).map (x + min w (screenWidth - x) + ·) := by
    rw [← List.range_add, ← List.range_add]
    exact congrArg List.range hwidth
  rw [hparts, hrange, List.map_append, List.map_append, List.map_map, List.map_map]
  congr 1
  · congr 1
    · refine List.map_congr_left fun c hc => ?_
      have hlt : c < x := List.mem_range.mp hc
      exact (if_neg fun hholds => absurd hholds.1 (Nat.not_le_of_lt hlt)).symm
    · refine List.map_congr_left fun c hc => ?_
      have hlt : c < min w (screenWidth - x) := List.mem_range.mp hc
      have hholds : Placement.holds ⟨x, y, w, height⟩ (x + c) :=
        ⟨Nat.le_add_right x c, Nat.add_lt_add_left (Nat.lt_of_lt_of_le hlt (Nat.min_le_left w _)) x⟩
      dsimp only [Function.comp_apply]
      rw [if_pos hholds, Nat.add_sub_cancel_left]
  · refine List.map_congr_left fun c hc => ?_
    have hlt : c < screenWidth - (x + w) := List.mem_range.mp hc
    -- the block is as wide as it is shown, since there is room to its right
    have hcolumn : x + min w (screenWidth - x) + c = x + w + c := by omega
    have hholds : ¬ Placement.holds ⟨x, y, w, height⟩ (x + w + c) := fun hholds =>
      absurd hholds.2 (Nat.not_lt_of_le (Nat.le_add_right (x + w) c))
    dsimp only [Function.comp_apply]
    rw [hcolumn, if_neg hholds]

theorem reset_isSuffix_compositeRow (base line : Text) (place : Placement) (screenWidth : Nat)
    (background : Text) : reset <:+ compositeRow base line place screenWidth background :=
  List.suffix_append _ _

/-! ## All rows -/

/-- A row of the text behind, with the block over it if it meets the block. -/
def compositeLine (overlay background : Text) (screen : Size) (base : Text) (row : Nat) : Text :=
  let lines := Text.rows overlay
  let place := placement ⟨widest lines, lines.length⟩ screen
  match if row < place.y then none else lines[row - place.y]? with
  | some line => compositeRow base line place screen.width background
  | none => fit screen.width base

theorem composite_eq (base overlay : Text) (screen : Size) (background : Text) :
    composite base overlay screen background =
      Text.unrows ((baseRows base screen.height).zipIdx.map fun numbered =>
        compositeLine overlay background screen numbered.1 numbered.2) := rfl

theorem compositeLine_of_meets {overlay background base : Text} {screen : Size} {row : Nat}
    (h : (placeOf overlay screen).meets row) :
    compositeLine overlay background screen base row =
      compositeRow base ((Text.rows overlay)[row - (placeOf overlay screen).y]?.getD [])
        (placeOf overlay screen) screen.width background := by
  have hlt : row - (placeOf overlay screen).y < (Text.rows overlay).length := by
    have hrow : row < (placeOf overlay screen).y + (Text.rows overlay).length := h.2
    have hy := h.1
    omega
  have hline := List.getElem?_eq_getElem hlt
  rw [hline, Option.getD_some]
  show (match if row < (placeOf overlay screen).y then none else
    (Text.rows overlay)[row - (placeOf overlay screen).y]? with
    | some line => _
    | none => _) = _
  rw [if_neg (Nat.not_lt_of_le h.1), hline]
  rfl

theorem compositeLine_of_not_meets {overlay background base : Text} {screen : Size} {row : Nat}
    (h : ¬ (placeOf overlay screen).meets row) :
    compositeLine overlay background screen base row = fit screen.width base := by
  have hnone : (if row < (placeOf overlay screen).y then none else
      (Text.rows overlay)[row - (placeOf overlay screen).y]?) = none := by
    by_cases hy : row < (placeOf overlay screen).y
    · rw [if_pos hy]
    · rw [if_neg hy]
      refine List.getElem?_eq_none (Nat.le_of_not_lt fun hlt => h ⟨Nat.le_of_not_lt hy, ?_⟩)
      show row < (placeOf overlay screen).y + (Text.rows overlay).length
      omega
  show (match if row < (placeOf overlay screen).y then none else
    (Text.rows overlay)[row - (placeOf overlay screen).y]? with
    | some line => _
    | none => _) = _
  rw [hnone]

theorem reset_isSuffix_compositeLine (overlay background : Text) (screen : Size) (base : Text)
    (row : Nat) : reset <:+ compositeLine overlay background screen base row := by
  by_cases h : (placeOf overlay screen).meets row
  · rw [compositeLine_of_meets h]
    exact reset_isSuffix_compositeRow _ _ _ _ _
  · rw [compositeLine_of_not_meets h]
    exact reset_isSuffix_fit _ _

theorem baseRows_eq (base : Text) (height : Nat) :
    baseRows base height = behind base ++ List.replicate (height - (behind base).length) [] := rfl

theorem length_baseRows (base : Text) (height : Nat) :
    (baseRows base height).length = max (behind base).length height := by
  rw [baseRows_eq, List.length_append, List.length_replicate]
  omega

/-- The rows that are added behind the last one are empty. -/
theorem getD_baseRows (base : Text) (height row : Nat) :
    (baseRows base height)[row]?.getD [] = (behind base)[row]?.getD [] := by
  rw [baseRows_eq]
  by_cases hrow : row < (behind base).length
  · rw [List.getElem?_append_left hrow]
  · rw [List.getElem?_append_right (Nat.le_of_not_lt hrow),
      List.getElem?_eq_none (Nat.le_of_not_lt hrow), List.getElem?_replicate]
    split
    · rfl
    · rfl

theorem mem_rows_of_mem_behind {base row : Text} (h : row ∈ behind base) :
    row ∈ Text.rows base := by
  rw [behind] at h
  split at h
  · exact absurd h List.not_mem_nil
  · exact h

/-- A row of the composite has the cells that should be seen there. -/
theorem cells_compositeLine {overlay background : Text} {screen : Size} {row : Nat}
    (hoverlay : ∀ line ∈ Text.rows overlay, Whole line) (hbackground : IsBackground background)
    (hbase : Whole base) :
    S.cells (compositeLine overlay background screen base row) =
      (List.range screen.width).map fun column =>
        if (placeOf overlay screen).meets row ∧ (placeOf overlay screen).holds column then
          blockCell S background
            ((Text.rows overlay)[row - (placeOf overlay screen).y]?.getD [])
            (column - (placeOf overlay screen).x)
        else baseCell S base column := by
  by_cases hmeets : (placeOf overlay screen).meets row
  · have hline : Whole ((Text.rows overlay)[row - (placeOf overlay screen).y]?.getD []) := by
      rcases hget : (Text.rows overlay)[row - (placeOf overlay screen).y]? with _ | line
      · exact whole_nil
      · exact hoverlay line (List.mem_of_getElem? hget)
    have hplace : (placeOf overlay screen).x ≤ screen.width :=
      Nat.le_trans (Nat.div_le_self _ 2) (Nat.sub_le _ _)
    rw [compositeLine_of_meets hmeets, cells_compositeRow S hbase hline hbackground _ hplace]
    refine List.map_congr_left fun column _ => ?_
    by_cases hholds : (placeOf overlay screen).holds column
    · rw [if_pos hholds, if_pos ⟨hmeets, hholds⟩]
    · rw [if_neg hholds, if_neg fun h => hholds h.2]
  · rw [compositeLine_of_not_meets hmeets, S.cells_fit _ hbase]
    refine List.map_congr_left fun column _ => ?_
    rw [if_neg fun h => hmeets h.1]
    rfl

/-- A row of the composite is written with the characters of what it shows. -/
theorem notMem_compositeRow {c : Char} (hc : Foreign c) {background : Text}
    (hbackground : c ∉ background) (hbase : c ∉ base) (hline : c ∉ line) (place : Placement)
    (screenWidth : Nat) : c ∉ compositeRow base line place screenWidth background := by
  have hleft : c ∉ leftOf base place.x := by
    rw [leftOf]
    split
    · exact List.not_mem_nil
    · split
      · exact fun h => hbase (mem_of_mem_take h)
      · simp only [List.mem_append, not_or]
        exact ⟨⟨hbase, hc.notMem_reset⟩, hc.notMem_blanks _⟩
  have hinside (shown : Nat) : c ∉ inside line shown := by
    rw [inside]
    split
    · exact fun h => hline (mem_of_mem_take h)
    · rw [List.mem_append, not_or]
      exact ⟨hline, hc.notMem_blanks _⟩
  have hright (right : Nat) : c ∉ rightOf base right screenWidth := by
    rw [rightOf]
    dsimp only
    split
    · split
      · rw [List.mem_append, not_or]
        refine ⟨fun h => hbase (mem_of_mem_skip (mem_of_mem_take h)), ?_⟩
        split
        · rw [List.mem_append, not_or]
          exact ⟨hc.notMem_reset, hc.notMem_blanks _⟩
        · exact List.not_mem_nil
      · exact hc.notMem_blanks _
    · exact List.not_mem_nil
  simp only [compositeRow, List.mem_append, not_or]
  exact ⟨⟨⟨⟨⟨⟨hleft, hc.notMem_reset⟩, hbackground⟩, hinside _⟩, hc.notMem_reset⟩, hright _⟩,
    hc.notMem_reset⟩

/-- No row of a composite holds a line feed, unless the background does. -/
theorem lineFeed_notMem_compositeLine {overlay background : Text} {screen : Size} {row : Nat}
    (hbackground : '\n' ∉ background) (hbase : '\n' ∉ base) :
    '\n' ∉ compositeLine overlay background screen base row := by
  by_cases hmeets : (placeOf overlay screen).meets row
  · have hline : '\n' ∉ (Text.rows overlay)[row - (placeOf overlay screen).y]?.getD [] := by
      rcases hget : (Text.rows overlay)[row - (placeOf overlay screen).y]? with _ | line
      · exact List.not_mem_nil
      · exact Text.notMem_of_mem_rows (List.mem_of_getElem? hget)
    rw [compositeLine_of_meets hmeets]
    exact notMem_compositeRow foreign_lineFeed hbackground hbase hline _ _
  · rw [compositeLine_of_not_meets hmeets]
    exact foreign_lineFeed.notMem_fit hbase _

/-- **A block over other text, cell by cell.**  The composite has a row for each
row of the text behind and of the screen.  Each row ends in a reset and is as
wide as the screen; in the block its columns have the cells of the block's line,
read behind the background, and everywhere else those of the row behind. -/
theorem composite_cells (base overlay background : Text) (screen : Size)
    (hscreen : 1 ≤ screen.height) (hbase : ∀ line ∈ Text.rows base, Whole line)
    (hoverlay : ∀ line ∈ Text.rows overlay, Whole line) (hbackground : IsBackground background) :
    ∃ rows, composite base overlay screen background = Text.unrows rows ∧
      ('\n' ∉ background → Text.rows (composite base overlay screen background) = rows) ∧
      rows.length = max (behind base).length screen.height ∧
      ∀ (row : Nat) (h : row < rows.length), reset <:+ rows[row] ∧
        S.cells rows[row] =
          (List.range screen.width).map (seenCell S base overlay background screen row) := by
  have hlength : ((baseRows base screen.height).zipIdx.map fun numbered =>
      compositeLine overlay background screen numbered.1 numbered.2).length =
        max (behind base).length screen.height := by
    rw [List.length_map, List.length_zipIdx, length_baseRows]
  refine ⟨_, composite_eq base overlay screen background, fun hfeed => ?_, hlength,
    fun row h => ?_⟩
  · rw [composite_eq]
    refine Text.rows_unrows (List.ne_nil_of_length_pos (by omega)) fun line hline => ?_
    obtain ⟨⟨base', row⟩, hmem, rfl⟩ := List.mem_map.mp hline
    have hbase' : '\n' ∉ base' := by
      rcases List.mem_append.mp (List.fst_mem_of_mem_zipIdx hmem) with h | h
      · exact Text.notMem_of_mem_rows (mem_rows_of_mem_behind h)
      · have hnil : base' = [] := List.eq_of_mem_replicate h
        rw [hnil]
        exact List.not_mem_nil
    exact lineFeed_notMem_compositeLine hfeed hbase'
  · have hrow : row < (baseRows base screen.height).length := by
      rw [List.length_map, List.length_zipIdx] at h
      exact h
    rw [List.getElem_map, List.getElem_zipIdx, Nat.zero_add]
    refine ⟨reset_isSuffix_compositeLine _ _ _ _ _, ?_⟩
    have hget : (baseRows base screen.height)[row] = (behind base)[row]?.getD [] := by
      rw [← getD_baseRows base screen.height, List.getElem?_eq_getElem hrow, Option.getD_some]
    have hwhole : Whole ((behind base)[row]?.getD []) := by
      rcases hline : (behind base)[row]? with _ | line
      · exact whole_nil
      · exact hbase line (mem_rows_of_mem_behind (List.mem_of_getElem? hline))
    dsimp only
    rw [hget, cells_compositeLine S hoverlay hbackground hwhole]
    exact List.map_congr_left fun column _ => (seenCell_eq S ..).symm

/-- The styling that knows the last style sequence, if it was no reset. -/
def latest : Styling (Option Text) where
  start := none
  apply _ sequence := if isReset sequence then none else some sequence
  apply_reset _ := rfl
  apply_bareReset _ := rfl

/-- A block that resets its own background, over a row in red that the screen
cuts; the row below it is added. -/
theorem composite_cells_over_red :
    let red := "\x1b[31m".toList
    let blue := "\x1b[44m".toList
    let composed :=
      composite (red ++ "abcdefgh".toList) ("X".toList ++ reset ++ "Y".toList) ⟨7, 2⟩ blue
    (Text.rows composed).map latest.cells =
      [[('a', some red), ('b', some red), ('X', some blue), ('Y', none), ('e', some red),
          ('f', some red), ('g', some red)],
        List.replicate 7 (' ', none)] := by
  intro red blue composed
  obtain ⟨rows, -, hrows, hlength, hcells⟩ := composite_cells latest (red ++ "abcdefgh".toList)
    ("X".toList ++ reset ++ "Y".toList) blue ⟨7, 2⟩ (by decide) (by decide) (by decide)
    (Or.inr ⟨by decide, by decide⟩)
  obtain ⟨first, second, rfl⟩ : ∃ first second, rows = [first, second] := by
    match rows, hlength with
    | [first, second], _ => exact ⟨first, second, rfl⟩
  have hread : Text.rows composed = [first, second] := hrows (by decide)
  have hfirst := (hcells 0 Nat.two_pos).2
  have hsecond := (hcells 1 Nat.one_lt_two).2
  dsimp only [List.getElem_cons_zero, List.getElem_cons_succ] at hfirst hsecond
  rw [hread, List.map_cons, List.map_cons, hfirst, hsecond]
  decide

end Modal
end TerminalDialogs
