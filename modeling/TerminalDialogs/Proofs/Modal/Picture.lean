import TerminalDialogs.Proofs.Modal.Composite
import TerminalDialogs.Proofs.Modal.Frame
import TerminalDialogs.Proofs.Styled.Shown

/-!
# The picture of a dialog

Framing, restoring and compositing each measure texts that are full of the sequences
which the step before has written.  The picture that should come out needs none of that:
the rows behind are cut or filled up to the screen (`backdrop`), the box of the dialog is
written down (`box`), and one is drawn over the other place by place (`drawOver`).

That this is what a dialog shows (`overlay_picture`) is put together from what the three
steps do to the text that is shown: a frame shows the box (`frame_shows`), restoring the
background shows nothing else (`strip_restore`), and a composite has in each column the
character of the block or the one behind (`strip_compositeLine`).  The last needs the block
to be a rectangle, which a box is; a composite also fills up the lines of a block that is
none.
-/

namespace TerminalDialogs
namespace Modal

open Styled Screen

/-! ## What should be seen -/

/-- A line of exactly so many characters, cut or filled up with blanks. -/
def cropped (width : Nat) (line : Text) : Text := Text.padRight width (line.take width)

/-- What is behind a dialog: the rows of a text and below them empty ones up to the height
of the screen, each as wide as the screen. -/
def backdrop (base : Text) (screen : Size) : List Text :=
  let rows := Text.rows base
  (rows ++ List.replicate (screen.height - rows.length) []).map fun line =>
    cropped screen.width (strip line)

/-- What a block shows in a place of the screen, if its upper left corner is in column `x`
and row `y`. -/
def charAt? (block : List Text) (x y column row : Nat) : Option Char :=
  if x ≤ column ∧ y ≤ row then (block[row - y]?.getD [])[column - x]? else none

/-- A picture with a block drawn over it, as far as the block lies on the picture. -/
def drawOver (picture block : List Text) (x y : Nat) : List Text :=
  picture.mapIdx fun row line => line.mapIdx fun column c =>
    (charAt? block x y column row).getD c

/-! ## Places -/

theorem cropped_eq_map_range (width : Nat) (s : Text) :
    cropped width s = (List.range width).map fun column => s[column]?.getD ' ' := by
  have hfill : width - (s.take width).length = width - s.length := by
    rw [List.length_take]
    omega
  rw [map_getD_range, cropped, Text.padRight, hfill]
  rfl

/-- In its rows and columns a rectangular block has its own characters. -/
theorem getD_charAt? {block : List Text} {place : Placement}
    (hheight : block.length = place.size.height)
    (hwidth : ∀ line ∈ block, line.length = place.size.width) (column row : Nat) (c : Char) :
    (charAt? block place.x place.y column row).getD c =
      if place.meets row ∧ place.holds column then
        (block[row - place.y]?.getD [])[column - place.x]?.getD ' '
      else c := by
  by_cases hcorner : place.x ≤ column ∧ place.y ≤ row
  · rw [charAt?, if_pos hcorner]
    by_cases hrow : row - place.y < block.length
    · have hline := hwidth _ (List.getElem_mem hrow)
      rw [List.getElem?_eq_getElem hrow, Option.getD_some]
      by_cases hcolumn : column - place.x < place.size.width
      · have hcovers : place.meets row ∧ place.holds column :=
          ⟨⟨hcorner.2, by omega⟩, hcorner.1, by omega⟩
        rw [if_pos hcovers, List.getElem?_eq_getElem (hline.symm ▸ hcolumn), Option.getD_some,
          Option.getD_some]
      · rw [List.getElem?_eq_none (by omega), Option.getD_none, if_neg]
        exact fun hcovers => hcolumn (by have := hcovers.2.2; omega)
    · rw [List.getElem?_eq_none (Nat.le_of_not_lt hrow), Option.getD_none, List.getElem?_nil,
        Option.getD_none, if_neg]
      exact fun hcovers => hrow (by have := hcovers.1.2; omega)
  · rw [charAt?, if_neg hcorner, Option.getD_none, if_neg]
    exact fun hcovers => hcorner ⟨hcovers.2.1, hcovers.1.1⟩

/-! ## The composite -/

/-- A cell shows its character, and a column behind the last one a blank. -/
theorem fst_cellAt {Q : Type} (cells : List (Char × Q)) (q : Q) (column : Nat) :
    (cellAt cells q column).1 = (cells.map Prod.fst)[column]?.getD ' ' := by
  rw [cellAt, List.getElem?_map]
  rcases cells[column]? with _ | cell
  · rfl
  · rfl

/-- What a row of the composite shows, column by column. -/
theorem strip_compositeLine {base overlay background : Text} {screen : Size} {row : Nat}
    (hoverlay : ∀ line ∈ Text.rows overlay, Whole line) (hbackground : IsBackground background)
    (hbase : Whole base) :
    strip (compositeLine overlay background screen base row) =
      (List.range screen.width).map fun column =>
        if (placeOf overlay screen).meets row ∧ (placeOf overlay screen).holds column then
          (strip ((Text.rows overlay)[row - (placeOf overlay screen).y]?.getD []))[
            column - (placeOf overlay screen).x]?.getD ' '
        else (strip base)[column]?.getD ' ' := by
  rw [← Styling.plain.map_fst_cellsFrom Styling.plain.start, Styling.cellsFrom_start,
    cells_compositeLine Styling.plain hoverlay hbackground hbase, List.map_map]
  refine List.map_congr_left fun column _ => ?_
  rw [Function.comp_apply]
  split
  · rw [blockCell, fst_cellAt, Styling.map_fst_cellsFrom]
  · rw [baseCell, fst_cellAt, ← Styling.cellsFrom_start, Styling.map_fst_cellsFrom]

/-- A row of a rectangular block is drawn over the row behind it. -/
theorem strip_compositeLine_eq_mapIdx {base overlay background : Text} {screen : Size}
    {width height : Nat} (hoverlay : Lines width height overlay)
    (hbackground : IsBackground background) (hbase : Whole base) (row : Nat) :
    strip (compositeLine overlay background screen base row) =
      (cropped screen.width (strip base)).mapIdx fun column c =>
        (charAt? ((Text.rows overlay).map strip) ((screen.width - width) / 2)
          ((screen.height - height) / 2) column row).getD c := by
  have hplace : placeOf overlay screen = placement ⟨width, height⟩ screen := by
    rw [placeOf, widest_eq hoverlay, hoverlay.length_eq]
  have hheight : ((Text.rows overlay).map strip).length = height := by
    rw [List.length_map, hoverlay.length_eq]
  have hwidth : ∀ line ∈ (Text.rows overlay).map strip, line.length = width :=
    List.forall_mem_map.mpr fun line hline => (hoverlay.strip line hline).width_eq
  have hline (i : Nat) : ((Text.rows overlay).map strip)[i]?.getD [] =
      strip ((Text.rows overlay)[i]?.getD []) := by
    rw [List.getElem?_map]
    rcases (Text.rows overlay)[i]? with _ | line
    · rfl
    · rfl
  rw [strip_compositeLine (fun line hline => (hoverlay.strip line hline).whole) hbackground hbase,
    hplace, cropped_eq_map_range]
  apply List.ext_getElem
  · rw [List.length_map, List.length_mapIdx, List.length_map]
  · intro column _ _
    rw [List.getElem_map, List.getElem_mapIdx, List.getElem_map, List.getElem_range, ← hline]
    exact (@getD_charAt? _ (placement ⟨width, height⟩ screen) hheight hwidth _ _ _).symm

/-- On a screen with a row, an empty text is one empty row as good as none. -/
theorem baseRows_of_pos (base : Text) {height : Nat} (h : 1 ≤ height) :
    baseRows base height =
      Text.rows base ++ List.replicate (height - (Text.rows base).length) [] := by
  rw [baseRows_eq, behind]
  by_cases hempty : base.isEmpty = true
  · obtain rfl := List.isEmpty_iff.mp hempty
    obtain ⟨n, rfl⟩ := Nat.exists_eq_add_of_le' h
    rfl
  · rw [if_neg hempty]

theorem mem_rows_or_eq_nil_of_mem_baseRows {base line : Text} {height : Nat}
    (h : line ∈ baseRows base height) : line ∈ Text.rows base ∨ line = [] := by
  rcases List.mem_append.mp h with hrow | hempty
  · exact Or.inl (mem_rows_of_mem_behind hrow)
  · exact Or.inr (List.eq_of_mem_replicate hempty)

theorem rows_composite {base overlay background : Text} {screen : Size}
    (hscreen : 1 ≤ screen.height) (hfeed : '\n' ∉ background) :
    Text.rows (composite base overlay screen background) =
      (baseRows base screen.height).mapIdx fun row line =>
        compositeLine overlay background screen line row := by
  rw [composite_eq, List.mapIdx_eq_zipIdx_map]
  refine Text.rows_unrows (List.ne_nil_of_length_pos ?_) fun composed hcomposed => ?_
  · rw [List.length_map, List.length_zipIdx, length_baseRows]
    omega
  · obtain ⟨⟨line, row⟩, hmem, rfl⟩ := List.mem_map.mp hcomposed
    refine lineFeed_notMem_compositeLine hfeed ?_
    rcases mem_rows_or_eq_nil_of_mem_baseRows (List.fst_mem_of_mem_zipIdx hmem) with h | rfl
    · exact Text.notMem_of_mem_rows h
    · exact List.not_mem_nil

/-- **A rectangular block is drawn over the text behind it**, in the middle of the screen. -/
theorem strip_composite {base overlay background : Text} {screen : Size} {width height : Nat}
    (hscreen : 1 ≤ screen.height) (hbase : ∀ line ∈ Text.rows base, Whole line)
    (hoverlay : Lines width height overlay) (hbackground : IsBackground background)
    (hfeed : '\n' ∉ background) :
    (Text.rows (composite base overlay screen background)).map strip =
      drawOver (backdrop base screen) ((Text.rows overlay).map strip)
        ((screen.width - width) / 2) ((screen.height - height) / 2) := by
  rw [rows_composite hscreen hfeed, drawOver, backdrop, ← baseRows_of_pos base hscreen]
  apply List.ext_getElem
  · rw [List.length_map, List.length_mapIdx, List.length_mapIdx, List.length_map]
  · intro row hrow _
    rw [List.length_map, List.length_mapIdx] at hrow
    have hwhole : Whole (baseRows base screen.height)[row] := by
      rcases mem_rows_or_eq_nil_of_mem_baseRows (List.getElem_mem hrow) with h | h
      · exact hbase _ h
      · exact h ▸ whole_nil
    rw [List.getElem_map, List.getElem_mapIdx, List.getElem_mapIdx, List.getElem_map,
      strip_compositeLine_eq_mapIdx hoverlay hbackground hwhole]

/-! ## The dialog -/

theorem isBackground_backgroundSequence (c : Rgb) : IsBackground (backgroundSequence c) := by
  have hparameters := all_isParameter_colorParameters c
  rw [backgroundSequence_eq]
  refine Or.inr ⟨?_, isStyle_controlSequence _ _⟩
  rw [runs, tokens_controlSequence hparameters]
  rfl

theorem shows_restore {visible s : Text} (h : Shows visible s) (c : Rgb) :
    Shows visible (restore (backgroundSequence c) s) where
  whole := (whole_restore c).mpr h.whole
  strip_eq := by rw [strip_restore, h.strip_eq]
  lineFeed_notMem := lineFeed_notMem_restore c h.lineFeed_notMem

/-- Restored, the frame shows the box as before. -/
theorem restore_frame_shows {content : Text} (h : ∀ line ∈ Text.rows content, Whole line)
    (theme : Theme) :
    ∃ lines, restore theme.backgroundSequence (frame content theme) = Text.unrows lines ∧
      List.Forall₂ Shows (box content) lines := by
  obtain ⟨lines, hframe, hshown⟩ := frame_shows h theme
  have hfeed : ∀ line ∈ lines, '\n' ∉ line := fun line hline =>
    (strip_of_shows hshown (fun _ => length_of_mem_box) line hline).lineFeed_notMem
  refine ⟨_, (congrArg _ hframe).trans (restore_unrows theme.background hfeed), ?_⟩
  exact List.forall₂_map_right_iff.mpr
    (hshown.imp fun _ _ hline => shows_restore hline theme.background)

/-- **A dialog is the picture that it should be.**  Row by row one sees the box of its
contents over the text behind, in the middle of the screen; a box that is too large starts
at the upper left corner, and what stands out on the right or below is not seen.  Neither
the contents nor the text behind may break off inside of a sequence in any row. -/
theorem overlay_picture (base content : Text) (screen : Size) (theme : Theme)
    (hscreen : 1 ≤ screen.height) (hbase : ∀ line ∈ Text.rows base, Whole line)
    (hcontent : ∀ line ∈ Text.rows content, Whole line) :
    (Text.rows (overlay base content screen theme)).map strip =
      drawOver (backdrop base screen) (box content)
        ((screen.width - (widest (Text.rows content) + 6)) / 2)
        ((screen.height - ((Text.rows content).length + 4)) / 2) := by
  obtain ⟨lines, hrestored, hshown⟩ := restore_frame_shows hcontent theme
  obtain ⟨hlines, hbox⟩ := lines_of_shows hshown (box_ne_nil content) fun _ => length_of_mem_box
  rw [← hrestored] at hlines hbox
  rw [← hbox, ← length_box, overlay]
  exact strip_composite hscreen hbase hlines (isBackground_backgroundSequence _)
    (lineFeed_notMem_backgroundSequence _)

/-- Two rows in bold over a text in red; the screen cuts the text behind on the right and
the lower edge of the box. -/
theorem overlay_picture_clipped :
    (Text.rows (overlay "\x1b[31mabcdefghijklm\nno".toList "\x1b[1mYes\x1b[0m!\nNo".toList ⟨12, 5⟩
      ⟨⟨26, 26, 46⟩, ⟨124, 58, 237⟩, ⟨124, 58, 237⟩⟩)).map strip =
      ["a╭────────╮l".toList, "n│        │ ".toList, " │  Yes!  │ ".toList,
        " │  No    │ ".toList, " │        │ ".toList] := by
  rw [overlay_picture _ _ ⟨12, 5⟩ _ (by decide) (by decide) (by decide)]
  decide

end Modal
end TerminalDialogs
