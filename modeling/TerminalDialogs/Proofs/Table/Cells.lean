import TerminalDialogs.Proofs.Screen.Drawn
import TerminalDialogs.Proofs.Text.Rows
import TerminalDialogs.Table.Cells

/-!
# Tables are drawn in full

Drawing a table keeps rows drawn, as drawing lines does (`fills_drawHead`,
`fills_drawRow`), but for fewer texts.  In a table a character that takes no column
is not left out: it joins the cell in front of it, which then shows two characters,
and the row is written wider than it is.  So the texts have to be *solid*: loose,
and every character that is shown takes a column.  No more than this is used of how
many columns a character takes, and nothing of where the columns of the table stand.
-/

namespace TerminalDialogs

/-- A loose text whose characters take a column each, if they are shown. -/
structure Text.Solid (s : Text) : Prop where
  loose : Text.Loose s
  columns_ne : ∀ c ∈ s, Text.isControl c = false → Text.columns [c] ≠ 0

instance (s : Text) : Decidable s.Solid :=
  have := List.decidableBAll (fun c => Text.isControl c = false → Text.columns [c] ≠ 0) s
  decidable_of_iff (s.Loose ∧ ∀ c ∈ s, Text.isControl c = false → Text.columns [c] ≠ 0)
    ⟨fun h => ⟨h.1, h.2⟩, fun h => ⟨h.loose, h.columns_ne⟩⟩

theorem Text.Solid.of_subset {s t : Text} (hs : Text.Solid s) (h : t ⊆ s) : Text.Solid t :=
  ⟨hs.loose.of_subset h, fun c hc => hs.columns_ne c (h hc)⟩

namespace Table

open Screen

variable {width : Nat} {row : Row}

/-! ## Parts of rows -/

/-- Cells of a row can be replaced by as many others. -/
theorem drawn_replace (h : Drawn width row) {start n : Nat} {middle : Row}
    (hmiddle : Drawn (min n (width - start)) middle) :
    Drawn width (row.take start ++ middle ++ row.drop (start + n)) := by
  have hwidth : min start width + min n (width - start) + (width - (start + n)) = width := by omega
  rw [← hwidth]
  exact ((h.take start).append hmiddle).append (h.drop _)

theorem drawn_map (h : Drawn width row) {f : Cell → Cell}
    (hf : ∀ cell, (f cell).symbol = cell.symbol) : Drawn width (row.map f) where
  length_eq := by rw [List.length_map, h.length_eq]
  plain := by
    intro cell hcell
    obtain ⟨other, ho, rfl⟩ := List.mem_map.mp hcell
    obtain ⟨c, hc, hsymbol⟩ := h.plain other ho
    exact ⟨c, hc, (hf other).trans hsymbol⟩

theorem fills_restyle (start n : Nat) (style : Style) : Fills (restyle start n style) :=
  ⟨fun h => drawn_replace h (drawn_map ((h.drop start).take n) fun _ => rfl)⟩

/-! ## Texts in columns -/

/-- Clusters that take a column each fill the cells one by one.  Nothing joins the
cell in front, unless it is there to be joined: `isFirst` says that the first cell is
still to be written. -/
theorem drawn_drawCell {isFirst : Bool} {m n : Nat} {passed rest : Row} {clusters : List Text}
    (hclusters : ∀ k ∈ clusters,
      Text.columns k ≠ 0 ∧ ∃ c, Text.isControl c = false ∧ k = [c])
    (hfirst : isFirst = true ∨ passed ≠ []) (hpassed : Drawn m passed) (hrest : Drawn n rest) :
    Drawn (m + n) (drawCell isFirst clusters passed rest) := by
  induction clusters generalizing isFirst passed rest m n with
  | nil => exact hpassed.append hrest
  | cons k clusters ih =>
    obtain ⟨hcolumns, hplain⟩ := hclusters k List.mem_cons_self
    have hclusters' := fun k' hk' => hclusters k' (List.mem_cons_of_mem k hk')
    unfold drawCell
    dsimp only
    by_cases hroom : rest.length < Text.columns k
    · rw [if_pos hroom]
      exact hpassed.append hrest
    · rw [if_neg hroom]
      rcases rest with _ | ⟨cell, behind⟩
      · exact absurd (Nat.le_zero.mp (Nat.not_lt.mp hroom)) hcolumns
      · have hjoins : (!isFirst && passed.isEmpty) = false := by
          rcases hfirst with rfl | hne
          · rfl
          · simp [hne]
        have hlength := hrest.length_eq
        simp only [List.length_cons] at hlength hroom
        have hbehind : Drawn behind.length behind := Drawn.tail (hrest.length_eq ▸ hrest)
        have hwritten : Drawn (m + Text.columns k) (passed ++
            { cell with symbol := k } :: List.replicate (Text.columns k - 1) {}) := by
          have hcell : Cell.Plain { cell with symbol := k } := hplain
          have hwide := hpassed.append
            ((drawn_replicate (Cell.plain_blank {}) (Text.columns k - 1)).cons hcell)
          rwa [Nat.sub_add_cancel (Nat.one_le_iff_ne_zero.mpr hcolumns)] at hwide
        simp only [if_neg hcolumns, hjoins]
        have hsum : m + n = m + Text.columns k + (behind.length - (Text.columns k - 1)) := by omega
        rw [hsum]
        exact ih hclusters' (Or.inr (by simp)) hwritten (hbehind.drop _)

theorem fills_drawText {s : Text} (hs : s.Solid) (start n : Nat) :
    Fills (drawText start n s) := by
  have hline : ((Text.lines s).headD []).Solid := by
    rcases hlines : Text.lines s with _ | ⟨line, lines⟩
    · exact ⟨Text.loose_nil, fun c hc => absurd hc List.not_mem_nil⟩
    · refine hs.of_subset (Text.subset_of_mem_lines ?_)
      rw [hlines]
      exact List.mem_cons_self
  refine ⟨fun h => ?_⟩
  rw [drawText]
  split
  · exact h
  · refine drawn_replace h ?_
    have hclusters : ∀ k ∈ Text.shownClusters ((Text.lines s).headD []),
        Text.columns k ≠ 0 ∧ ∃ c, Text.isControl c = false ∧ k = [c] := by
      intro k hk
      obtain ⟨c, hmem, hc, rfl⟩ := Text.exists_of_mem_shownClusters hline.loose hk
      exact ⟨hline.columns_ne c hmem hc, c, hc, rfl⟩
    have hcells := drawn_drawCell hclusters (Or.inl rfl) drawn_nil ((h.drop start).take n)
    rwa [Nat.zero_add] at hcells

theorem fills_drawCells {cells : List Text} (hcells : ∀ s ∈ cells, s.Solid) (left : Nat)
    (extents : List Extent) : Fills (drawCells left extents cells) := by
  refine ⟨fun {width row} h => ?_⟩
  rw [drawCells]
  have hzip : ∀ c ∈ extents.zip cells, c.2.Solid := fun c hc => hcells c.2 (List.of_mem_zip hc).2
  generalize extents.zip cells = pairs at hzip
  induction pairs generalizing row with
  | nil => exact h
  | cons c pairs ih =>
    rw [List.forall_mem_cons] at hzip
    exact ih ((fills_drawText hzip.1 _ _).drawn h) hzip.2

/-! ## Rows of the table -/

theorem fills_drawHead {titles : List Text} (htitles : ∀ s ∈ titles, s.Solid) (f : Frame)
    (style : Style) : Fills (drawHead f style titles) :=
  (fills_restyle _ _ _).andThen (fills_drawCells htitles _ _)

theorem solid_selectionMark : selectionMark.Solid := by decide

theorem fills_drawRow {cells : List Text} (hcells : ∀ s ∈ cells, s.Solid) (f : Frame)
    (style highlight : Style) (isSelected : Bool) :
    Fills (drawRow f style highlight isSelected cells) := by
  have hmark : Fills fun row => if isSelected && 0 < f.markWidth then
      drawText f.left f.markWidth selectionMark (restyle f.left f.markWidth style row) else row :=
    ((fills_restyle _ _ _).andThen (fills_drawText solid_selectionMark _ _)).ite Fills.id
  have hselected : Fills fun row =>
      if isSelected then restyle f.left f.inner highlight row else row :=
    (fills_restyle _ _ _).ite Fills.id
  exact (((fills_restyle f.left f.inner style).andThen hmark).andThen
    (fills_drawCells hcells f.cellsLeft f.extents)).andThen hselected

/-! ## Borders -/

theorem drawn_borderRow {left middle right : Char} (hleft : Text.isControl left = false)
    (hmiddle : Text.isControl middle = false) (hright : Text.isControl right = false)
    (width : Nat) (pen : Pen) : Drawn width (borderRow left middle right width pen) := by
  have hcell {c : Char} (hc : Text.isControl c = false) : Cell.Plain ⟨[c], pen⟩ := ⟨c, hc, rfl⟩
  rcases width with _ | _ | width
  · exact drawn_nil
  · exact drawn_nil.cons (hcell hleft)
  · exact ((drawn_replicate (hcell hmiddle) width).append
      (drawn_nil.cons (hcell hright))).cons (hcell hleft)

theorem fills_borderSides (pen : Pen) : Fills (borderSides pen) := by
  refine ⟨fun {width row} h => ?_⟩
  have hside : Cell.Plain ⟨['│'], pen⟩ := ⟨'│', by decide, rfl⟩
  obtain rfl := h.length_eq
  rcases row with _ | ⟨first, _ | ⟨second, rest⟩⟩
  · exact h
  · exact drawn_nil.cons hside
  · have hmiddle : Drawn rest.length ((second :: rest).dropLast) :=
      ⟨by simp, fun cell hcell => h.tail.plain cell (List.dropLast_subset _ hcell)⟩
    exact (hmiddle.append (drawn_nil.cons hside)).cons hside

end Table
end TerminalDialogs
