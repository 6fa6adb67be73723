import TerminalDialogs.Proofs.Widget.Fits.Drawn

/-!
# The table fits into its room

The rows of a table are drawn like those of other widgets, and the border and the head
are counted with the lines around the list.  If the border leaves no room inside, blank
rows stand for the head and the rows of the table.
-/

namespace TerminalDialogs
namespace Widget
namespace Table

open Modal Screen TerminalDialogs.Table

variable {w : Table}

/-! ## The rows of the screen -/

theorem solid_of_mem_shownRows (h : ∀ s ∈ w.options.cells, Text.Solid s)
    {numbered : List Text × Nat} (hmem : numbered ∈ w.shownRows) :
    ∀ s ∈ numbered.1, Text.Solid s := by
  intro s hs
  have hrow : numbered.1 ∈ w.options.rows :=
    List.fst_mem_of_mem_zipIdx (List.mem_of_mem_drop (List.mem_of_mem_take hmem))
  exact h s (List.mem_append_right _ (List.mem_flatten.mpr ⟨_, hrow, hs⟩))

theorem drawn_bodyRows (h : ∀ s ∈ w.options.cells, Text.Solid s) :
    ∀ row ∈ w.bodyRows, Drawn w.columns row := by
  have hblank : Drawn w.columns
      (List.replicate w.columns { pen := ({} : Pen).merge w.palette.base }) :=
    drawn_replicate (Cell.plain_blank _) _
  intro row hrow
  rw [bodyRows] at hrow
  split at hrow
  · rcases List.mem_cons.mp hrow with rfl | hrow
    · exact hblank
    · rwa [List.eq_of_mem_replicate hrow]
  · rcases List.mem_cons.mp hrow with rfl | hrow
    · have htitles : ∀ s ∈ w.options.columns.map Options.Column.title, Text.Solid s :=
        fun s hs => h s (List.mem_append_left _ hs)
      exact (fills_drawHead htitles _ _).drawn hblank
    · split at hrow
      · rwa [List.mem_singleton.mp hrow]
      · obtain ⟨numbered, hnumbered, rfl⟩ := List.mem_map.mp hrow
        exact (fills_drawRow (solid_of_mem_shownRows h hnumbered) _ _ _ _).drawn hblank

theorem drawn_tableRows (h : ∀ s ∈ w.options.cells, Text.Solid s) :
    ∀ row ∈ w.tableRows, Drawn w.columns row := by
  intro row hrow
  rw [tableRows] at hrow
  split at hrow
  · rw [List.mem_append, List.mem_append, List.mem_singleton, List.mem_singleton] at hrow
    rcases hrow with (rfl | hrow) | rfl
    · exact drawn_borderRow (by decide) (by decide) (by decide) _ _
    · obtain ⟨inside, hinside, rfl⟩ := List.mem_map.mp hrow
      exact (fills_borderSides _).drawn (drawn_bodyRows h inside hinside)
    · exact drawn_borderRow (by decide) (by decide) (by decide) _ _
  · exact drawn_bodyRows h row hrow

/-! ## Their number -/

theorem length_shownRows (w : Table) : w.shownRows.length ≤ max w.rows 1 := by
  rw [shownRows, List.length_take]
  omega

theorem length_bodyRows (w : Table) : w.bodyRows.length ≤ 1 + max w.rows 1 := by
  have hshown := w.length_shownRows
  rw [bodyRows]
  split
  · simp only [List.length_cons, List.length_replicate, List.length_map]
    omega
  · split
    · simp only [List.length_cons, List.length_nil]
      omega
    · simp only [List.length_cons, List.length_map]
      omega

theorem length_tableRows (w : Table) : w.tableRows.length ≤ w.chrome + max w.rows 1 := by
  have hbody := w.length_bodyRows
  rw [tableRows, chrome]
  split
  · simp only [List.length_append, List.length_map, List.length_cons, List.length_nil]
    omega
  · omega

theorem fits (hoptions : ∀ s ∈ w.options.texts, Text.Loose s)
    (hcells : ∀ s ∈ w.options.cells, Text.Solid s) :
    Fits (max w.width 1) w.height w.view := by
  have htitle : Text.Loose w.options.title := hoptions _ (by simp [Options.Table.texts])
  have hheader := loose_headerLines htitle Text.loose_nil w.palette
  have hlength : w.header.length ≤ 1 := by
    rw [header, headerLines]
    split <;> simp
  have hchrome : w.chrome ≤ 3 := by
    rw [chrome]
    split <;> omega
  have hrows : w.rows ≤ max (w.height - (w.header.length + w.chrome + 1)) 1 := listRows_le _ _ _
  have htable := w.length_tableRows
  rw [view]
  refine fits_of_lines (lines_paintRows ?_ fun row hrow => ?_) ?_
  · simp [drawLines]
  · rw [List.mem_append, List.mem_append] at hrow
    rcases hrow with (hrow | hrow) | hrow
    · exact drawn_drawLines hheader row hrow
    · exact drawn_tableRows hcells row hrow
    · refine drawn_drawLines (fun line hline => ?_) row hrow
      rw [List.mem_singleton.mp hline]
      exact loose_hintLine (Text.loose_of_plain (by decide)) _
  · simp only [List.length_append, length_drawLines, List.length_cons, List.length_nil]
    omega

end Table
end Widget
end TerminalDialogs
