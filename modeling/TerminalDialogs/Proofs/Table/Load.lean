import TerminalDialogs.Proofs.Options.Texts
import TerminalDialogs.Proofs.Text.Rows
import TerminalDialogs.Proofs.Text.Words
import TerminalDialogs.Table.Columns

/-!
# What is read from delimited text

Reading columns and rows from delimited text cuts the text and trims what it cuts, so
every text of the table is a part of one that the options have (`subset_of_mem_load`).
-/

namespace TerminalDialogs

namespace Table

theorem subset_of_mem_splitText_go {separator seen rest piece : Text} {skip : Nat}
    (h : piece ∈ splitText.go separator seen rest skip) : piece ⊆ seen ++ rest := by
  fun_induction splitText.go separator seen rest skip with
  | case1 seen =>
    rw [List.mem_singleton.mp h, List.append_nil]
    exact List.reverse_subset.mpr (List.Subset.refl seen)
  | case2 seen c rest skip ih =>
    intro d hd
    rcases List.mem_append.mp (ih h hd) with hd | hd
    · exact List.mem_append_left _ hd
    · exact List.mem_append_right _ (List.mem_cons_of_mem c hd)
  | case3 seen c rest hprefix ih =>
    rcases List.mem_cons.mp h with rfl | h
    · exact List.Subset.trans (List.reverse_subset.mpr (List.Subset.refl seen))
        (List.subset_append_left _ _)
    · exact List.Subset.trans (ih h)
        (List.Subset.trans (List.subset_cons_self c rest) (List.subset_append_right seen _))
  | case4 seen c rest hprefix ih =>
    exact List.Subset.trans (ih h) fun d hd => by simpa [or_left_comm] using hd

theorem subset_of_mem_splitText {separator s piece : Text} (h : piece ∈ splitText separator s) :
    piece ⊆ s :=
  subset_of_mem_splitText_go h

theorem subset_of_mem_splitCells {separator line cell : Text}
    (h : cell ∈ splitCells separator line) : cell ⊆ line := by
  obtain ⟨piece, hpiece, rfl⟩ := List.mem_map.mp h
  exact List.Subset.trans (Text.trimBoth_sublist _ piece).subset (subset_of_mem_splitText hpiece)

/-- A line that is read from the options. -/
theorem subset_of_mem_lines {csv line : Text} (h : line ∈ Text.lines (Text.trim csv)) :
    line ⊆ csv :=
  List.Subset.trans (Text.subset_of_mem_lines h) (Text.trimBoth_sublist _ csv).subset

/-- What is left of the options when they are read from delimited text, and where the
rest comes from. -/
theorem loadDelimited_eq (o : Options.Table) : ∃ rows columns,
    loadDelimited o = { o with rows, columns } ∧ (∀ row ∈ rows, ∀ cell ∈ row, cell ⊆ o.csv) ∧
      ∀ c ∈ columns, c ∈ o.columns ∨ c.title ⊆ o.csv := by
  have hcell {separator line cell : Text} (hline : line ∈ Text.lines (Text.trim o.csv))
      (h : cell ∈ splitCells separator line) : cell ⊆ o.csv :=
    List.Subset.trans (subset_of_mem_splitCells h) (subset_of_mem_lines hline)
  have hrows {separator : Text} {body : List Text} (hbody : body ⊆ Text.lines (Text.trim o.csv)) :
      ∀ row ∈ body.map (splitCells separator), ∀ cell ∈ row, cell ⊆ o.csv := by
    intro row hrow cell hmem
    obtain ⟨line, hline, rfl⟩ := List.mem_map.mp hrow
    exact hcell (hbody hline) hmem
  have hcolumns {columns : List Options.Column} {first : List Text}
      (h : ∀ c ∈ columns, c ∈ o.columns ∨ c.title ⊆ o.csv) :
      ∀ c ∈ if columns.isEmpty then first.map fun _ => (⟨[], 0⟩ : Options.Column) else columns,
        c ∈ o.columns ∨ c.title ⊆ o.csv := by
    split
    · intro c hc
      obtain ⟨_, -, rfl⟩ := List.mem_map.mp hc
      exact Or.inr (List.nil_subset _)
    · exact h
  rcases hlines : Text.lines (Text.trim o.csv) with _ | ⟨first, body⟩
  · refine ⟨_, _, by rw [loadDelimited, hlines], hrows ?_, hcolumns fun c hc => ?_⟩
    · cases o.hasHeader <;> exact List.nil_subset _
    · cases hheader : o.hasHeader <;> exact Or.inl (by simpa [hheader] using hc)
  · cases hheader : o.hasHeader with
    | false =>
      refine ⟨_, _, by rw [loadDelimited, hlines, hheader], hrows ?_, hcolumns fun c hc => ?_⟩
      · rw [hlines]
        exact List.Subset.refl _
      · exact Or.inl hc
    | true =>
      refine ⟨_, _, by rw [loadDelimited, hlines, hheader], hrows ?_, hcolumns fun c hc => ?_⟩
      · rw [hlines]
        exact List.subset_cons_self first body
      · obtain ⟨title, htitle, rfl⟩ := List.mem_map.mp hc
        exact Or.inr (hcell (hlines ▸ List.mem_cons_self) htitle)

/-- **Nothing is made up in reading a table.** -/
theorem subset_of_mem_load {o : Options.Table} {s : Text} (h : s ∈ (load o).texts) :
    ∃ t ∈ o.texts, s ⊆ t := by
  rw [load] at h
  split at h
  · obtain ⟨rows, columns, heq, hrows, hcolumns⟩ := loadDelimited_eq o
    have hcsv : o.csv ∈ o.texts := by simp [Options.Table.texts]
    rw [heq, Options.Table.texts, Options.Table.cells, List.mem_append, List.mem_append] at h
    rcases h with h | h | h
    · exact ⟨s, List.mem_append_left _ h, List.Subset.refl s⟩
    · obtain ⟨c, hc, rfl⟩ := List.mem_map.mp h
      rcases hcolumns c hc with hmem | hsubset
      · exact ⟨c.title, List.mem_append_right _ (List.mem_append_left _
          (List.mem_map_of_mem hmem)), List.Subset.refl _⟩
      · exact ⟨o.csv, hcsv, hsubset⟩
    · obtain ⟨row, hrow, hs⟩ := List.mem_flatten.mp h
      exact ⟨o.csv, hcsv, hrows row hrow s hs⟩
  · exact ⟨s, h, List.Subset.refl s⟩

end Table
end TerminalDialogs
