import TerminalDialogs.Proofs.Table.Load

/-!
# Delimited text is read back

A table is written row by row, with a separator between each two cells.  Reading cuts the text
at line feeds and at separators, but trims it before it cuts, and trims each cell after it has
cut.  What trimming takes from the cells was not there.  What it takes from the whole text may be
a separator, if separators are blanks themselves and the first or the last cell of the table is
empty; and the carriage return that is dropped at the end of a line may be a separator too.

So a table is read back if none of its separators is lost that way (`Sheltered`), and only then
(`delimited_reads_back`).  The converse is by counting: each row has one cell more than it has
separators, and cutting makes no separators (`Text.sum_count_pieces`).
-/

namespace TerminalDialogs
namespace Table

/-! ## Tables as text -/

/-- The text of a table: a row on each line, and the separator between each two cells. -/
def delimited (separator : Char) (table : List (List Text)) : Text :=
  Text.unrows (table.map (Text.join [separator]))

/-- A cell that can be told from the blanks around it. -/
structure Trimmed (cell : Text) : Prop where
  first : ∀ c ∈ cell.head?, Text.isBlank c = false
  last : ∀ c ∈ cell.getLast?, Text.isBlank c = false

/-- A table of one row or more with two cells or more in each row, and cells in which neither the
separator nor a line feed occurs and that have no blanks at their ends. -/
structure Delimitable (separator : Char) (table : List (List Text)) : Prop where
  separator_ne : separator ≠ '\n'
  ne_nil : table ≠ []
  two_le : ∀ row ∈ table, 2 ≤ row.length
  separator_notMem : ∀ row ∈ table, ∀ cell ∈ row, separator ∉ cell
  lineFeed_notMem : ∀ row ∈ table, ∀ cell ∈ row, '\n' ∉ cell
  trimmed : ∀ row ∈ table, ∀ cell ∈ row, Trimmed cell

/-- A table that loses no separator: if separators are blanks, neither the first cell of the first
row nor the last cell of the last row is empty, and if they are carriage returns, the last cell is
empty in none of the other rows. -/
structure Sheltered (separator : Char) (table : List (List Text)) : Prop where
  first : Text.isBlank separator = true → ∀ row ∈ table.head?, row.head? ≠ some []
  last : Text.isBlank separator = true → ∀ row ∈ table.getLast?, row.getLast? ≠ some []
  inner : separator = '\r' → ∀ row ∈ table.dropLast, row.getLast? ≠ some []

/-- What is read is the table; with a header, the titles of the columns are its first row. -/
def ReadsBack (o : Options.Table) (table : List (List Text)) : Prop :=
  if o.hasHeader then
    ∃ first, table = first :: (loadDelimited o).rows ∧
      (loadDelimited o).columns = first.map fun title => ⟨title, 0⟩
  else (loadDelimited o).rows = table

theorem Trimmed.trim_eq {cell : Text} (h : Trimmed cell) : Text.trim cell = cell :=
  Text.trimBoth_eq_self (fun c hc => h.first c hc) fun c hc => h.last c hc

instance (cell : Text) : Decidable (Trimmed cell) :=
  -- not by trying every character
  decidable_of_iff
    (cell.head?.all (fun c => !Text.isBlank c) = true ∧
      cell.getLast?.all (fun c => !Text.isBlank c) = true)
    (by
      simp only [Option.all_eq_true, Bool.not_eq_true']
      exact ⟨fun ⟨first, last⟩ => ⟨first, last⟩, fun h => ⟨h.first, h.last⟩⟩)

instance (separator : Char) (table : List (List Text)) : Decidable (Delimitable separator table) :=
  decidable_of_iff
    (separator ≠ '\n' ∧ table ≠ [] ∧ (∀ row ∈ table, 2 ≤ row.length) ∧
      (∀ row ∈ table, ∀ cell ∈ row, separator ∉ cell) ∧
      (∀ row ∈ table, ∀ cell ∈ row, '\n' ∉ cell) ∧ ∀ row ∈ table, ∀ cell ∈ row, Trimmed cell)
    ⟨fun ⟨hne, hnil, htwo, hseparator, hfeed, htrimmed⟩ =>
      ⟨hne, hnil, htwo, hseparator, hfeed, htrimmed⟩,
      fun h => ⟨h.separator_ne, h.ne_nil, h.two_le, h.separator_notMem, h.lineFeed_notMem,
        h.trimmed⟩⟩

instance (separator : Char) (table : List (List Text)) : Decidable (Sheltered separator table) :=
  decidable_of_iff
    ((Text.isBlank separator = true → ∀ row ∈ table.head?, row.head? ≠ some []) ∧
      (Text.isBlank separator = true → ∀ row ∈ table.getLast?, row.getLast? ≠ some []) ∧
      (separator = '\r' → ∀ row ∈ table.dropLast, row.getLast? ≠ some []))
    ⟨fun ⟨first, last, inner⟩ => ⟨first, last, inner⟩, fun h => ⟨h.first, h.last, h.inner⟩⟩

variable {separator : Char} {table : List (List Text)} {row : List Text}

/-! ## Cutting at one character -/

theorem splitText_go_singleton (seen s : Text) :
    splitText.go [separator] seen s 0 =
      (Text.pieces separator s).modifyHead (seen.reverse ++ ·) := by
  induction s generalizing seen with
  | nil => simp [splitText.go, Text.pieces]
  | cons c s ih =>
    rw [splitText.go, Text.pieces]
    by_cases hc : c = separator
    · subst hc
      have hagain := ih []
      rw [List.length_singleton, Nat.sub_self, hagain]
      rcases Text.pieces c s with _ | ⟨piece, others⟩ <;> simp [List.isPrefixOf]
    · have hother : ([separator].isPrefixOf (c :: s)) = false := by
        simpa [List.isPrefixOf] using Ne.symm hc
      rw [hother, if_neg Bool.false_ne_true, if_neg hc, ih]
      rcases hpieces : Text.pieces separator s with _ | ⟨piece, others⟩
      · exact absurd hpieces (Text.pieces_ne_nil separator s)
      · simp

theorem splitText_singleton (s : Text) : splitText [separator] s = Text.pieces separator s := by
  rw [splitText, splitText_go_singleton]
  rcases Text.pieces separator s with _ | ⟨piece, others⟩ <;> rfl

/-- A line has one cell more than it has separators. -/
theorem length_splitCells (line : Text) :
    (splitCells [separator] line).length = line.count separator + 1 := by
  rw [splitCells, List.length_map, splitText_singleton, Text.length_pieces]

/-! ## The lines of a table -/

namespace Delimitable

variable (h : Delimitable separator table)
include h

/-- **A line is cut into the cells of its row.** -/
theorem splitCells_join (hrow : row ∈ table) :
    splitCells [separator] (Text.join [separator] row) = row := by
  have hne : row ≠ [] := by
    have htwo := h.two_le row hrow
    rintro rfl
    simp at htwo
  rw [splitCells, splitText_singleton, Text.pieces_join hne (h.separator_notMem row hrow)]
  conv_rhs => rw [← List.map_id row]
  exact List.map_congr_left fun cell hcell => (h.trimmed row hrow cell hcell).trim_eq

theorem count_join (hrow : row ∈ table) :
    (Text.join [separator] row).count separator + 1 = row.length := by
  rw [← length_splitCells, h.splitCells_join hrow]

theorem join_ne_nil (hrow : row ∈ table) : Text.join [separator] row ≠ [] := by
  intro hnil
  have hcount := h.count_join hrow
  have htwo := h.two_le row hrow
  rw [hnil, List.count_nil] at hcount
  omega

theorem lineFeed_notMem_join (hrow : row ∈ table) : '\n' ∉ Text.join [separator] row := by
  intro hmem
  rcases Text.mem_of_mem_join hmem with hmem | ⟨cell, hcell, hmem⟩
  · exact h.separator_ne (List.mem_singleton.mp hmem).symm
  · exact h.lineFeed_notMem row hrow cell hcell hmem

theorem rows_delimited :
    Text.rows (delimited separator table) = table.map (Text.join [separator]) := by
  refine Text.rows_unrows (by simpa using h.ne_nil) fun line hline => ?_
  obtain ⟨row, hrow, rfl⟩ := List.mem_map.mp hline
  exact h.lineFeed_notMem_join hrow

theorem count_delimited :
    (delimited separator table).count separator =
      ((table.map (Text.join [separator])).map (List.count separator)).sum := by
  rw [← Text.sum_count_pieces h.separator_ne, ← h.rows_delimited, Text.rows]

/-- A line whose first cell is empty begins with a separator. -/
theorem exists_join_eq_cons (hrow : row ∈ table) (hempty : row.head? = some []) :
    ∃ rest, Text.join [separator] row = separator :: rest := by
  have htwo := h.two_le row hrow
  rcases row with _ | ⟨cell, _ | ⟨next, others⟩⟩
  · simp at htwo
  · simp at htwo
  · obtain rfl := Option.some.inj hempty
    rw [Text.join_cons_cons]
    exact ⟨_, rfl⟩

/-- A line whose last cell is empty ends with a separator. -/
theorem exists_join_eq_concat (hrow : row ∈ table) (hempty : row.getLast? = some []) :
    ∃ rest, Text.join [separator] row = rest ++ [separator] := by
  obtain ⟨front, rfl⟩ := List.getLast?_eq_some_iff.mp hempty
  have hfront : front ≠ [] := by
    have htwo := h.two_le _ hrow
    rintro rfl
    simp at htwo
  rw [Text.join_append [separator] hfront (List.cons_ne_nil [] []), Text.join_singleton,
    List.append_nil]
  exact ⟨_, rfl⟩

/-- A line begins with the separator or with what is no blank. -/
theorem head?_join (hrow : row ∈ table) {c : Char}
    (hc : (Text.join [separator] row).head? = some c) :
    row.head? = some [] ∧ c = separator ∨ row.head? ≠ some [] ∧ Text.isBlank c = false := by
  by_cases hempty : row.head? = some []
  · obtain ⟨rest, hrest⟩ := h.exists_join_eq_cons hrow hempty
    rw [hrest] at hc
    exact Or.inl ⟨hempty, (Option.some.inj hc).symm⟩
  · rcases row with _ | ⟨cell, others⟩
    · simp at hc
    · have hne : cell ≠ [] := fun hcell => hempty (congrArg some hcell)
      rw [Text.head?_join hne] at hc
      exact Or.inr ⟨hempty, (h.trimmed _ hrow cell List.mem_cons_self).first c hc⟩

/-- A line ends with the separator or with what is no blank. -/
theorem getLast?_join (hrow : row ∈ table) {c : Char}
    (hc : (Text.join [separator] row).getLast? = some c) :
    row.getLast? = some [] ∧ c = separator ∨ row.getLast? ≠ some [] ∧ Text.isBlank c = false := by
  by_cases hempty : row.getLast? = some []
  · obtain ⟨rest, hrest⟩ := h.exists_join_eq_concat hrow hempty
    rw [hrest, List.getLast?_concat] at hc
    exact Or.inl ⟨hempty, (Option.some.inj hc).symm⟩
  · rcases List.eq_nil_or_concat' row with rfl | ⟨front, cell, rfl⟩
    · simp at hc
    · rw [List.getLast?_concat, Option.some.injEq] at hempty
      rw [Text.getLast?_join hempty] at hc
      refine Or.inr ⟨by rwa [List.getLast?_concat, ne_eq, Option.some.injEq], ?_⟩
      exact (h.trimmed _ hrow cell (by simp)).last c hc

/-- The text begins as its first line does. -/
theorem head?_delimited :
    ∃ row ∈ table, row ∈ table.head? ∧
      (delimited separator table).head? = (Text.join [separator] row).head? := by
  obtain ⟨row, others, rfl⟩ := List.exists_cons_of_ne_nil h.ne_nil
  refine ⟨row, List.mem_cons_self, rfl, ?_⟩
  rw [delimited, Text.unrows, List.map_cons]
  exact Text.head?_join (h.join_ne_nil List.mem_cons_self) ['\n'] _

/-- The text ends as its last line does. -/
theorem getLast?_delimited :
    ∃ row ∈ table, row ∈ table.getLast? ∧
      (delimited separator table).getLast? = (Text.join [separator] row).getLast? := by
  rcases List.eq_nil_or_concat' table with rfl | ⟨front, row, rfl⟩
  · exact absurd rfl h.ne_nil
  · have hrow : row ∈ front ++ [row] := by simp
    refine ⟨row, hrow, List.getLast?_concat, ?_⟩
    rw [delimited, Text.unrows, List.map_append, List.map_singleton]
    exact Text.getLast?_join (h.join_ne_nil hrow) ['\n'] _

/-! ## Nothing lost -/

/-- Trimming leaves the text alone, if its ends are no separators that are blanks. -/
theorem trim_delimited
    (hfirst : Text.isBlank separator = true → ∀ row ∈ table.head?, row.head? ≠ some [])
    (hlast : Text.isBlank separator = true → ∀ row ∈ table.getLast?, row.getLast? ≠ some []) :
    Text.trim (delimited separator table) = delimited separator table := by
  refine Text.trimBoth_eq_self (fun c hc => ?_) fun c hc => ?_
  · obtain ⟨row, hrow, hhead, heq⟩ := h.head?_delimited
    rcases h.head?_join hrow (heq ▸ hc) with ⟨hempty, rfl⟩ | ⟨-, hblank⟩
    · exact Bool.eq_false_iff.mpr fun hblank => hfirst hblank row hhead hempty
    · exact hblank
  · obtain ⟨row, hrow, hhead, heq⟩ := h.getLast?_delimited
    rcases h.getLast?_join hrow (heq ▸ hc) with ⟨hempty, rfl⟩ | ⟨-, hblank⟩
    · exact Bool.eq_false_iff.mpr fun hblank => hlast hblank row hhead hempty
    · exact hblank

/-- **The lines of a sheltered table are its rows.** -/
theorem lines_delimited (hsheltered : Sheltered separator table) :
    Text.lines (Text.trim (delimited separator table)) = table.map (Text.join [separator]) := by
  rw [h.trim_delimited hsheltered.first hsheltered.last, Text.lines, h.rows_delimited]
  refine Text.closeLines_eq_self (fun line hline hreturn => ?_) fun hmem => ?_
  · rw [← List.map_dropLast] at hline
    obtain ⟨row, hrow, rfl⟩ := List.mem_map.mp hline
    rcases h.getLast?_join (List.dropLast_subset _ hrow) hreturn with ⟨hempty, heq⟩ | ⟨-, hblank⟩
    · exact hsheltered.inner heq.symm row hrow hempty
    · exact absurd hblank (by decide)
  · obtain ⟨row, hrow, hnil⟩ := List.mem_map.mp (List.mem_of_getLast? hmem)
    exact h.join_ne_nil hrow hnil

/-! ## Something lost -/

/-- If the table is read back from the lines, each line has the separators of its row. -/
theorem map_count_eq {lines : List Text} (hread : lines.map (splitCells [separator]) = table) :
    lines.map (List.count separator) =
      (table.map (Text.join [separator])).map (List.count separator) := by
  have hlengths : lines.map (fun line => line.count separator + 1) = table.map List.length := by
    rw [← hread, List.map_map]
    exact List.map_congr_left fun line _ => (length_splitCells line).symm
  have hrows : table.map List.length =
      (table.map (Text.join [separator])).map (fun line => line.count separator + 1) := by
    rw [List.map_map]
    exact List.map_congr_left fun row hrow => (h.count_join hrow).symm
  have hpred (ls : List Text) : ls.map (List.count separator) =
      (ls.map fun line => line.count separator + 1).map (· - 1) := by
    rw [List.map_map]
    rfl
  rw [hpred, hlengths, hrows, ← hpred]

/-- A table that is read back is sheltered. -/
theorem sheltered
    (hread : (Text.lines (Text.trim (delimited separator table))).map (splitCells [separator]) =
      table) : Sheltered separator table := by
  have hcounts := h.map_count_eq hread
  have hall : (delimited separator table).count separator ≤
      (Text.trim (delimited separator table)).count separator := by
    rw [h.count_delimited, ← hcounts, ← Text.sum_count_pieces h.separator_ne (Text.trim _)]
    exact Text.sum_count_closeLines_le separator _
  have hkept : ∀ rest : Text, List.Sublist (Text.trim (delimited separator table)) rest →
      (delimited separator table).count separator ≤ rest.count separator := fun rest hrest =>
    hall.trans (hrest.count_le separator)
  have hfirst : Text.isBlank separator = true → ∀ row ∈ table.head?, row.head? ≠ some [] := by
    intro hblank row hrow hempty
    obtain ⟨row', hrow', hhead, heq⟩ := h.head?_delimited
    obtain rfl : row' = row := Option.some.inj (hhead.symm.trans hrow)
    obtain ⟨rest, hrest⟩ := h.exists_join_eq_cons hrow' hempty
    rw [hrest, List.head?_cons] at heq
    obtain ⟨text, htext⟩ := List.head?_eq_some_iff.mp heq
    have hshorter : List.Sublist (Text.trim (delimited separator table)) text := by
      rw [htext, Text.trim, Text.trimBoth_cons_of_sep hblank]
      exact Text.trimBoth_sublist _ text
    have hcount := hkept text hshorter
    rw [htext, List.count_cons_self] at hcount
    omega
  have hlast : Text.isBlank separator = true →
      ∀ row ∈ table.getLast?, row.getLast? ≠ some [] := by
    intro hblank row hrow hempty
    obtain ⟨row', hrow', hhead, heq⟩ := h.getLast?_delimited
    obtain rfl : row' = row := Option.some.inj (hhead.symm.trans hrow)
    obtain ⟨rest, hrest⟩ := h.exists_join_eq_concat hrow' hempty
    rw [hrest, List.getLast?_concat] at heq
    obtain ⟨text, htext⟩ := List.getLast?_eq_some_iff.mp heq
    have hshorter : List.Sublist (Text.trim (delimited separator table)) text := by
      rw [htext, Text.trim, Text.trimBoth_concat_of_sep hblank]
      exact Text.trimBoth_sublist _ text
    have hcount := hkept text hshorter
    rw [htext, List.count_append, List.count_singleton_self] at hcount
    omega
  refine ⟨hfirst, hlast, fun hreturn row hrow hempty => ?_⟩
  -- nothing is trimmed, so what is lost is lost where the lines are closed
  rw [h.trim_delimited hfirst hlast, Text.lines, h.rows_delimited] at hcounts
  obtain ⟨rest, hrest⟩ := h.exists_join_eq_concat (List.dropLast_subset _ hrow) hempty
  have hline : Text.join [separator] row ∈ (table.map (Text.join [separator])).dropLast := by
    rw [← List.map_dropLast]
    exact List.mem_map_of_mem hrow
  have hcount := Text.apply_dropReturn_of_map_closeLines hcounts hline
  subst hreturn
  rw [hrest, Text.dropReturn, if_pos List.getLast?_concat, List.dropLast_concat,
    List.count_append, List.count_singleton_self] at hcount
  omega

end Delimitable

/-! ## Reading -/

section Reading

variable {o : Options.Table}
  (hsep : (if o.separator.isEmpty then [','] else o.separator) = [separator])
include hsep

theorem rows_of_plain (hheader : o.hasHeader = false) :
    (loadDelimited o).rows = (Text.lines (Text.trim o.csv)).map (splitCells [separator]) := by
  rw [loadDelimited, hsep, hheader]

/-- The first line of a text with a header has the titles, and there is one at least. -/
theorem read_of_header (hheader : o.hasHeader = true) {line : Text} {body : List Text}
    (hlines : Text.lines (Text.trim o.csv) = line :: body) :
    (loadDelimited o).rows = body.map (splitCells [separator]) ∧
      (loadDelimited o).columns =
        (splitCells [separator] line).map fun title => (⟨title, 0⟩ : Options.Column) := by
  have htitles : ((splitCells [separator] line).map
      fun title => (⟨title, 0⟩ : Options.Column)).isEmpty = false := by
    rw [List.isEmpty_map, List.isEmpty_eq_false_iff_exists_mem]
    exact List.exists_mem_of_length_pos (by rw [length_splitCells]; omega)
  rw [loadDelimited, hsep, hheader, hlines]
  refine ⟨rfl, ?_⟩
  dsimp only
  rw [htitles, if_neg Bool.false_ne_true]

theorem readsBack_of_lines (hne : table ≠ [])
    (hread : (Text.lines (Text.trim o.csv)).map (splitCells [separator]) = table) :
    ReadsBack o table := by
  rw [ReadsBack]
  cases hheader : o.hasHeader with
  | false =>
    rw [if_neg Bool.false_ne_true, rows_of_plain hsep hheader]
    exact hread
  | true =>
    rw [if_pos rfl]
    rcases hlines : Text.lines (Text.trim o.csv) with _ | ⟨line, body⟩
    · rw [hlines] at hread
      exact absurd hread.symm hne
    · obtain ⟨hrows, hcolumns⟩ := read_of_header hsep hheader hlines
      rw [hlines, List.map_cons] at hread
      exact ⟨_, by rw [hrows, hread], hcolumns⟩

theorem lines_of_readsBack (hrows : ∀ row ∈ table, row ≠ [])
    (hcolumns : o.hasHeader = true → o.columns = []) (hread : ReadsBack o table) :
    (Text.lines (Text.trim o.csv)).map (splitCells [separator]) = table := by
  rw [ReadsBack] at hread
  cases hheader : o.hasHeader with
  | false =>
    rw [hheader, if_neg Bool.false_ne_true, rows_of_plain hsep hheader] at hread
    exact hread
  | true =>
    rw [hheader, if_pos rfl] at hread
    obtain ⟨first, htable, htitles⟩ := hread
    rcases hlines : Text.lines (Text.trim o.csv) with _ | ⟨line, body⟩
    · -- there are titles in the table, but no columns
      have hnone : (loadDelimited o).columns = [] := by
        rw [loadDelimited, hsep, hheader, hlines, hcolumns hheader]
        rfl
      rw [hnone] at htitles
      have hfirst : first ≠ [] := hrows first (htable ▸ List.mem_cons_self)
      exact absurd (List.map_eq_nil_iff.mp htitles.symm) hfirst
    · obtain ⟨hbody, hline⟩ := read_of_header hsep hheader hlines
      have hinjective : Function.Injective fun title : Text => (⟨title, 0⟩ : Options.Column) :=
        fun a b hab => congrArg Options.Column.title hab
      rw [htitles] at hline
      rw [htable, hbody, List.map_cons, List.map_injective_iff.mpr hinjective hline]

end Reading

/-- **Delimited text is read back** as the table that it was written from, with a final line feed
or without, if the table is sheltered from trimming, and only then.  Where nothing is left of the
text the columns stay, so that a header is missed is said only if there were none. -/
theorem delimited_reads_back (h : Delimitable separator table) {o : Options.Table}
    (hseparator : o.separator = [separator] ∨ o.separator = [] ∧ separator = ',') {final : Text}
    (hfinal : final = [] ∨ final = ['\n']) (hcsv : o.csv = delimited separator table ++ final) :
    (Sheltered separator table → ReadsBack o table) ∧
      ((o.hasHeader = true → o.columns = []) → ReadsBack o table → Sheltered separator table) ∧
      (o.rows = [] → load o = loadDelimited o) := by
  have hsep : (if o.separator.isEmpty then [','] else o.separator) = [separator] := by
    rcases hseparator with heq | ⟨heq, rfl⟩
    · rw [heq]
      rfl
    · rw [heq]
      rfl
  have htrim : Text.trim o.csv = Text.trim (delimited separator table) := by
    rw [hcsv]
    rcases hfinal with rfl | rfl
    · rw [List.append_nil]
    · exact Text.trimBoth_concat_of_sep (by decide) _
  have hrows : ∀ row ∈ table, row ≠ [] := by
    intro row hrow hnil
    have htwo := h.two_le row hrow
    simp [hnil] at htwo
  refine ⟨fun hsheltered => ?_, fun hcolumns hread => ?_, fun hnone => ?_⟩
  · refine readsBack_of_lines hsep h.ne_nil ?_
    rw [htrim, h.lines_delimited hsheltered, List.map_map]
    conv_rhs => rw [← List.map_id table]
    exact List.map_congr_left fun row hrow => h.splitCells_join hrow
  · refine h.sheltered ?_
    rw [← htrim]
    exact lines_of_readsBack hsep hrows hcolumns hread
  · have hne : o.csv ≠ [] := by
      obtain ⟨row, hrow, -, heq⟩ := h.head?_delimited
      intro hnil
      rw [hcsv] at hnil
      rw [(List.append_eq_nil_iff.mp hnil).1, List.head?_nil, eq_comm,
        List.head?_eq_none_iff] at heq
      exact h.join_ne_nil hrow heq
    rw [load, hnone, if_pos]
    simpa using hne

/-- Empty cells are kept between tabs, at the ends of a row in the middle as well. -/
theorem delimited_reads_back_tabs :
    let table : List (List Text) := [["a".toList, [], "b".toList], [[], "x y".toList, []],
      ["c".toList, "d".toList]]
    let o : Options.Table :=
      { csv := "a\t\tb\n\tx y\t\nc\td\n".toList, separator := ['\t'], hasHeader := true }
    Delimitable '\t' table ∧ o.csv = delimited '\t' table ++ ['\n'] ∧
      (load o).columns.map Options.Column.title = ["a".toList, [], "b".toList] ∧
      (load o).rows = [[[], "x y".toList, []], ["c".toList, "d".toList]] := by
  intro table o
  have htable : Delimitable '\t' table := by decide
  have hcsv : o.csv = delimited '\t' table ++ ['\n'] := rfl
  obtain ⟨hread, -, hload⟩ :=
    delimited_reads_back htable (o := o) (Or.inl rfl) (Or.inr rfl) hcsv
  have hback : ReadsBack o table := hread (by decide)
  rw [ReadsBack, if_pos rfl] at hback
  obtain ⟨first, hrows, hcolumns⟩ := hback
  obtain ⟨rfl, hrest⟩ := List.cons.inj hrows
  rw [hload rfl]
  refine ⟨htable, hcsv, ?_, hrest.symm⟩
  rw [hcolumns]
  rfl

/-- A tab in front of the first row is trimmed, and its first cell is gone. -/
theorem empty_corner_lost :
    let table : List (List Text) := [[[], "b".toList], ["c".toList, "d".toList]]
    let o : Options.Table := { csv := "\tb\nc\td".toList, separator := ['\t'] }
    Delimitable '\t' table ∧ o.csv = delimited '\t' table ∧
      (loadDelimited o).rows = [["b".toList], ["c".toList, "d".toList]] ∧
      (loadDelimited o).rows ≠ table := by
  intro table o
  exact ⟨by decide, rfl, by decide, by decide⟩

end Table
end TerminalDialogs
