import Mathlib.Algebra.Ring.Nat
import TerminalDialogs.Text

/-!
# Rows of a text

Cutting a text at a separator and writing pieces with a separator between each
two are the library's `splitOn` and `intercalate` (`pieces_eq_splitOn`,
`join_eq_intercalate`), so the library's round trip is ours: rows without line
feeds are read back from the text that they make (`rows_unrows`).
-/

namespace TerminalDialogs
namespace Text

theorem pieces_eq_splitOn (separator : Char) (s : Text) :
    pieces separator s = s.splitOn separator := by
  induction s with
  | nil => rfl
  | cons c s ih =>
    rw [pieces, ih, List.splitOn_cons_eq_if_modifyHead]
    by_cases hc : c = separator
    · rw [if_pos hc, if_pos (beq_iff_eq.mpr hc)]
    · rw [if_neg hc, if_neg (by simpa using hc)]
      rcases hs : s.splitOn separator with _ | ⟨piece, others⟩
      · exact absurd hs (List.splitOn_ne_nil separator s)
      · rfl

theorem join_cons_cons (separator piece next : Text) (others : List Text) :
    join separator (piece :: next :: others) =
      piece ++ separator ++ join separator (next :: others) := by
  rw [join]
  exact fun h => nomatch h

theorem join_eq_intercalate (separator : Text) (pieces : List Text) :
    join separator pieces = separator.intercalate pieces := by
  induction pieces with
  | nil => rfl
  | cons piece others ih =>
    rcases others with _ | ⟨next, others⟩
    · simp [join]
    · rw [join_cons_cons, ih, List.intercalate_cons_cons]

theorem join_append (separator : Text) {front back : List Text} (hfront : front ≠ [])
    (hback : back ≠ []) :
    join separator (front ++ back) = join separator front ++ separator ++ join separator back := by
  induction front with
  | nil => exact absurd rfl hfront
  | cons first front ih =>
    rcases front with _ | ⟨next, front⟩
    · obtain ⟨piece, back, rfl⟩ := List.exists_cons_of_ne_nil hback
      rw [List.singleton_append, join_cons_cons, join_singleton]
    · rw [join_cons_cons, List.cons_append, List.cons_append, join_cons_cons,
        ← List.cons_append, ih (List.cons_ne_nil next front)]
      simp only [List.append_assoc]

/-- A joined text begins with the first pieces joined. -/
theorem join_isPrefix (separator : Text) {front ls : List Text} (h : front <+: ls) :
    join separator front <+: join separator ls := by
  obtain ⟨back, rfl⟩ := h
  by_cases hfront : front = []
  · rw [hfront]
    exact List.nil_prefix
  · by_cases hback : back = []
    · refine ⟨[], ?_⟩
      rw [hback, List.append_nil, List.append_nil]
    · rw [join_append separator hfront hback, List.append_assoc]
      exact List.prefix_append _ _

/-- A joined text begins as its first piece does. -/
theorem head?_join {piece : Text} (hne : piece ≠ []) (separator : Text) (others : List Text) :
    (join separator (piece :: others)).head? = piece.head? := by
  obtain ⟨c, rest, rfl⟩ := List.exists_cons_of_ne_nil hne
  rcases others with _ | ⟨next, others⟩
  · rfl
  · rw [join_cons_cons]
    rfl

/-- A joined text ends as its last piece does. -/
theorem getLast?_join {piece : Text} (hne : piece ≠ []) (separator : Text) (front : List Text) :
    (join separator (front ++ [piece])).getLast? = piece.getLast? := by
  rcases front with _ | ⟨first, front⟩
  · rfl
  · rw [join_append separator (List.cons_ne_nil first front) (List.cons_ne_nil piece []),
      join_singleton, List.getLast?_append, List.getLast?_eq_some_getLast hne, Option.some_or]

/-- **Pieces are read back**, if there is one and none of them holds the
separator. -/
theorem pieces_join {separator : Char} {ls : List Text} (hne : ls ≠ [])
    (h : ∀ l ∈ ls, separator ∉ l) : pieces separator (join [separator] ls) = ls := by
  rw [pieces_eq_splitOn, join_eq_intercalate]
  exact List.splitOn_intercalate separator h hne

theorem rows_unrows {ls : List Text} (hne : ls ≠ []) (h : ∀ l ∈ ls, '\n' ∉ l) :
    rows (unrows ls) = ls :=
  pieces_join hne h

theorem join_pieces (separator : Char) (s : Text) : join [separator] (pieces separator s) = s := by
  rw [join_eq_intercalate, pieces_eq_splitOn]
  exact List.intercalate_splitOn separator

theorem unrows_rows (s : Text) : unrows (rows s) = s := join_pieces '\n' s

/-- No piece holds the separator. -/
theorem notMem_of_mem_pieces {separator : Char} {s piece : Text}
    (h : piece ∈ pieces separator s) : separator ∉ piece := by
  induction s generalizing piece with
  | nil =>
    rw [List.mem_singleton.mp h]
    exact List.not_mem_nil
  | cons c s ih =>
    rw [pieces] at h
    by_cases hc : c = separator
    · rw [if_pos hc] at h
      rcases List.mem_cons.mp h with rfl | h
      · exact List.not_mem_nil
      · exact ih h
    · rw [if_neg hc] at h
      rcases hs : pieces separator s with _ | ⟨first, others⟩
      · exact absurd hs (pieces_ne_nil separator s)
      · rw [hs] at h
        have hmem : ∀ other ∈ first :: others, separator ∉ other := fun other ho => by
          rw [← hs] at ho
          exact ih ho
        rcases List.mem_cons.mp h with rfl | h
        · rw [List.mem_cons, not_or]
          exact ⟨Ne.symm hc, hmem first List.mem_cons_self⟩
        · exact hmem piece (List.mem_cons_of_mem first h)

theorem notMem_of_mem_rows {s row : Text} (h : row ∈ rows s) : '\n' ∉ row :=
  notMem_of_mem_pieces h

theorem pieces_append_cons (separator : Char) (a b : Text) :
    pieces separator (a ++ separator :: b) = pieces separator a ++ pieces separator b := by
  induction a with
  | nil => exact if_pos rfl
  | cons c a ih =>
    rw [List.cons_append, pieces, pieces, ih]
    by_cases hc : c = separator
    · rw [if_pos hc, if_pos hc, List.cons_append]
    · rw [if_neg hc, if_neg hc]
      rcases hpieces : pieces separator a with _ | ⟨piece, others⟩
      · exact absurd hpieces (pieces_ne_nil separator a)
      · rfl

theorem length_pieces (separator : Char) (s : Text) :
    (pieces separator s).length = s.count separator + 1 := by
  induction s with
  | nil => rfl
  | cons c rest ih =>
    rw [pieces]
    by_cases h : c = separator
    · rw [if_pos h, List.length_cons, ih, h, List.count_cons_self]
    · rw [if_neg h, List.count_cons_of_ne h, ← ih]
      rcases hpieces : pieces separator rest with _ | ⟨piece, others⟩
      · exact absurd hpieces (pieces_ne_nil separator rest)
      · rfl

/-- Cutting a text loses no character but the separators. -/
theorem sum_count_pieces {separator c : Char} (h : c ≠ separator) (s : Text) :
    ((pieces separator s).map (List.count c)).sum = s.count c := by
  induction s with
  | nil => rfl
  | cons d s ih =>
    rw [pieces]
    by_cases hd : d = separator
    · rw [if_pos hd, List.map_cons, List.sum_cons, ih, List.count_nil, Nat.zero_add, hd,
        List.count_cons_of_ne (Ne.symm h)]
    · rw [if_neg hd]
      rcases hpieces : pieces separator s with _ | ⟨piece, others⟩
      · exact absurd hpieces (pieces_ne_nil separator s)
      · rw [hpieces, List.map_cons, List.sum_cons] at ih
        rw [List.map_cons, List.sum_cons, List.count_cons, List.count_cons]
        omega

/-- More text has no fewer rows. -/
theorem length_rows_le_append (s t : Text) : (rows s).length ≤ (rows (s ++ t)).length := by
  rw [rows, rows, length_pieces, length_pieces, List.count_append]
  exact Nat.succ_le_succ (Nat.le_add_right _ _)

/-! ## Where characters come from -/

theorem mem_of_mem_join {separator : Text} {ls : List Text} {c : Char}
    (h : c ∈ join separator ls) : c ∈ separator ∨ ∃ l ∈ ls, c ∈ l := by
  induction ls with
  | nil => exact absurd h List.not_mem_nil
  | cons piece others ih =>
    rcases others with _ | ⟨next, others⟩
    · exact Or.inr ⟨piece, List.mem_singleton_self piece, h⟩
    · rw [join_cons_cons] at h
      rcases List.mem_append.mp h with h | h
      · rcases List.mem_append.mp h with h | h
        · exact Or.inr ⟨piece, List.mem_cons_self, h⟩
        · exact Or.inl h
      · exact (ih h).imp_right fun ⟨l, hl, hc⟩ => ⟨l, List.mem_cons_of_mem piece hl, hc⟩

theorem subset_of_mem_pieces {separator : Char} {s piece : Text} (h : piece ∈ pieces separator s) :
    piece ⊆ s := by
  induction s generalizing piece with
  | nil =>
    rw [List.mem_singleton.mp h]
    exact List.nil_subset []
  | cons c s ih =>
    rw [pieces] at h
    by_cases hc : c = separator
    · rw [if_pos hc] at h
      rcases List.mem_cons.mp h with rfl | h
      · exact List.nil_subset _
      · exact List.Subset.trans (ih h) (List.subset_cons_self c s)
    · rw [if_neg hc] at h
      rcases hs : pieces separator s with _ | ⟨first, others⟩
      · exact absurd hs (pieces_ne_nil separator s)
      · rw [hs] at h ih
        rcases List.mem_cons.mp h with rfl | h
        · exact List.cons_subset_cons c (ih List.mem_cons_self)
        · exact List.Subset.trans (ih (List.mem_cons_of_mem first h)) (List.subset_cons_self c s)

theorem dropReturn_subset (line : Text) : dropReturn line ⊆ line := by
  rw [dropReturn]
  split
  · exact List.dropLast_subset line
  · exact List.Subset.refl line

theorem subset_of_mem_closeLines {ls : List Text} {line : Text} (h : line ∈ closeLines ls) :
    ∃ l ∈ ls, line ⊆ l := by
  induction ls with
  | nil => exact absurd h List.not_mem_nil
  | cons piece others ih =>
    rcases others with _ | ⟨next, others⟩
    · rw [closeLines] at h
      split at h
      · exact absurd h List.not_mem_nil
      · exact ⟨line, h, List.Subset.refl line⟩
    · rw [closeLines] at h
      · rcases List.mem_cons.mp h with rfl | h
        · exact ⟨piece, List.mem_cons_self, dropReturn_subset piece⟩
        · obtain ⟨l, hl, hsubset⟩ := ih h
          exact ⟨l, List.mem_cons_of_mem piece hl, hsubset⟩
      · exact fun h => nomatch h

theorem subset_of_mem_lines {s line : Text} (h : line ∈ lines s) : line ⊆ s := by
  obtain ⟨row, hrow, hsubset⟩ := subset_of_mem_closeLines h
  exact List.Subset.trans hsubset (subset_of_mem_pieces hrow)

/-- Closing lines loses at most carriage returns. -/
theorem sum_count_closeLines_le (c : Char) (ls : List Text) :
    ((closeLines ls).map (List.count c)).sum ≤ (ls.map (List.count c)).sum := by
  induction ls with
  | nil => exact Nat.le_refl _
  | cons piece others ih =>
    rcases others with _ | ⟨next, others⟩
    · rw [closeLines]
      split
      · exact Nat.zero_le _
      · exact Nat.le_refl _
    · rw [closeLines]
      · have hpiece : (dropReturn piece).count c ≤ piece.count c := by
          rw [dropReturn]
          split
          · exact (List.dropLast_sublist piece).count_le c
          · exact Nat.le_refl _
        rw [List.map_cons, List.sum_cons, List.map_cons, List.sum_cons]
        exact Nat.add_le_add hpiece ih
      · exact fun h => nomatch h

/-- Pieces without carriage returns at their ends are lines, if the last one is not empty. -/
theorem closeLines_eq_self {ls : List Text} (hreturn : ∀ l ∈ ls.dropLast, l.getLast? ≠ some '\r')
    (hlast : ls.getLast? ≠ some []) : closeLines ls = ls := by
  induction ls with
  | nil => rfl
  | cons piece others ih =>
    rcases others with _ | ⟨next, others⟩
    · rw [closeLines, if_neg]
      intro hpiece
      exact hlast (congrArg some hpiece)
    · rw [List.dropLast_cons_cons, List.forall_mem_cons] at hreturn
      rw [List.getLast?_cons_cons] at hlast
      rw [closeLines, dropReturn, if_neg hreturn.1, ih hreturn.2 hlast]
      exact fun h => nomatch h

/-- What closing lines does not change is not changed by any carriage return that is dropped. -/
theorem apply_dropReturn_of_map_closeLines {α : Type} {f : Text → α} {ls : List Text}
    (h : (closeLines ls).map f = ls.map f) {l : Text} (hl : l ∈ ls.dropLast) :
    f (dropReturn l) = f l := by
  induction ls with
  | nil => exact absurd hl List.not_mem_nil
  | cons piece others ih =>
    rcases others with _ | ⟨next, others⟩
    · exact absurd hl List.not_mem_nil
    · rw [closeLines, List.map_cons, List.map_cons] at h
      · obtain ⟨hpiece, hothers⟩ := List.cons.inj h
        rw [List.dropLast_cons_cons] at hl
        rcases List.mem_cons.mp hl with rfl | hl
        · exact hpiece
        · exact ih hothers hl
      · exact fun h => nomatch h

theorem notMem_of_mem_lines {s line : Text} (h : line ∈ lines s) : '\n' ∉ line := fun hc => by
  obtain ⟨row, hrow, hsubset⟩ := subset_of_mem_closeLines h
  exact notMem_of_mem_rows hrow (hsubset hc)

/-! ## Repetitions -/

theorem nodup_eraseDups {α : Type} [BEq α] [LawfulBEq α] (l : List α) : l.eraseDups.Nodup := by
  induction hlength : l.length using Nat.strongRecOn generalizing l with
  | ind n ih =>
    rcases l with _ | ⟨a, l⟩
    · rw [List.eraseDups_nil]
      exact List.nodup_nil
    · rw [List.eraseDups_cons, List.nodup_cons, List.mem_eraseDups, List.mem_filter]
      refine ⟨by simp, ih _ ?_ _ rfl⟩
      rw [← hlength, List.length_cons, Nat.lt_succ_iff]
      exact List.length_filter_le _ _

end Text
end TerminalDialogs
