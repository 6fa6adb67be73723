import Mathlib.Data.List.TakeWhile
import TerminalDialogs.Proofs.Session.Frame
import TerminalDialogs.Proofs.Widget.Fits.Drawn

/-!
# The pager fits into its room

The pager writes the rows of its window as they are, so they have to be whole: cut or
filled up to the width of the pager, they have that width then (`Styled.width_fit`).  A
row is a piece of a line behind a painted gutter, and what a carriage return leaves of
it is either all of it or a piece of the text alone.
-/

namespace TerminalDialogs

open Styled

/-- Breaking a line makes nothing up. -/
theorem Styled.subset_of_mem_pieces {width total start : Nat} {line piece : Text}
    (h : piece ∈ pieces width total line start) : piece ⊆ line := by
  induction start using pieces.induct width total with
  | case1 start hstart ih =>
    rw [pieces, if_pos hstart] at h
    rcases List.mem_cons.mp h with rfl | h
    · exact fun c hc => mem_of_mem_skip (mem_of_mem_take hc)
    · exact ih h
  | case2 start hstart =>
    rw [pieces, if_neg hstart] at h
    exact absurd h List.not_mem_nil

theorem Styled.subset_of_mem_wrap {width : Nat} {line piece : Text} (h : piece ∈ wrap width line) :
    piece ⊆ line := by
  rw [wrap] at h
  split at h
  · rw [List.mem_singleton.mp h]
    exact List.Subset.refl line
  · exact subset_of_mem_pieces h

/-- What a carriage return leaves of a gutter and a text behind it. -/
theorem Viewport.whole_overwritten {gutter piece : Text} (hgutter : Whole gutter)
    (hreturn : '\r' ∉ gutter) (hpiece : esc ∉ piece) :
    Whole (overwritten (gutter ++ piece)) := by
  obtain ⟨rest, hrest, hsubset⟩ : ∃ rest, Text.dropReturn (gutter ++ piece) = gutter ++ rest ∧
      rest ⊆ piece := by
    rw [Text.dropReturn]
    split
    · next hlast =>
      rcases List.eq_nil_or_concat piece with rfl | ⟨front, last, rfl⟩
      · rw [List.append_nil] at hlast
        exact absurd (List.mem_of_mem_getLast? hlast) hreturn
      · exact ⟨front, by simp, by simp⟩
    · exact ⟨piece, rfl, List.Subset.refl piece⟩
  have hrest' : esc ∉ rest := fun h => hpiece (hsubset h)
  rw [overwritten, hrest, List.reverse_append, List.takeWhile_append]
  split
  · next hlength =>
    -- no return in the piece, and none in the gutter: all of it is left
    have hall : gutter.reverse.takeWhile (· != '\r') = gutter.reverse := by
      refine List.takeWhile_eq_self_iff.mpr fun c hc => ?_
      have hne : c ≠ '\r' := by
        rintro rfl
        exact hreturn (List.mem_reverse.mp hc)
      simpa using hne
    rw [hall, List.reverse_append, List.reverse_reverse, List.reverse_reverse]
    exact hgutter.append (whole_of_visible hrest')
  · refine whole_of_visible fun h => hrest' ?_
    exact List.mem_reverse.mp ((List.takeWhile_sublist _).subset (List.mem_reverse.mp h))

namespace Widget
namespace Pager

open Modal Screen

variable {w : Pager}

/-! ## The rows of the text -/

theorem notMem_gutter {c : Char} (hdigit : c.isDigit = false) (hblank : c ≠ ' ') (hbar : c ≠ '│')
    (digits line piece : Nat) :
    c ∉ Text.padLeft digits (if piece = 0 then Text.ofNat (line + 1) else []) ++ " │ ".toList := by
  have hnumber : c ∉ if piece = 0 then Text.ofNat (line + 1) else [] := by
    split
    · exact Text.notMem_ofNat hdigit _
    · exact List.not_mem_nil
  have hblanks (n : Nat) : c ∉ Text.blanks n := fun h => hblank (List.eq_of_mem_replicate h)
  rw [Text.padLeft, List.mem_append, List.mem_append, not_or, not_or]
  exact ⟨⟨hblanks _, hnumber⟩, by simp [hblank, hbar]⟩

/-- A gutter is whole and holds neither returns nor line feeds. -/
theorem gutterText_spec (w : Pager) (digits line piece : Nat) :
    Whole (w.gutterText digits line piece) ∧ '\r' ∉ w.gutterText digits line piece ∧
      '\n' ∉ w.gutterText digits line piece := by
  have hesc := notMem_gutter (c := esc) (by decide) (by decide) (by decide) digits line piece
  have hreturn := notMem_gutter (c := '\r') (by decide) (by decide) (by decide) digits line piece
  have hfeed := notMem_gutter (c := '\n') (by decide) (by decide) (by decide) digits line piece
  exact ⟨whole_paint (whole_of_visible hesc) _,
    notMem_paint (by decide) (by decide) hreturn _, notMem_paint (by decide) (by decide) hfeed _⟩

/-- Every row of the text is a part of the text behind a gutter, if there is one. -/
theorem contentRows_spec {row : Text} (h : row ∈ w.contentRows) : ∃ gutter piece,
    row = gutter ++ piece ∧ (Whole gutter ∧ '\r' ∉ gutter ∧ '\n' ∉ gutter) ∧
      ∃ line ∈ Text.lines w.options.content, piece ⊆ line := by
  obtain ⟨line, hline, hrow⟩ := List.mem_flatMap.mp h
  have hmem : line.1 ∈ Text.lines w.options.content := List.fst_mem_of_mem_zipIdx hline
  have hpieces : ∀ piece ∈ (if w.options.softWrap then
      Styled.wrap (w.width - w.gutter) line.1 else [line.1]), piece ⊆ line.1 := by
    intro piece hpiece
    split at hpiece
    · exact subset_of_mem_wrap hpiece
    · rw [List.mem_singleton.mp hpiece]
      exact List.Subset.refl _
  rw [lineRows] at hrow
  split at hrow
  · obtain ⟨piece, hpiece, rfl⟩ := List.mem_map.mp hrow
    exact ⟨_, piece.1, rfl, w.gutterText_spec _ _ _, line.1, hmem,
      hpieces _ (List.fst_mem_of_mem_zipIdx hpiece)⟩
  · exact ⟨[], row, rfl, ⟨whole_nil, List.not_mem_nil, List.not_mem_nil⟩, line.1, hmem,
      hpieces row hrow⟩

theorem notMem_of_mem_contentRows {row : Text} (h : row ∈ w.contentRows) : '\n' ∉ row := by
  obtain ⟨gutter, piece, rfl, ⟨-, -, hgutter⟩, line, hline, hpiece⟩ := contentRows_spec h
  rw [List.mem_append, not_or]
  exact ⟨hgutter, fun hc => Text.notMem_of_mem_lines hline (hpiece hc)⟩

/-- What the window shows is whole and holds no line feed. -/
theorem Presentable.visible (h : w.Presentable) {line : Text} (hline : line ∈ w.viewport.visible) :
    Whole line ∧ '\n' ∉ line := by
  have hcontent : esc ∉ w.options.content :=
    (h.options _ (by simp [Options.Pager.texts])).2
  have htidy : w.viewport.Tidy := by
    intro other ho
    rw [h.lines_eq] at ho
    obtain ⟨row, hrow, rfl⟩ := List.mem_map.mp ho
    exact fun hc => Text.notMem_of_mem_rows hrow (Viewport.mem_of_mem_overwritten hc)
  refine ⟨?_, htidy.notMem_of_mem_visible hline⟩
  rw [Viewport.visible, List.mem_append] at hline
  rcases hline with hline | hline
  · have hmem := List.mem_of_mem_drop (List.mem_of_mem_take hline)
    rw [h.lines_eq] at hmem
    obtain ⟨row, hrow, rfl⟩ := List.mem_map.mp hmem
    by_cases hempty : w.contentRows = []
    · rw [hempty] at hrow
      rw [List.mem_singleton.mp hrow]
      exact whole_nil
    · rw [Text.rows_unrows hempty fun row hrow => notMem_of_mem_contentRows hrow] at hrow
      obtain ⟨gutter, piece, rfl, ⟨hgutter, hreturn, -⟩, other, hother, hpiece⟩ :=
        contentRows_spec hrow
      exact Viewport.whole_overwritten hgutter hreturn fun hc =>
        hcontent (Text.subset_of_mem_lines hother (hpiece hc))
  · rw [List.eq_of_mem_replicate hline]
    exact whole_nil

/-! ## The whole view -/

theorem loose_hint (w : Pager) : Text.Loose w.hint := by
  have hkeys : Text.Loose "↑/↓ scroll • q/enter close • ".toList :=
    Text.loose_of_plain (by decide)
  have hpercent : Text.Loose (Text.padLeft 3 (Text.ofNat w.viewport.progress.percent)) :=
    Text.loose_padLeft.mpr (Text.loose_ofNat _)
  exact Text.loose_append.mpr ⟨Text.loose_append.mpr ⟨hkeys, hpercent⟩, by decide⟩

theorem fits (h : w.Presentable) (hwidth : 1 ≤ w.width) : Fits w.width w.height w.view := by
  have hdrawn {line : Line} (hline : line.Loose) :
      Strip w.width (renderLines [line] w.width w.palette) := by
    simpa only [Nat.max_eq_left hwidth] using strip_renderLines hline w.width w.palette
  have htitle : Text.Loose w.options.title :=
    (h.options _ (by simp [Options.Pager.texts])).1
  have hlength := w.viewport.length_visible.trans h.height_eq
  rw [view]
  refine fits_of_lines (lines_unrows (List.append_ne_nil_of_right_ne_nil _ (List.cons_ne_nil _ _))
    fun line hline => ?_) ?_
  · rw [List.mem_append, List.mem_append, List.mem_singleton] at hline
    rcases hline with (hline | hline) | hline
    · split at hline
      · exact absurd hline List.not_mem_nil
      · rw [List.mem_singleton.mp hline]
        exact hdrawn (by simpa using htitle)
    · obtain ⟨row, hrow, rfl⟩ := List.mem_map.mp hline
      obtain ⟨hwhole, hfeed⟩ := h.visible hrow
      exact strip_fit hwhole hfeed _
    · rw [hline]
      exact hdrawn (loose_hintLine w.loose_hint _)
  · rw [chrome] at hlength
    simp only [List.length_append, List.length_map, List.length_cons, List.length_nil, hlength]
    split <;> simp <;> omega

end Pager
end Widget
end TerminalDialogs
