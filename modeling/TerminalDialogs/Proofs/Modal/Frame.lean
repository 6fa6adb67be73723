import TerminalDialogs.Modal.Overlay
import TerminalDialogs.Proofs.Screen.Strip

/-!
# What a frame shows

A frame consists of painted edges, a background, padding, and the lines of the contents
with whatever sequences they hold; the widths of the lines are measured to fill them up.
What is to be seen of it is a *box*, written down here without any sequence: a rounded
border, within it a blank row and two blank columns on every side, and in the middle what
the lines of the contents show, from the left and filled up with blanks (`box`).

The box is a rectangle (`length_box`, `length_of_mem_box`), and it is what the frame shows,
if no line of the contents breaks off inside of a sequence (`frame_shows`).  Such a line
would swallow the blanks and the edge behind it.
-/

namespace TerminalDialogs
namespace Modal

open Styled Screen

/-! ## The greatest width -/

theorem widest_eq_max (lines : List Text) : widest lines = (lines.map width).max?.getD 0 := by
  rw [widest, List.foldl_max]
  exact Nat.zero_max _

theorem width_le_widest {lines : List Text} {line : Text} (h : line ∈ lines) :
    width line ≤ widest lines := by
  rw [widest_eq_max]
  exact List.le_max?_getD_of_mem (List.mem_map_of_mem h)

/-- Lines of one width are as wide as each of them. -/
theorem widest_eq {width count : Nat} {s : Text} (h : Lines width count s) :
    widest (Text.rows s) = width := by
  have hpos : 0 < (Text.rows s).length := List.length_pos_iff.mpr (Text.pieces_ne_nil _ _)
  have hwidths : (Text.rows s).map Styled.width = List.replicate (Text.rows s).length width :=
    List.map_eq_replicate_iff.mpr fun line hline => (h.strip line hline).width_eq
  rw [widest_eq_max, hwidths, List.max?_replicate_of_pos hpos, Option.getD_some]

/-! ## The box -/

/-- What is to be seen of a dialog with the given contents. -/
def box (content : Text) : List Text :=
  let inner := widest (Text.rows content)
  let rule := List.replicate (inner + 4) '─'
  let blank := ['│'] ++ Text.blanks (inner + 4) ++ ['│']
  let bordered (line : Text) :=
    ['│'] ++ Text.blanks 2 ++ Text.padRight inner (strip line) ++ Text.blanks 2 ++ ['│']
  [['╭'] ++ rule ++ ['╮']] ++ [blank] ++ (Text.rows content).map bordered ++ [blank] ++
    [['╰'] ++ rule ++ ['╯']]

theorem length_box (content : Text) : (box content).length = (Text.rows content).length + 4 := by
  simp only [box, List.length_append, List.length_map, List.length_singleton]
  omega

theorem box_ne_nil (content : Text) : box content ≠ [] :=
  List.ne_nil_of_length_pos (by rw [length_box]; omega)

theorem length_of_mem_box {content line : Text} (h : line ∈ box content) :
    line.length = widest (Text.rows content) + 6 := by
  simp only [box, List.mem_append, List.mem_singleton, List.mem_map] at h
  rcases h with (((rfl | rfl) | ⟨row, hrow, rfl⟩) | rfl) | rfl
  · simp
  · simp
  · have hwidth : (strip row).length ≤ widest (Text.rows content) := width_le_widest hrow
    simp only [Text.padRight, List.length_append, Text.length_blanks, List.length_singleton]
    omega
  · simp
  · simp

/-! ## The frame -/

/-- The upper or the lower edge of a frame. -/
theorem shows_bar {left right : Char} (hleft : left ≠ esc ∧ left ≠ '\n')
    (hright : right ≠ esc ∧ right ≠ '\n') (span : Nat) (style : Style) :
    Shows ([left] ++ List.replicate span '─' ++ [right])
      (paint ([left] ++ List.replicate span '─' ++ [right]) style) :=
  (((shows_replicate hleft.1 hleft.2 1).append
    (shows_replicate (by decide) (by decide) span)).append
      (shows_replicate hright.1 hright.2 1)).paint style

/-- **A frame shows the box**, line by line. -/
theorem frame_shows {content : Text} (h : ∀ line ∈ Text.rows content, Whole line) (theme : Theme) :
    ∃ lines, frame content theme = Text.unrows lines ∧ List.Forall₂ Shows (box content) lines := by
  have hedge : Shows ['│'] (paint ['│'] (Style.fg theme.borderColor)) :=
    (shows_replicate (by decide) (by decide) 1).paint _
  have hground : Shows [] theme.backgroundSequence := shows_backgroundSequence _
  have hpadding := shows_blanks paddingColumns
  have hblank (span : Nat) := ((((hedge.append hground).append (shows_blanks span)).append
    shows_reset).append hedge).cast (w := ['│'] ++ Text.blanks span ++ ['│']) (by simp)
  refine ⟨_, rfl, List.rel_append (List.rel_append (List.rel_append (List.rel_append ?_ ?_) ?_) ?_)
    ?_⟩
  · exact .cons (shows_bar (by decide) (by decide) _ _) .nil
  · exact .cons (hblank _) .nil
  · rw [List.forall₂_map_left_iff, List.forall₂_map_right_iff, List.forall₂_same]
    intro line hline
    have hshown : Shows (strip line) line := ⟨h line hline, rfl, Text.notMem_of_mem_rows hline⟩
    have hleft := ((hedge.append hground).append hpadding).append hshown
    have hfill := shows_blanks (widest (Text.rows content) - width line)
    have hright := ((hleft.append hground).append hfill).append hpadding
    exact ((hright.append shows_reset).append hedge).cast
      (by simp [Text.padRight, width, paddingColumns])
  · exact .cons (hblank _) .nil
  · exact .cons (shows_bar (by decide) (by decide) _ _) .nil

end Modal
end TerminalDialogs
