import Mathlib.Data.List.Forall2
import TerminalDialogs.Proofs.Screen.Paint
import TerminalDialogs.Proofs.Styled.Ground
import TerminalDialogs.Proofs.Text.Rows

/-!
# Strips of text

A *strip* is a piece of a line of known width that does not end inside of a sequence.
What lines are put together from is known better: it shows one text and no other
(`Shows`), and pieces side by side show their texts one after the other (`Shows.append`).
Strips one below the other are read back as so many lines (`lines_unrows`).
-/

namespace TerminalDialogs
namespace Screen

open Styled

/-! ## Pieces that show a text -/

/-- A piece of a line that shows just this text and ends outside of sequences. -/
structure Shows (visible s : Text) : Prop where
  whole : Whole s
  strip_eq : Styled.strip s = visible
  lineFeed_notMem : '\n' ∉ s

theorem Shows.append {v w s t : Text} (hs : Shows v s) (ht : Shows w t) :
    Shows (v ++ w) (s ++ t) where
  whole := hs.whole.append ht.whole
  strip_eq := by rw [strip_append hs.whole, hs.strip_eq, ht.strip_eq]
  lineFeed_notMem h := (List.mem_append.mp h).elim hs.lineFeed_notMem ht.lineFeed_notMem

theorem Shows.cast {v w s : Text} (hs : Shows v s) (h : v = w) : Shows w s := h ▸ hs

/-- Visible characters show themselves. -/
theorem shows_of_visible {s : Text} (hesc : esc ∉ s) (hfeed : '\n' ∉ s) : Shows s s :=
  ⟨whole_of_visible hesc, strip_of_visible hesc, hfeed⟩

theorem shows_replicate {c : Char} (hesc : c ≠ esc) (hfeed : c ≠ '\n') (n : Nat) :
    Shows (List.replicate n c) (List.replicate n c) :=
  shows_of_visible (fun h => hesc (List.eq_of_mem_replicate h).symm)
    fun h => hfeed (List.eq_of_mem_replicate h).symm

theorem shows_blanks (n : Nat) : Shows (Text.blanks n) (Text.blanks n) :=
  shows_replicate (by decide) (by decide) n

theorem shows_reset : Shows [] reset :=
  ⟨whole_reset, Styled.strip_reset, foreign_lineFeed.notMem_reset⟩

theorem Shows.paint {v s : Text} (hs : Shows v s) (style : Style) : Shows v (paint s style) where
  whole := whole_paint hs.whole style
  strip_eq := by rw [strip_paint hs.whole, hs.strip_eq]
  lineFeed_notMem := notMem_paint (by decide) (by decide) hs.lineFeed_notMem style

theorem shows_backgroundSequence (c : Rgb) : Shows [] (backgroundSequence c) :=
  ⟨whole_backgroundSequence c, strip_backgroundSequence c,
    notMem_backgroundSequence (by decide) (by decide) c⟩

/-! ## Strips -/

/-- A piece of a line that shows so many characters and ends outside of sequences. -/
structure Strip (width : Nat) (s : Text) : Prop where
  whole : Whole s
  width_eq : Styled.width s = width
  lineFeed_notMem : '\n' ∉ s

/-- A text of so many lines of the given width. -/
structure Lines (width count : Nat) (s : Text) : Prop where
  strip : ∀ line ∈ Text.rows s, Strip width line
  length_eq : (Text.rows s).length = count

theorem strip_fit {line : Text} (hwhole : Whole line) (hfeed : '\n' ∉ line) (n : Nat) :
    Strip n (fit n line) :=
  ⟨whole_fit hwhole n, width_fit (Or.inl hwhole), foreign_lineFeed.notMem_fit hfeed n⟩

/-- **Strips are read back as lines.** -/
theorem lines_unrows {width : Nat} {lines : List Text} (hne : lines ≠ [])
    (h : ∀ line ∈ lines, Strip width line) : Lines width lines.length (Text.unrows lines) := by
  have hrows : Text.rows (Text.unrows lines) = lines :=
    Text.rows_unrows hne fun line hline => (h line hline).lineFeed_notMem
  exact ⟨hrows.symm ▸ h, by rw [hrows]⟩

/-! ## Lines that show texts -/

/-- What lines show, one below the other. -/
theorem map_strip_of_shows {visible lines : List Text} (h : List.Forall₂ Shows visible lines) :
    lines.map Styled.strip = visible := by
  rw [← List.forall₂_eq_eq_eq, List.forall₂_map_left_iff]
  exact h.flip.imp fun _ _ hline => hline.strip_eq

theorem strip_of_shows {visible lines : List Text} (h : List.Forall₂ Shows visible lines)
    {width : Nat} (hwidth : ∀ v ∈ visible, v.length = width) :
    ∀ line ∈ lines, Strip width line := by
  induction h with
  | nil => exact fun line hline => absurd hline List.not_mem_nil
  | cons hline _ ih =>
    rw [List.forall_mem_cons] at hwidth ⊢
    refine ⟨⟨hline.whole, ?_, hline.lineFeed_notMem⟩, ih hwidth.2⟩
    rw [Styled.width, hline.strip_eq, hwidth.1]

/-- **A rectangle is read back** from lines that show it. -/
theorem lines_of_shows {visible lines : List Text} (h : List.Forall₂ Shows visible lines)
    (hne : visible ≠ []) {width : Nat} (hwidth : ∀ v ∈ visible, v.length = width) :
    Lines width visible.length (Text.unrows lines) ∧
      (Text.rows (Text.unrows lines)).map Styled.strip = visible := by
  have hstrips := strip_of_shows h hwidth
  have hlines : lines ≠ [] := fun hnil => hne (List.forall₂_nil_right_iff.mp (hnil ▸ h))
  have hrows : Text.rows (Text.unrows lines) = lines :=
    Text.rows_unrows hlines fun line hline => (hstrips line hline).lineFeed_notMem
  rw [hrows, h.length_eq]
  exact ⟨lines_unrows hlines hstrips, map_strip_of_shows h⟩

end Screen
end TerminalDialogs
