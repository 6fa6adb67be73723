import Mathlib.Algebra.Order.Field.Basic
import Mathlib.Algebra.Order.Field.Rat
import Mathlib.Data.List.DropRight
import Mathlib.Data.List.Forall2
import TerminalDialogs.Proofs.Text.Rows
import TerminalDialogs.Viewport

/-!
# A viewport stays on its text

Text, size and offset of a viewport change independently of each other, so each of them
could leave the window behind the end of the text.  One bound holds after every move
(`offset_le_move`): the offset is at most the greatest one at which the window is full, and
zero if the text is shorter than the window.  All the rest follows from it.  A window that
is not behind the end is filled up with blanks only as far as the text is too short for it
(`visible_eq_append`), and the share of the text that lies behind is a number between zero
and one, also after it is rounded to significant bits and to whole percent: rounding to the
nearest does not pass a number that need not be rounded itself (`nearestEven_le`).
-/

namespace TerminalDialogs

namespace Number

/-! ## Rounding does not pass what need not be rounded -/

/-- A whole number that is not below a quotient is not below the nearest one either. -/
theorem nearestEven_le {n d m : Nat} (h : n ≤ m * d) : nearestEven n d ≤ m := by
  rcases Nat.eq_zero_or_pos d with rfl | hd
  · obtain rfl : n = 0 := Nat.eq_zero_of_le_zero h
    exact Nat.zero_le m
  have hquotient : n / d ≤ m := Nat.div_le_of_le_mul (by rwa [Nat.mul_comm])
  have hsum := Nat.div_add_mod n d
  rcases Nat.lt_or_eq_of_le hquotient with hlt | heq
  · simp only [nearestEven]
    split_ifs <;> omega
  · -- the quotient is the bound itself, so there is nothing to round
    have hrest : n % d = 0 := by
      rw [heq, Nat.mul_comm] at hsum
      omega
    rw [nearestEven, hrest, if_pos (by omega)]
    exact hquotient

/-- A number below two to the number of significant bits, times a power of two, is not
passed. -/
theorem roundSignificant_le {n factor scale : Nat} (h : n ≤ factor * 2 ^ scale)
    (hfactor : factor < 2 ^ significantBits) : roundSignificant n ≤ factor * 2 ^ scale := by
  rw [roundSignificant]
  split
  · exact h
  · next hbits =>
    have hlog : n.log2 < significantBits + scale := by
      have hne : n ≠ 0 := by
        rintro rfl
        exact hbits (Nat.two_pow_pos _)
      rw [Nat.log2_lt hne, Nat.pow_add]
      exact Nat.lt_of_le_of_lt h (Nat.mul_lt_mul_of_pos_right hfactor (Nat.two_pow_pos scale))
    have hexponent : n.log2 + 1 - significantBits ≤ scale := by omega
    -- the bound is a whole number of the units that are rounded to
    obtain ⟨k, hk⟩ := Nat.pow_dvd_pow 2 hexponent
    have hunits : factor * 2 ^ scale = factor * k * 2 ^ (n.log2 + 1 - significantBits) := by
      rw [hk, Nat.mul_assoc, Nat.mul_comm k]
    rw [hunits] at h ⊢
    exact Nat.mul_le_mul_right _ (nearestEven_le h)

namespace Quotient

/-- The number that a quotient is. -/
def value (q : Quotient) : ℚ := q.count / 2 ^ q.scale

theorem count_ofRatio_le {a b : Nat} (h : a ≤ b) :
    (ofRatio a b).count ≤ 2 ^ (ofRatio a b).scale := by
  refine nearestEven_le ?_
  rw [Nat.mul_comm]
  exact Nat.mul_le_mul_left _ h

/-- A share times a factor is at most the factor. -/
theorem scaled_le {q : Quotient} (h : q.count ≤ 2 ^ q.scale) {factor : Nat}
    (hfactor : factor < 2 ^ significantBits) : q.scaled nearestEven factor ≤ factor := by
  have hcount : q.count * factor ≤ factor * 2 ^ q.scale := by
    rw [Nat.mul_comm]
    exact Nat.mul_le_mul_left factor h
  exact nearestEven_le (roundSignificant_le hcount hfactor)

end Quotient

end Number

namespace Viewport

/-! ## Moves -/

/-- What can be done to a viewport. -/
inductive Move where
  | content (text : Text)
  | size (width height : Nat)
  | top
  | bottom
  | up (lines : Nat)
  | down (lines : Nat)
  | pageUp
  | pageDown
  | halfPageUp
  | halfPageDown
  deriving DecidableEq, Repr

/-- The viewport after a move. -/
def move (v : Viewport) : Move → Viewport
  | .content text => v.setContent text
  | .size width height => v.setSize width height
  | .top => v.toTop
  | .bottom => v.toBottom
  | .up n => v.up n
  | .down n => v.down n
  | .pageUp => v.up v.page
  | .pageDown => v.down v.page
  | .halfPageUp => v.up v.halfPage
  | .halfPageDown => v.down v.halfPage

/-- The viewport after moves. -/
def run (v : Viewport) (moves : List Move) : Viewport := moves.foldl move v

/-- The text that a move puts into the window. -/
def Move.text? : Move → Option Text
  | .content text => some text
  | _ => none

/-- The size that a move gives to the window. -/
def Move.size? : Move → Option (Nat × Nat)
  | .size width height => some (width, height)
  | _ => none

variable {v : Viewport} {moves : List Move}

theorem run_concat (v : Viewport) (moves : List Move) (m : Move) :
    run v (moves ++ [m]) = (run v moves).move m := List.foldl_concat ..

/-- **No move leaves the window behind the end of the text.** -/
theorem offset_le_move (h : v.offset ≤ v.lastOffset) (m : Move) :
    (v.move m).offset ≤ (v.move m).lastOffset := by
  have hup (n : Nat) : (v.up n).offset ≤ (v.up n).lastOffset :=
    Nat.le_trans (Nat.sub_le v.offset n) h
  have hdown (n : Nat) : (v.down n).offset ≤ (v.down n).lastOffset := Nat.min_le_right _ _
  cases m with
  | content | size => exact Nat.min_le_right _ _
  | top => exact Nat.zero_le _
  | bottom => exact Nat.le_refl _
  | up | pageUp | halfPageUp => exact hup _
  | down | pageDown | halfPageDown => exact hdown _

theorem offset_le_run (h : v.offset ≤ v.lastOffset) (moves : List Move) :
    (run v moves).offset ≤ (run v moves).lastOffset := by
  induction moves using List.reverseRecOn with
  | nil => exact h
  | append_singleton moves m ih =>
    rw [run_concat]
    exact offset_le_move ih m

/-- The lines are those of the text that was put into the window last. -/
theorem lines_run (v : Viewport) (moves : List Move) :
    (run v moves).lines = ((moves.filterMap Move.text?).getLast?).elim v.lines fun text =>
      (setContent {} text).lines := by
  induction moves using List.reverseRecOn with
  | nil => rfl
  | append_singleton moves m ih =>
    rw [run_concat, List.filterMap_append, List.getLast?_append]
    cases m with
    | content => rfl
    | _ => exact ih

/-- The size is the one that was given last. -/
theorem size_run (v : Viewport) (moves : List Move) :
    ((run v moves).width, (run v moves).height) =
      ((moves.filterMap Move.size?).getLast?).getD (v.width, v.height) := by
  induction moves using List.reverseRecOn with
  | nil => rfl
  | append_singleton moves m ih =>
    rw [run_concat, List.filterMap_append, List.getLast?_append]
    cases m with
    | size => rfl
    | _ => exact ih

/-! ## What is shown -/

theorem length_visible (v : Viewport) : v.visible.length = v.height := by
  rw [visible, List.length_append, List.length_replicate, List.length_take]
  omega

/-- The window shows the lines from the offset on, and is filled up with blank ones only if
the text has too few. -/
theorem visible_eq_append (h : v.offset ≤ v.lastOffset) :
    v.visible = (v.lines.drop v.offset).take v.height ++
      List.replicate (v.height - v.lines.length) [] := by
  have hmissing : v.height - min v.height (v.lines.length - v.offset) =
      v.height - v.lines.length := by
    rw [lastOffset] at h
    omega
  rw [visible, List.length_take, List.length_drop, hmissing]

/-! ## The share that lies behind -/

theorem passed_le_total (h : v.offset ≤ v.lastOffset) :
    v.progress.passed ≤ v.progress.total := by
  rw [progress]
  split
  · exact Nat.le_refl 1
  · exact h

theorem value_quotient_le {p : Progress} (h : p.passed ≤ p.total) : p.quotient.value ≤ 1 := by
  rw [Number.Quotient.value, div_le_one (pow_pos two_pos _)]
  exact_mod_cast Number.Quotient.count_ofRatio_le h

theorem percent_le {p : Progress} (h : p.passed ≤ p.total) : p.percent ≤ 100 :=
  Number.Quotient.scaled_le (Number.Quotient.count_ofRatio_le h) (by decide)

/-! ## Lines of a text -/

/-- A line is what a piece of the text leaves if the cursor returns in it: the text behind
the last return, but for one at the very end of the piece. -/
def Remains (piece line : Text) : Prop :=
  '\r' ∉ line ∧ ∃ front, Text.dropReturn piece = front ++ line ∧
    (front = [] ∨ front.getLast? = some '\r')

theorem remains_overwritten (piece : Text) : Remains piece (overwritten piece) := by
  have hsplit : (Text.dropReturn piece).rdropWhile (· != '\r') ++ overwritten piece =
      Text.dropReturn piece := List.rdropWhile_append_rtakeWhile
  refine ⟨fun hmem => ?_, _, hsplit.symm, ?_⟩
  · exact absurd (List.mem_rtakeWhile_imp hmem) (by decide)
  · by_cases hne : (Text.dropReturn piece).rdropWhile (· != '\r') = []
    · exact Or.inl hne
    · rw [List.getLast?_eq_some_getLast hne]
      exact Or.inr (congrArg some (by simpa using List.rdropWhile_last_not _ _ hne))

theorem forall₂_remains_setContent (v : Viewport) (text : Text) :
    List.Forall₂ Remains (text.splitOn '\n') (v.setContent text).lines := by
  rw [← Text.pieces_eq_splitOn]
  show List.Forall₂ Remains (Text.pieces '\n' text) ((Text.pieces '\n' text).map overwritten)
  rw [List.forall₂_map_right_iff, List.forall₂_same]
  exact fun piece _ => remains_overwritten piece

/-- **A viewport never leaves its content.**  Whatever moves are made from an empty viewport,
the window is not behind the end of the text; the share that lies behind is between zero and
one, and at most a hundred in whole percent.  The window shows as many lines as it is high:
those of the text from the offset on, and blank ones for as many as the text has too few.
The text and the size are the ones that were given last, and a text has one line for each of
its pieces. -/
theorem stays_on_content (width height : Nat) (moves : List Move) :
    let v := run (empty width height) moves
    v.offset ≤ v.lines.length - v.height ∧
      0 ≤ v.progress.quotient.value ∧ v.progress.quotient.value ≤ 1 ∧ v.progress.percent ≤ 100 ∧
      v.visible.length = v.height ∧
      v.visible = (v.lines.drop v.offset).take v.height ++
        List.replicate (v.height - v.lines.length) [] ∧
      v.lines = ((moves.filterMap Move.text?).getLast?).elim [] (fun text =>
        (setContent {} text).lines) ∧
      (v.width, v.height) = ((moves.filterMap Move.size?).getLast?).getD (width, height) ∧
      ∀ text, List.Forall₂ Remains (text.splitOn '\n') (v.setContent text).lines := by
  intro v
  have hoffset : v.offset ≤ v.lastOffset := offset_le_run (Nat.zero_le _) moves
  have hprogress : v.progress.passed ≤ v.progress.total := passed_le_total hoffset
  have hvalue : 0 ≤ v.progress.quotient.value :=
    div_nonneg (Nat.cast_nonneg _) (pow_nonneg two_pos.le _)
  exact ⟨hoffset, hvalue, value_quotient_le hprogress, percent_le hprogress, length_visible v,
    visible_eq_append hoffset, lines_run _ moves, size_run _ moves,
    forall₂_remains_setContent v⟩

end Viewport

end TerminalDialogs
