import TerminalDialogs.Proofs.Styled.Shown

/-!
# What a fitted line shows

A line that is brought to a width should show its first characters and blanks behind them,
and it does if it is cut, or if it ends between sequences.  A line that is filled up although
its end cuts a sequence off is another matter: the reset that is written behind the line is
read as a part of that sequence.  How much of it is lost depends on the sequence
(`strip_fit_filled`).  Behind a single ESC and in a control sequence the rest of the reset is
shown and makes the line too wide; a command swallows the reset and all blanks, so the line
is too short unless it was as wide as it should be.  So `fit_exact_iff` says for which lines
the width is right.
-/

namespace TerminalDialogs
namespace Styled

/-! ## The sequence that a line ends in -/

theorem unfinished_mem_runs_iff {s sequence : Text} : Run.unfinished sequence ∈ runs s ↔
    ∃ opening seen, (Scan.readAll none s).2 = some (opening, seen) ∧ sequence = seen.reverse := by
  have hread : Token.unfinished sequence ∉ (Scan.readAll none s).1 := fun h =>
    Bool.true_eq_false.mp (isUnfinished_eq_false_of_mem_readAll h)
  rw [runs, unfinished_mem_foldr_push, tokens_eq_readAll, List.mem_append, or_iff_right hread]
  rcases (Scan.readAll none s).2 with _ | ⟨opening, seen⟩
  · simp
  · rw [Scan.tail, List.mem_singleton, Token.unfinished.injEq]
    constructor
    · rintro rfl
      exact ⟨opening, seen, rfl, rfl⟩
    · rintro ⟨_, _, h, rfl⟩
      cases h
      rfl

/-- The characters of a sequence tell whether it is a command. -/
theorem Scan.Shaped.isCommand_iff {opening : Opening} {seen : Text}
    (h : Scan.Shaped (some (opening, seen))) :
    isCommand seen.reverse = true ↔ ∃ afterEsc, opening = .command afterEsc := by
  rcases opening with _ | _ | afterEsc
  · have hseen : seen.reverse = [esc] := h
    rw [hseen]
    exact iff_of_false (by decide) (by simp)
  · obtain ⟨body, hseen⟩ := h
    rw [hseen]
    exact iff_of_false (by simp [isCommand]) (by simp)
  · obtain ⟨⟨body, hseen⟩, -⟩ := h
    rw [hseen]
    exact iff_of_true (by simp [isCommand]) ⟨afterEsc, rfl⟩

/-- A line ends in a command if the reading of the line does. -/
theorem ends_in_command_iff {s : Text} :
    (∃ sequence, Run.unfinished sequence ∈ runs s ∧ isCommand sequence = true) ↔
      ∃ afterEsc, (seeAll none s).2 = some (.command afterEsc) := by
  have hshaped : (Scan.readAll none s).2.Shaped :=
    readAll_shaped (show Scan.Shaped none from trivial) s
  have hseen := seeAll_eq_readAll none s
  rw [Option.map_none] at hseen
  simp only [hseen, unfinished_mem_runs_iff]
  generalize (Scan.readAll none s).2 = state at hshaped
  constructor
  · rintro ⟨_, ⟨opening, seen, rfl, rfl⟩, hcommand⟩
    obtain ⟨afterEsc, rfl⟩ := hshaped.isCommand_iff.mp hcommand
    exact ⟨afterEsc, rfl⟩
  · rintro ⟨afterEsc, hplace⟩
    obtain ⟨⟨opening, seen⟩, rfl, rfl⟩ := Option.map_eq_some_iff.mp hplace
    exact ⟨seen.reverse, ⟨_, seen, rfl, rfl⟩, hshaped.isCommand_iff.mpr ⟨afterEsc, rfl⟩⟩

/-! ## What is behind a line -/

/-- What a filled line shows behind its own characters, by the place where the line ends. -/
def filling (k : Nat) : Option Opening → Text
  | none => Text.blanks k
  | some .bare => "[0m".toList ++ Text.blanks k
  | some .control => "0m".toList ++ Text.blanks k
  | some (.command _) => []

theorem filling_eq_blanks_iff {k : Nat} {place : Option Opening} :
    filling k place = Text.blanks k ↔
      place = none ∨ k = 0 ∧ ∃ afterEsc, place = some (.command afterEsc) := by
  have hlonger (a : Char) (w : Text) : a :: w ++ Text.blanks k ≠ Text.blanks k := fun h =>
    absurd (congrArg List.length h) (by simp; omega)
  rcases place with _ | _ | _ | afterEsc
  · simp [filling]
  · exact iff_of_false (hlonger '[' ['0', 'm']) (by simp)
  · exact iff_of_false (hlonger '0' ['m']) (by simp)
  · have hnone : [] = Text.blanks k ↔ k = 0 := by
      rw [eq_comm, Text.blanks, List.replicate_eq_nil_iff]
    simp [filling, hnone]

theorem seeAll_visible_reset {w : Text} (h : esc ∉ w) : seeAll none (w ++ reset) = (w, none) := by
  rw [seeAll_of_whole ((whole_of_visible h).append whole_reset),
    strip_append (whole_of_visible h), strip_reset, strip_of_visible h, List.append_nil]

/-- A reset completes what is open and shows the rest of itself, but a command goes on. -/
theorem seeAll_filling (place : Option Opening) (k : Nat) :
    (seeAll place (reset ++ (Text.blanks k ++ reset))).1 = filling k place := by
  have hesc (w : Text) (h : esc ∉ w) : esc ∉ w ++ Text.blanks k := fun hmem =>
    (List.mem_append.mp hmem).elim h (esc_notMem_blanks k)
  have hvisible (w : Text) (h : esc ∉ w) :
      (seeAll none (w ++ (Text.blanks k ++ reset))).1 = w ++ Text.blanks k := by
    rw [← List.append_assoc, seeAll_visible_reset (hesc w h)]
  rcases place with _ | _ | _ | afterEsc
  · rw [seeAll_append, seeAll_of_whole whole_reset, strip_reset]
    exact hvisible [] List.not_mem_nil
  · exact hvisible "[0m".toList (by decide)
  · exact hvisible "0m".toList (by decide)
  · have hends (c : Char) (h : Foreign c) : c ∉ reset ++ Text.blanks k ++ reset := by
      simp only [List.mem_append, not_or]
      exact ⟨⟨h.notMem_reset, h.notMem_blanks k⟩, h.notMem_reset⟩
    have hsplit : reset ++ Text.blanks k ++ reset =
        (reset ++ Text.blanks k ++ [esc, '[', '0']) ++ ['m'] := by
      simp [reset]
    have hnone : ∀ d ∈ (reset ++ Text.blanks k ++ [esc, '[', '0']) ++ ['m'],
        d ≠ bel ∧ d ≠ '\\' := by
      rw [← hsplit]
      exact fun d hd => ⟨ne_of_mem_of_not_mem hd (hends bel ⟨by decide, by decide⟩),
        ne_of_mem_of_not_mem hd (hends '\\' ⟨by decide, by decide⟩)⟩
    rw [← List.append_assoc, hsplit, seeAll_command hnone]
    rfl

/-- **A line that is filled up** shows its characters and what its end makes of a reset,
blanks and a reset. -/
theorem strip_fit_filled {n : Nat} {line : Text} (h : width line ≤ n) :
    strip (fit n line) = strip line ++ filling (n - width line) (seeAll none line).2 := by
  rw [fit, if_neg (Nat.not_lt.mpr h), List.append_assoc, List.append_assoc, strip_eq_seeAll,
    seeAll_append, seeAll_filling, ← strip_eq_seeAll]

/-- **A line that is cut** shows its first characters. -/
theorem strip_fit_cut {n : Nat} {line : Text} (h : n < width line) :
    strip (fit n line) = (strip line).take n := by
  rw [fit, if_pos h, strip_append (whole_take n line), strip_reset, List.append_nil,
    ← Styling.plain.map_fst_cellsFrom (), Styling.cellsFrom_take, List.map_take,
    Styling.map_fst_cellsFrom]

/-- **The exact width.**  A fitted line ends in a reset, whatever it was.  It has the width it
is fitted to, and shows the first characters of the line with blanks behind them, exactly if
it was cut, or ends between sequences, or ends in a command and has that width already. -/
theorem fit_exact_iff (n : Nat) (line : Text) :
    reset <:+ fit n line ∧
      ((width (fit n line) = n ∧
          strip (fit n line) =
            (strip line).take (min n (width line)) ++ Text.blanks (n - width line)) ↔
        n < width line ∨ Whole line ∨
          (n = width line ∧
            ∃ sequence, Run.unfinished sequence ∈ runs line ∧ isCommand sequence = true)) := by
  refine ⟨reset_isSuffix_fit n line, ?_⟩
  by_cases hcut : n < width line
  · rw [iff_true_intro (Or.inl hcut), iff_true, strip_fit_cut hcut,
      Nat.min_eq_left (Nat.le_of_lt hcut), Nat.sub_eq_zero_of_le (Nat.le_of_lt hcut)]
    exact ⟨width_fit (Or.inr hcut), (List.append_nil _).symm⟩
  · have hfilled : width line ≤ n := Nat.not_lt.mp hcut
    have hall : (strip line).take (min n (width line)) = strip line := by
      rw [Nat.min_eq_right hfilled, width, List.take_length]
    have hexact : (width (fit n line) = n ∧
        strip (fit n line) =
          (strip line).take (min n (width line)) ++ Text.blanks (n - width line)) ↔
        filling (n - width line) (seeAll none line).2 = Text.blanks (n - width line) := by
      rw [hall, width, strip_fit_filled hfilled, List.append_cancel_left_eq, List.length_append]
      refine and_iff_right_of_imp fun h => ?_
      rw [h, Text.length_blanks]
      exact Nat.add_sub_cancel' hfilled
    have hwide : n - width line = 0 ↔ n = width line := by omega
    rw [hexact, filling_eq_blanks_iff, or_iff_right hcut, whole_iff_seeAll, ends_in_command_iff,
      hwide]

/-- What is left of a control sequence takes the beginning of the reset with it. -/
theorem fitted_line_too_wide :
    let line := "ab".toList ++ [esc, '[', '3']
    width line = 2 ∧ strip (fit 20 line) = "ab0m".toList ++ Text.blanks 18 ∧
      width (fit 20 line) ≠ 20 := by
  decide

end Styled
end TerminalDialogs
