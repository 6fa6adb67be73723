import TerminalDialogs.Proofs.Styled.Cut

/-!
# Lines that are put together

A line that ends between sequences is *whole*.  Whatever follows a whole text is
read as if it stood alone: the tokens of the two are the tokens of the one and
of the other (`Whole.tokens_append`), and so are the cells, if the second part
is read in the style that the first one leads to (`Styling.cellsFrom_append`).
Of the parts that lines are put together from, resets and blanks are whole, and
so is everything that was cut from a line.

A line that was cut or filled up to some width is described column by column:
`cellAt` is the cell in a column, and a blank one behind the end.
-/

namespace TerminalDialogs
namespace Styled

universe u

/-! ## Whole texts -/

/-- The end of the text cuts no sequence off. -/
def Whole (s : Text) : Prop := ∀ sequence, Run.unfinished sequence ∉ runs s

theorem whole_iff_tokens {s : Text} : Whole s ↔ ∀ t ∈ tokens s, t.isUnfinished = false := by
  constructor
  · intro h t ht
    rcases t with c | sequence | sequence
    · rfl
    · rfl
    · exact absurd (unfinished_mem_foldr_push.mpr ht) (h sequence)
  · intro h sequence hmem
    have ht := h _ (unfinished_mem_foldr_push.mp hmem)
    exact Bool.false_ne_true ht.symm

/-- A text is whole if reading it leads back to where no sequence has begun. -/
theorem whole_iff_readAll {s : Text} : Whole s ↔ (Scan.readAll none s).2 = none := by
  rw [whole_iff_tokens, tokens_eq_readAll]
  constructor
  · intro h
    rcases hstate : (Scan.readAll none s).2 with _ | p
    · rfl
    · have hmem : Token.unfinished p.2.reverse ∈ (Scan.readAll none s).2.tail := by
        rw [hstate]
        exact List.mem_singleton_self _
      exact absurd (h _ (List.mem_append_right _ hmem)) Bool.true_eq_false.mp
  · intro h t ht
    rw [h, Scan.tail_none, List.append_nil] at ht
    exact isUnfinished_eq_false_of_mem_readAll ht

instance (s : Text) : Decidable (Whole s) := decidable_of_iff' _ whole_iff_tokens

theorem Whole.readAll {s : Text} (h : Whole s) : Scan.readAll none s = (tokens s, none) := by
  have hstate := whole_iff_readAll.mp h
  rw [tokens_eq_readAll, hstate, Scan.tail_none, List.append_nil]
  exact Prod.ext rfl hstate

/-- What follows a whole text is read as if it stood alone. -/
theorem Whole.tokens_append {a : Text} (h : Whole a) (b : Text) :
    tokens (a ++ b) = tokens a ++ tokens b := by
  rw [tokens_eq_readAll (a ++ b), Scan.readAll_append, h.readAll, tokens_eq_readAll b,
    List.append_assoc]

theorem Whole.append {a b : Text} (ha : Whole a) (hb : Whole b) : Whole (a ++ b) := by
  rw [whole_iff_readAll, Scan.readAll_append, ha.readAll]
  exact whole_iff_readAll.mp hb

theorem whole_spell {ts : List Token} (h : ∀ t ∈ ts, t.Complete) : Whole (spell ts) :=
  unfinished_notMem_runs_spell h

theorem whole_nil : Whole [] := whole_iff_readAll.mpr rfl

theorem whole_reset : Whole reset := whole_iff_readAll.mpr (by decide)

/-- Visible characters are tokens of their own. -/
theorem tokens_of_visible {s : Text} (h : esc ∉ s) : tokens s = s.map Token.char := by
  induction s with
  | nil => rfl
  | cons c s ih =>
    rw [List.mem_cons, not_or] at h
    rw [tokens, scan, if_neg (Ne.symm h.1), List.map_cons, ← ih h.2]
    rfl

theorem whole_of_visible {s : Text} (h : esc ∉ s) : Whole s := by
  rw [whole_iff_tokens, tokens_of_visible h]
  intro t ht
  obtain ⟨c, -, rfl⟩ := List.mem_map.mp ht
  rfl

theorem esc_notMem_blanks (n : Nat) : esc ∉ Text.blanks n := by
  intro h
  exact absurd (List.eq_of_mem_replicate h) (by decide)

theorem whole_blanks (n : Nat) : Whole (Text.blanks n) := whole_of_visible (esc_notMem_blanks n)

theorem whole_take (n : Nat) (s : Text) : Whole (take n s) := by
  rw [take_eq_spell_keep]
  exact whole_spell fun _ ht => complete_of_mem_keep ht

/-! ## Widths -/

theorem strip_append {a : Text} (h : Whole a) (b : Text) : strip (a ++ b) = strip a ++ strip b := by
  rw [strip, h.tokens_append, List.filterMap_append, ← strip, ← strip]

theorem width_append {a : Text} (h : Whole a) (b : Text) : width (a ++ b) = width a + width b := by
  rw [width, strip_append h, List.length_append, ← width, ← width]

theorem strip_reset : strip reset = [] := by decide

theorem width_reset : width reset = 0 := by decide

theorem strip_of_visible {s : Text} (h : esc ∉ s) : strip s = s := by
  rw [strip, tokens_of_visible h, List.filterMap_map]
  exact List.filterMap_some

theorem width_of_visible {s : Text} (h : esc ∉ s) : width s = s.length := by
  rw [width, strip_of_visible h]

theorem width_blanks (n : Nat) : width (Text.blanks n) = n := by
  rw [width_of_visible (esc_notMem_blanks n), Text.length_blanks]

/-! ## Cells of a text that is read in a given style -/

namespace Styling

variable {Q : Type u} (S : Styling Q)

/-- The cells of a text that is read in a given style. -/
def cellsFrom (q : Q) (s : Text) : List (Char × Q) := S.cellsAlong q (runs s)

/-- The style that a text leads to. -/
def styleAfter (q : Q) (s : Text) : Q := S.steps q (tokens s)

theorem cellsFrom_start (s : Text) : S.cellsFrom S.start s = S.cells s := rfl

theorem cellsFrom_eq_cellsOf (q : Q) (s : Text) : S.cellsFrom q s = S.cellsOf q (tokens s) :=
  S.cellsAlong_foldr_push q (tokens s)

theorem cellsFrom_append (q : Q) {a : Text} (h : Whole a) (b : Text) :
    S.cellsFrom q (a ++ b) = S.cellsFrom q a ++ S.cellsFrom (S.styleAfter q a) b := by
  rw [cellsFrom_eq_cellsOf, h.tokens_append, cellsOf_append, ← cellsFrom_eq_cellsOf,
    ← cellsFrom_eq_cellsOf, ← styleAfter]

theorem styleAfter_append (q : Q) {a : Text} (h : Whole a) (b : Text) :
    S.styleAfter q (a ++ b) = S.styleAfter (S.styleAfter q a) b := by
  rw [styleAfter, h.tokens_append, steps_append, ← styleAfter, ← styleAfter]

@[simp] theorem cellsFrom_nil (q : Q) : S.cellsFrom q [] = [] := rfl

@[simp] theorem cellsFrom_reset (q : Q) : S.cellsFrom q reset = [] := rfl

@[simp] theorem styleAfter_reset (q : Q) : S.styleAfter q reset = S.start := S.apply_reset q

/-- Visible characters are cells in the style that is in force. -/
theorem cellsOf_map_char (q : Q) (s : Text) :
    S.cellsOf q (s.map Token.char) = s.map fun c => (c, q) := by
  induction s with
  | nil => rfl
  | cons c s ih => rw [List.map_cons, cellsOf_char, ih, List.map_cons]

theorem cellsFrom_of_visible (q : Q) {s : Text} (h : esc ∉ s) :
    S.cellsFrom q s = s.map fun c => (c, q) := by
  rw [cellsFrom_eq_cellsOf, tokens_of_visible h, cellsOf_map_char]

/-- Visible characters leave the style alone. -/
theorem styleAfter_of_visible (q : Q) {s : Text} (h : esc ∉ s) : S.styleAfter q s = q := by
  rw [styleAfter, tokens_of_visible h]
  clear h
  induction s with
  | nil => rfl
  | cons c s ih => exact ih

@[simp] theorem cellsFrom_blanks (q : Q) (n : Nat) :
    S.cellsFrom q (Text.blanks n) = List.replicate n (' ', q) := by
  rw [cellsFrom_of_visible S q (esc_notMem_blanks n), Text.blanks, List.map_replicate]

/-- The cells stand for the visible characters. -/
theorem map_fst_cellsFrom (q : Q) (s : Text) : (S.cellsFrom q s).map Prod.fst = strip s := by
  rw [cellsFrom_eq_cellsOf, strip]
  generalize tokens s = ts
  induction ts generalizing q with
  | nil => rfl
  | cons t ts ih =>
    rw [cellsOf, List.map_append, ih, List.filterMap_cons]
    rcases t with c | sequence | sequence
    · rfl
    · rfl
    · rfl

theorem length_cellsFrom (q : Q) (s : Text) : (S.cellsFrom q s).length = width s := by
  rw [width, ← S.map_fst_cellsFrom q, List.length_map]

theorem cellsFrom_take (q : Q) (n : Nat) (s : Text) :
    S.cellsFrom q (take n s) = (S.cellsFrom q s).take n := by
  rw [cellsFrom_eq_cellsOf, take_eq_spell_keep, tokens_spell fun _ ht => complete_of_mem_keep ht,
    cellsOf_keep, ← cellsFrom_eq_cellsOf]

theorem cells_skip (n : Nat) (s : Text) : S.cells (skip n s) = (S.cells s).drop n := by
  obtain ⟨ts, hskip, hts, hcells⟩ := skip_eq_spell S n s
  rw [hskip, S.cells_spell hts, hcells]

end Styling

/-- The styling in which all styles look alike. -/
def Styling.plain : Styling Unit := ⟨(), fun _ _ => (), fun _ => rfl, fun _ => rfl⟩

theorem width_take (n : Nat) (s : Text) : width (take n s) = min n (width s) := by
  rw [← Styling.plain.length_cellsFrom (), Styling.cellsFrom_take, List.length_take,
    Styling.length_cellsFrom]

/-! ## Columns -/

section Columns

variable {Q : Type u}

/-- A list that is cut or filled up to a length, place by place. -/
theorem map_getD_range (l : List Q) (q : Q) (n : Nat) :
    (List.range n).map (fun i => l[i]?.getD q) = l.take n ++ List.replicate (n - l.length) q := by
  apply List.ext_getElem
  · simp only [List.length_map, List.length_range, List.length_append, List.length_take,
      List.length_replicate]
    omega
  · intro i hi _
    rw [List.length_map, List.length_range] at hi
    rw [List.getElem_map, List.getElem_range]
    by_cases hlen : i < l.length
    · rw [List.getElem_append_left (by rw [List.length_take]; omega), List.getElem_take,
        List.getElem?_eq_getElem hlen, Option.getD_some]
    · rw [List.getElem_append_right (by rw [List.length_take]; omega), List.getElem_replicate,
        List.getElem?_eq_none (by omega), Option.getD_none]

/-- The cell in a column; behind the last one a blank. -/
def cellAt (cells : List (Char × Q)) (q : Q) (column : Nat) : Char × Q :=
  cells[column]?.getD (' ', q)

/-- Cells that are cut or filled up to a width. -/
theorem map_cellAt_range (cells : List (Char × Q)) (q : Q) (n : Nat) :
    (List.range n).map (cellAt cells q) =
      cells.take n ++ List.replicate (n - cells.length) (' ', q) :=
  map_getD_range cells (' ', q) n

/-- The columns from some place on are those of what is left there. -/
theorem cellAt_add (cells : List (Char × Q)) (q : Q) (start column : Nat) :
    cellAt cells q (start + column) = cellAt (cells.drop start) q column := by
  rw [cellAt, cellAt, List.getElem?_drop]

end Columns

/-- A line that is fitted to a width has its own cells there, and blank ones
behind its end. -/
theorem Styling.cells_fit {Q : Type u} (S : Styling Q) (n : Nat) {line : Text} (h : Whole line) :
    S.cells (fit n line) = (List.range n).map (cellAt (S.cells line) S.start) := by
  rw [map_cellAt_range, ← cellsFrom_start, ← cellsFrom_start, length_cellsFrom, fit]
  by_cases hn : n < width line
  · rw [if_pos hn, S.cellsFrom_append _ (whole_take n line), cellsFrom_take, cellsFrom_reset,
      Nat.sub_eq_zero_of_le (Nat.le_of_lt hn)]
    rfl
  · have htake : (S.cellsFrom S.start line).take n = S.cellsFrom S.start line :=
      List.take_of_length_le (by rw [length_cellsFrom]; omega)
    rw [if_neg hn, htake, S.cellsFrom_append _ ((h.append whole_reset).append (whole_blanks _)),
      S.cellsFrom_append _ (h.append whole_reset), S.cellsFrom_append _ h, cellsFrom_reset,
      cellsFrom_reset, S.styleAfter_append _ h, styleAfter_reset, cellsFrom_blanks,
      List.append_nil, List.append_nil]

theorem reset_isSuffix_fit (n : Nat) (line : Text) : reset <:+ fit n line := by
  rw [fit]
  split
  · exact List.suffix_append _ _
  · exact List.suffix_append _ _

theorem whole_fit {line : Text} (h : Whole line) (n : Nat) : Whole (fit n line) := by
  rw [fit]
  split
  · exact (whole_take n line).append whole_reset
  · exact ((h.append whole_reset).append (whole_blanks _)).append whole_reset

/-- A line has the width it is fitted to, unless its end would be read together
with what fills it up. -/
theorem width_fit {n : Nat} {line : Text} (h : Whole line ∨ n < width line) :
    width (fit n line) = n := by
  rw [fit]
  by_cases hn : n < width line
  · rw [if_pos hn, width_append (whole_take n line), width_take, width_reset, Nat.add_zero,
      Nat.min_eq_left (Nat.le_of_lt hn)]
  · have hline := h.resolve_right hn
    rw [if_neg hn, width_append ((hline.append whole_reset).append (whole_blanks _)),
      width_append (hline.append whole_reset), width_append hline, width_blanks, width_reset]
    omega

/-! ## Characters

Lines that are cut and filled up hold no character that was not there, but for
those of a reset and the blank. -/

theorem mem_spell {c : Char} {ts : List Token} : c ∈ spell ts ↔ ∃ t ∈ ts, c ∈ t.text :=
  List.mem_flatMap

theorem mem_of_mem_take {c : Char} {n : Nat} {s : Text} (h : c ∈ take n s) : c ∈ s := by
  rw [take_eq_spell_keep, mem_spell] at h
  obtain ⟨t, ht, hc⟩ := h
  rw [← spell_tokens s]
  exact mem_spell.mpr ⟨t, (mem_of_mem_keep ht).1, hc⟩

theorem mem_of_mem_carry {c : Char} {carried sequence : Text} (h : c ∈ carry carried sequence) :
    c ∈ carried ∨ c ∈ sequence := by
  rw [carry] at h
  split at h
  · split at h
    · exact absurd h List.not_mem_nil
    · exact List.mem_append.mp h
  · exact Or.inl h

theorem mem_of_skipTokens {c : Char} {n : Nat} {carried carried' : Text} {ts ts' : List Token}
    (h : skipTokens n carried ts = some (carried', ts')) (hc : c ∈ carried' ∨ c ∈ spell ts') :
    c ∈ carried ∨ c ∈ spell ts := by
  fun_induction skipTokens n carried ts with
  | case1 carried ts =>
    obtain ⟨rfl, rfl⟩ := Prod.mk.inj (Option.some.inj h)
    exact hc
  | case2 n carried => exact nomatch h
  | case3 n carried d ts ih => exact (ih h).imp_right (List.mem_cons_of_mem d)
  | case4 n carried sequence ts ih =>
    rw [spell_cons, List.mem_append]
    rcases ih h with hcarry | hts
    · rcases mem_of_mem_carry hcarry with hcarried | hsequence
      · exact Or.inl hcarried
      · exact Or.inr (Or.inl hsequence)
    · exact Or.inr (Or.inr hts)
  | case5 n carried sequence ts ih =>
    rw [spell_cons, List.mem_append]
    exact (ih h).imp_right Or.inr

theorem mem_of_mem_skip {c : Char} {n : Nat} {s : Text} (h : c ∈ skip n s) : c ∈ s := by
  rw [skip] at h
  rcases hskip : skipTokens n [] (tokens s) with _ | ⟨carried, ts⟩
  · rw [hskip] at h
    exact absurd h List.not_mem_nil
  · rw [hskip] at h
    have hfinished : c ∈ spell (finished ts) → c ∈ spell ts := fun hc => by
      obtain ⟨t, ht, hct⟩ := mem_spell.mp hc
      exact mem_spell.mpr ⟨t, (mem_finished.mp ht).1, hct⟩
    have hc : c ∈ carried ∨ c ∈ spell ts := by
      dsimp only at h
      split at h
      · exact (List.mem_append.mp h).imp_right hfinished
      · exact Or.inr (hfinished h)
    rw [← spell_tokens s]
    exact (mem_of_skipTokens hskip hc).resolve_left List.not_mem_nil

/-- A character with which neither resets nor blanks are written. -/
structure Foreign (c : Char) : Prop where
  notMem_reset : c ∉ reset
  ne_blank : c ≠ ' '

theorem foreign_lineFeed : Foreign '\n' := ⟨by decide, by decide⟩

theorem Foreign.notMem_blanks {c : Char} (h : Foreign c) (n : Nat) : c ∉ Text.blanks n :=
  fun hc => h.ne_blank (List.eq_of_mem_replicate hc)

theorem Foreign.notMem_fit {c : Char} (h : Foreign c) {line : Text} (hline : c ∉ line) (n : Nat) :
    c ∉ fit n line := by
  rw [fit]
  split
  · rw [List.mem_append, not_or]
    exact ⟨fun hc => hline (mem_of_mem_take hc), h.notMem_reset⟩
  · simp only [List.mem_append, not_or]
    exact ⟨⟨⟨hline, h.notMem_reset⟩, h.notMem_blanks _⟩, h.notMem_reset⟩

end Styled
end TerminalDialogs
