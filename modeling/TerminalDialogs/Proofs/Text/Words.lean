import Mathlib.Data.List.TakeWhile
import TerminalDialogs.Text

/-!
# Words of a text

A text is read as words from the left: a separator in front is left out (`words_cons_of_sep`),
and any other character begins a word that ends in front of the next separator
(`words_cons_of_not_sep`).

Typing one more character that is no separator takes nothing back.  Each word is the beginning of
a word of the longer text (`exists_prefix_of_mem_words`), and the trimmed text is the beginning of
the longer one when it is trimmed (`trimBoth_prefix_concat`).
-/

namespace TerminalDialogs
namespace Text

variable {p : Char → Bool} {c : Char} {s w : Text}

@[simp] theorem words_nil (p : Char → Bool) : words p [] = [] := rfl

/-- What has been read from the right: the word that the text begins with, and the words that
follow it. -/
theorem words_fold (p : Char → Bool) (s : Text) :
    (s.foldr (fun c state =>
        if p c then (([] : Text), if state.1.isEmpty then state.2 else state.1 :: state.2)
        else (c :: state.1, state.2)) ([], [])) =
      (s.takeWhile (!p ·), words p (s.dropWhile (!p ·))) := by
  induction s with
  | nil => rfl
  | cons c s ih =>
    cases hc : p c with
    | true =>
      rw [List.takeWhile_cons_of_neg (by simp [hc]), List.dropWhile_cons_of_neg (by simp [hc]),
        words, List.foldr_cons]
      simp only [hc, if_true, List.isEmpty_nil]
    | false =>
      rw [List.takeWhile_cons_of_pos (by simp [hc]), List.dropWhile_cons_of_pos (by simp [hc]),
        List.foldr_cons, ih]
      simp only [hc, Bool.false_eq_true, if_false]

theorem words_eq (p : Char → Bool) (s : Text) :
    words p s = if (s.takeWhile (!p ·)).isEmpty then words p (s.dropWhile (!p ·))
      else s.takeWhile (!p ·) :: words p (s.dropWhile (!p ·)) := by
  rw [words, words_fold]

theorem words_cons_of_sep (h : p c = true) (s : Text) : words p (c :: s) = words p s := by
  rw [words_eq p s, words, List.foldr_cons, words_fold]
  simp only [h, if_true, List.isEmpty_nil]

theorem words_cons_of_not_sep (h : p c = false) (s : Text) :
    words p (c :: s) = (c :: s.takeWhile (!p ·)) :: words p (s.dropWhile (!p ·)) := by
  rw [words_eq, List.takeWhile_cons_of_pos (by simp [h]), List.dropWhile_cons_of_pos (by simp [h])]
  rfl

/-- A separator ends a word. -/
theorem words_append_sep (hw : ∀ c ∈ w, p c = false) (hne : w ≠ []) (h : p c = true) (s : Text) :
    words p (w ++ c :: s) = w :: words p s := by
  rcases w with _ | ⟨d, w⟩
  · exact absurd rfl hne
  · rw [List.forall_mem_cons] at hw
    have hpos : ∀ e ∈ w, (!p e) = true := fun e he => by simp [hw.2 e he]
    rw [List.cons_append, words_cons_of_not_sep hw.1, List.takeWhile_append_of_pos hpos,
      List.dropWhile_append_of_pos hpos, List.takeWhile_cons_of_neg (by simp [h]),
      List.dropWhile_cons_of_neg (by simp [h]), List.append_nil, words_cons_of_sep h]

/-- A text without separators is one word. -/
theorem words_of_not_sep (hw : ∀ c ∈ w, p c = false) (hne : w ≠ []) : words p w = [w] := by
  rcases w with _ | ⟨d, w⟩
  · exact absurd rfl hne
  · rw [List.forall_mem_cons] at hw
    have hpos : ∀ e ∈ w, (!p e) = true := fun e he => by simp [hw.2 e he]
    have hdrop : w.dropWhile (!p ·) = [] := List.dropWhile_eq_nil_iff.mpr hpos
    rw [words_cons_of_not_sep hw.1, List.takeWhile_eq_self_iff.mpr hpos, hdrop, words_nil]

/-- There is a word unless there are only separators. -/
theorem words_eq_nil_iff : words p s = [] ↔ ∀ c ∈ s, p c = true := by
  induction s with
  | nil => simp
  | cons c s ih =>
    rw [List.forall_mem_cons, ← ih]
    cases hc : p c with
    | true => rw [words_cons_of_sep hc, eq_self_iff_true, true_and]
    | false => simp [words_cons_of_not_sep hc]

/-- What is no separator is in a word. -/
theorem exists_mem_words (hs : c ∈ s) (hc : p c = false) : ∃ w ∈ words p s, c ∈ w := by
  induction hlength : s.length using Nat.strongRecOn generalizing s with
  | ind n ih =>
    rcases s with _ | ⟨d, s⟩
    · exact absurd hs List.not_mem_nil
    rw [List.length_cons] at hlength
    cases hd : p d with
    | true =>
      rw [words_cons_of_sep hd]
      rcases List.mem_cons.mp hs with rfl | hs
      · exact absurd hd (by simp [hc])
      · exact ih s.length (by omega) hs rfl
    | false =>
      rw [words_cons_of_not_sep hd]
      have hsplit : c ∈ (d :: s.takeWhile (!p ·)) ∨ c ∈ s.dropWhile (!p ·) := by
        rwa [← List.mem_append, List.cons_append, List.takeWhile_append_dropWhile]
      rcases hsplit with hfirst | hrest
      · exact ⟨_, List.mem_cons_self, hfirst⟩
      · have hshorter := (List.dropWhile_sublist (l := s) (!p ·)).length_le
        obtain ⟨w, hw, hmem⟩ := ih _ (by omega) hrest rfl
        exact ⟨w, List.mem_cons_of_mem _ hw, hmem⟩

/-! ## One more character -/

/-- **A word that is typed on stays the beginning of a word.** -/
theorem exists_prefix_of_mem_words (hc : p c = false) (hw : w ∈ words p s) :
    ∃ longer ∈ words p (s ++ [c]), w <+: longer := by
  -- The induction goes from separator to separator, as the words do.
  induction hlength : s.length using Nat.strongRecOn generalizing s with
  | ind n ih =>
    rcases hfind : s.find? p with _ | d
    · have hall : ∀ e ∈ s, p e = false := fun e he => by
        simpa using List.find?_eq_none.mp hfind e he
      rcases eq_or_ne s [] with rfl | hne
      · exact absurd hw List.not_mem_nil
      · have hlonger : ∀ e ∈ s ++ [c], p e = false := fun e he => by
          rcases List.mem_append.mp he with he | he
          · exact hall e he
          · rwa [List.mem_singleton.mp he]
        rw [words_of_not_sep hall hne] at hw
        rw [words_of_not_sep hlonger (by simp), List.mem_singleton.mp hw]
        exact ⟨_, List.mem_singleton_self _, List.prefix_append _ _⟩
    · obtain ⟨hd, front, rest, rfl, hfront⟩ := List.find?_eq_some_iff_append.mp hfind
      have hfront' : ∀ e ∈ front, p e = false := fun e he => by simpa using hfront e he
      have hrest : w ∈ words p rest → ∃ longer ∈ words p (rest ++ [c]), w <+: longer :=
        fun hw => ih rest.length (by simp [← hlength]; omega) hw rfl
      rw [List.append_assoc, List.cons_append]
      rcases eq_or_ne front [] with rfl | hne
      · rw [List.nil_append, words_cons_of_sep hd] at hw ⊢
        exact hrest hw
      · rw [words_append_sep hfront' hne hd] at hw ⊢
        rcases List.mem_cons.mp hw with rfl | hw
        · exact ⟨w, List.mem_cons_self, List.prefix_refl w⟩
        · obtain ⟨longer, hlonger, hprefix⟩ := hrest hw
          exact ⟨longer, List.mem_cons_of_mem front hlonger, hprefix⟩

/-! ## Trimmed texts -/

theorem trimBoth_eq_nil_iff : trimBoth p s = [] ↔ ∀ c ∈ s, p c = true := by
  rw [trimBoth, List.reverse_eq_nil_iff, List.dropWhile_eq_nil_iff]
  constructor
  · intro h c hc
    induction s with
    | nil => exact absurd hc List.not_mem_nil
    | cons d s ih =>
      cases hd : p d with
      | true =>
        rw [List.dropWhile_cons_of_pos hd] at h
        rcases List.mem_cons.mp hc with rfl | hc
        · exact hd
        · exact ih h hc
      | false =>
        rw [List.dropWhile_cons_of_neg (by simp [hd])] at h
        exact absurd (h d (by simp)) (by simp [hd])
  · intro h c hc
    exact h c ((List.dropWhile_sublist _).subset (List.mem_reverse.mp hc))

/-- A character that is no separator stays at the end. -/
theorem trimBoth_concat (hc : p c = false) (s : Text) :
    trimBoth p (s ++ [c]) = s.dropWhile p ++ [c] := by
  have hfront : (s ++ [c]).dropWhile p = s.dropWhile p ++ [c] := by
    rw [List.dropWhile_append]
    split
    · next hempty =>
      rw [List.isEmpty_iff.mp hempty, List.dropWhile_cons_of_neg (by simp [hc])]
      rfl
    · rfl
  rw [trimBoth, hfront, List.reverse_concat, List.dropWhile_cons_of_neg (by simp [hc]),
    List.reverse_cons, List.reverse_reverse]

/-- A separator at the end is trimmed. -/
theorem trimBoth_concat_of_sep (hc : p c = true) (s : Text) :
    trimBoth p (s ++ [c]) = trimBoth p s := by
  rw [trimBoth, trimBoth, List.dropWhile_append]
  split
  · next hempty => rw [List.isEmpty_iff.mp hempty, List.dropWhile_cons_of_pos hc]; rfl
  · rw [List.reverse_concat, List.dropWhile_cons_of_pos hc]

/-- A separator in front is trimmed. -/
theorem trimBoth_cons_of_sep (hc : p c = true) (s : Text) :
    trimBoth p (c :: s) = trimBoth p s := by
  rw [trimBoth, trimBoth, List.dropWhile_cons_of_pos hc]

theorem trimBoth_sublist (p : Char → Bool) (s : Text) : List.Sublist (trimBoth p s) s := by
  have hback : List.Sublist (trimBoth p s).reverse (s.dropWhile p).reverse := by
    rw [trimBoth, List.reverse_reverse]
    exact List.dropWhile_sublist p
  exact (List.reverse_sublist.mp hback).trans (List.dropWhile_sublist p)

/-- A text without separators at its ends is trimmed. -/
theorem trimBoth_eq_self (hfirst : ∀ c, s.head? = some c → p c = false)
    (hlast : ∀ c, s.getLast? = some c → p c = false) : trimBoth p s = s := by
  rcases s with _ | ⟨c, rest⟩
  · rfl
  · have hfront : (c :: rest).dropWhile p = c :: rest :=
      List.dropWhile_cons_of_neg (by simp [hfirst c rfl])
    rcases hback : (c :: rest).reverse with _ | ⟨d, front⟩
    · exact absurd (congrArg List.length hback) (by simp)
    · have hd : p d = false := by
        refine hlast d ?_
        rw [← List.head?_reverse, hback]
        rfl
      rw [trimBoth, hfront, hback, List.dropWhile_cons_of_neg (by simp [hd]), ← hback,
        List.reverse_reverse]

/-- **A trimmed text that is typed on stays the beginning.** -/
theorem trimBoth_prefix_concat (hc : p c = false) (s : Text) :
    trimBoth p s <+: trimBoth p (s ++ [c]) := by
  rw [trimBoth_concat hc]
  have hback : trimBoth p s <+: s.dropWhile p := by
    rw [trimBoth, ← List.reverse_suffix, List.reverse_reverse]
    exact List.dropWhile_suffix p
  exact hback.trans (List.prefix_append _ _)

end Text
end TerminalDialogs
