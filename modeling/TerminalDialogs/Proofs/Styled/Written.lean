import TerminalDialogs.Proofs.Styled.Shown

/-!
# What is written into a restored text

A restored text is the text with copies of the background between its parts.  They stand
exactly where the background *lapses*: behind a style sequence that gives it up, unless it
follows there already.  So nothing is lost, for without those copies the text is left; and
since they show nothing, the rows of the text are as wide as before (`restore_unseen`).

Restoring a text again should change nothing, for behind a sequence that gives the
background up it follows by now.  That holds unless a channel of the colour is 49
(`restore_restore_iff`): the number of the channel is then taken for the parameter that
gives the background up, so the sequence that sets the background seems to give it up
itself, and each time a text is restored another copy is written behind those that stand
there.
-/

namespace TerminalDialogs
namespace Styled

open Screen (Rgb)

/-! ## Where the search stands

Where the search for style sequences stands can be told from what was read last. -/

/-- Where the search stands behind a text. -/
def StyleScan.after (read : Text) : StyleScan := read.foldl StyleScan.next .outside

theorem StyleScan.after_concat (read : Text) (d : Char) :
    StyleScan.after (read ++ [d]) = (StyleScan.after read).next d :=
  List.foldl_append

theorem StyleScan.next_eq_opened_iff {search : StyleScan} {d : Char} :
    search.next d = .opened ↔ d = esc := by
  refine ⟨fun h => ?_, fun h => h ▸ search.next_esc⟩
  rcases search with _ | _ | seen
  · rw [next_outside] at h
    split at h
    · assumption
    · cases h
  · by_cases hbracket : d = '['
    · subst hbracket
      cases h
    · rw [next_opened hbracket] at h
      split at h
      · assumption
      · cases h
  · rw [next_parameters] at h
    split at h
    · cases h
    · split at h
      · assumption
      · cases h

theorem StyleScan.next_eq_parameters_nil_iff {search : StyleScan} {d : Char} :
    search.next d = .parameters [] ↔ search = .opened ∧ d = '[' := by
  constructor
  · intro h
    rcases search with _ | _ | seen
    · rw [next_outside] at h
      split at h <;> cases h
    · by_cases hbracket : d = '['
      · exact ⟨rfl, hbracket⟩
      · rw [next_opened hbracket] at h
        split at h <;> cases h
    · rw [next_parameters] at h
      split at h
      · cases h
      · split at h <;> cases h
  · rintro ⟨rfl, rfl⟩
    rfl

theorem StyleScan.next_eq_parameters_cons_iff {search : StyleScan} {d e : Char} {seen : Text} :
    search.next d = .parameters (e :: seen) ↔
      search = .parameters seen ∧ d = e ∧ isParameter e = true := by
  constructor
  · intro h
    rcases search with _ | _ | seen'
    · rw [next_outside] at h
      split at h <;> cases h
    · by_cases hbracket : d = '['
      · subst hbracket
        cases h
      · rw [next_opened hbracket] at h
        split at h <;> cases h
    · rw [next_parameters] at h
      split at h
      · next hd =>
        cases h
        exact ⟨rfl, rfl, hd⟩
      · split at h <;> cases h
  · rintro ⟨rfl, rfl, hd⟩
    rw [next_parameters, if_pos hd]

theorem concat_suffix_concat_iff {a b : Text} {d e : Char} :
    a ++ [d] <:+ b ++ [e] ↔ a <:+ b ∧ d = e := by
  have hlength : [d].length = [e].length := rfl
  rw [List.suffix_append_inj_of_length_eq hlength, List.singleton_inj]

theorem StyleScan.after_eq_opened_iff {read : Text} :
    StyleScan.after read = .opened ↔ [esc] <:+ read := by
  rcases List.eq_nil_or_concat read with rfl | ⟨front, d, rfl⟩
  · exact ⟨(nomatch ·), fun h => nomatch List.suffix_nil.mp h⟩
  · rw [List.concat_eq_append, after_concat, next_eq_opened_iff,
      show [esc] = [] ++ [esc] from rfl, concat_suffix_concat_iff]
    exact ⟨fun h => ⟨List.nil_suffix, h.symm⟩, fun h => h.2.symm⟩

/-- The search is among parameters exactly behind the beginning of a style sequence. -/
theorem StyleScan.after_eq_parameters_iff {read seen : Text} :
    StyleScan.after read = .parameters seen ↔
      seen.all isParameter = true ∧ esc :: '[' :: seen.reverse <:+ read := by
  induction seen generalizing read with
  | nil =>
    rcases List.eq_nil_or_concat read with rfl | ⟨front, d, rfl⟩
    · exact ⟨(nomatch ·), fun h => nomatch List.suffix_nil.mp h.2⟩
    · rw [List.concat_eq_append, after_concat, next_eq_parameters_nil_iff, after_eq_opened_iff,
        show esc :: '[' :: ([] : Text).reverse = [esc] ++ ['['] from rfl, concat_suffix_concat_iff,
        List.all_nil]
      exact ⟨fun h => ⟨rfl, h.1, h.2.symm⟩, fun h => ⟨h.2.1, h.2.2.symm⟩⟩
  | cons e seen ih =>
    rcases List.eq_nil_or_concat read with rfl | ⟨front, d, rfl⟩
    · exact ⟨(nomatch ·), fun h => nomatch List.suffix_nil.mp h.2⟩
    · rw [List.concat_eq_append, after_concat, next_eq_parameters_cons_iff, ih,
        List.reverse_cons, ← List.cons_append, ← List.cons_append, concat_suffix_concat_iff,
        List.all_cons, Bool.and_eq_true]
      exact ⟨fun h => ⟨⟨h.2.2, h.1.1⟩, h.1.2, h.2.1.symm⟩,
        fun h => ⟨⟨h.1.2, h.2.1⟩, h.2.2.symm, h.1.1⟩⟩

/-! ## Where the background lapses -/

/-- Between two parts of a text the background has to be written: a style sequence gives it
up there, and it does not follow. -/
structure Lapses (background front rest : Text) : Prop where
  givenUp : ∃ parameters : Text, parameters.all isParameter = true ∧
    givesUpBackground parameters = true ∧ controlSequence parameters 'm' <:+ front
  missing : ¬ background <+: rest

theorem not_lapses_nil (background rest : Text) : ¬ Lapses background [] rest := by
  rintro ⟨⟨parameters, -, -, h⟩, -⟩
  exact nomatch List.suffix_nil.mp h

/-- The search notices where the background lapses. -/
theorem lapses_concat_iff {background read rest : Text} {d : Char} :
    Lapses background (read ++ [d]) rest ↔
      d = 'm' ∧ ∃ seen, StyleScan.after read = .parameters seen ∧
        givesUpBackground seen.reverse = true ∧ ¬ background <+: rest := by
  have hends (parameters : Text) : controlSequence parameters 'm' <:+ read ++ [d] ↔
      esc :: '[' :: parameters <:+ read ∧ 'm' = d := concat_suffix_concat_iff
  constructor
  · rintro ⟨⟨parameters, hparameters, hrule, hsuffix⟩, hmissing⟩
    obtain ⟨hread, hd⟩ := (hends parameters).mp hsuffix
    refine ⟨hd.symm, parameters.reverse, StyleScan.after_eq_parameters_iff.mpr ⟨?_, ?_⟩, ?_,
      hmissing⟩
    · rw [List.all_reverse, hparameters]
    · rwa [List.reverse_reverse]
    · rwa [List.reverse_reverse]
  · rintro ⟨rfl, seen, hafter, hrule, hmissing⟩
    obtain ⟨hseen, hread⟩ := StyleScan.after_eq_parameters_iff.mp hafter
    exact ⟨⟨seen.reverse, by rw [List.all_reverse, hseen], hrule, (hends _).mpr ⟨hread, rfl⟩⟩,
      hmissing⟩

theorem restoration_eq_of_lapses {background seen rest : Text}
    (h : givesUpBackground seen.reverse = true) (hmissing : ¬ background <+: rest) :
    restoration background seen rest = background := by
  have hfollows : background.isPrefixOf rest = false :=
    Bool.eq_false_iff.mpr fun hprefix => hmissing (List.isPrefixOf_iff_prefix.mp hprefix)
  rw [restoration, h, hfollows]
  rfl

/-- Where the background does not lapse a character is only copied. -/
theorem restoreFrom_of_not_lapses {background read rest : Text} {d : Char}
    (h : ¬ Lapses background (read ++ [d]) rest) :
    restoreFrom background (.after read) (d :: rest) =
      d :: restoreFrom background (.after (read ++ [d])) rest := by
  rw [StyleScan.after_concat]
  by_cases hcopy : (StyleScan.after read).Copies d
  · exact restoreFrom_cons hcopy background rest
  · obtain ⟨seen, hafter, rfl⟩ := StyleScan.of_not_copies hcopy
    have hnone : restoration background seen rest = [] := by
      rw [restoration]
      refine if_neg fun hrule => h (lapses_concat_iff.mpr ⟨rfl, seen, hafter, ?_⟩)
      rw [Bool.and_eq_true, Bool.not_eq_true', Bool.eq_false_iff] at hrule
      exact ⟨hrule.1, fun hprefix => hrule.2 (List.isPrefixOf_iff_prefix.mpr hprefix)⟩
    rw [hafter, restoreFrom_final, hnone]
    rfl

/-- Where it lapses it is written. -/
theorem restoreFrom_of_lapses {background read rest : Text} {d : Char}
    (h : Lapses background (read ++ [d]) rest) :
    restoreFrom background (.after read) (d :: rest) =
      d :: (background ++ restoreFrom background (.after (read ++ [d])) rest) := by
  obtain ⟨rfl, seen, hafter, hrule, hmissing⟩ := lapses_concat_iff.mp h
  rw [StyleScan.after_concat, hafter, restoreFrom_final, restoration_eq_of_lapses hrule hmissing]
  rfl

/-! ## The parts of a text -/

/-- A text that stands behind another one is cut into parts wherever the background lapses,
and nowhere else. -/
structure Parts (background read s first : Text) (others : List Text) : Prop where
  spelled : first ++ others.flatten = s
  first_ne_nil : others ≠ [] → first ≠ []
  lapses_iff : ∀ front rest, front ≠ [] → front ++ rest = s →
    (Lapses background (read ++ front) rest ↔
      ∃ k < others.length, front = first ++ (others.take k).flatten)

namespace Parts

variable {background read s first : Text} {others : List Text} {d : Char}

theorem nil (background read : Text) : Parts background read [] [] [] where
  spelled := rfl
  first_ne_nil h := absurd rfl h
  lapses_iff _ _ hfront h := absurd (List.append_eq_nil_iff.mp h).1 hfront

/-- A character behind which the background lapses is a part of its own. -/
theorem cut (h : Parts background (read ++ [d]) s first others)
    (hlapses : Lapses background (read ++ [d]) s) :
    Parts background read (d :: s) [d] (first :: others) where
  spelled := congrArg (d :: ·) h.spelled
  first_ne_nil _ := List.cons_ne_nil d []
  lapses_iff front rest hfront happend := by
    obtain ⟨front', rfl, rfl⟩ :=
      (List.append_eq_cons_iff.mp happend).resolve_left fun hnil => hfront hnil.1
    by_cases hfront' : front' = []
    · subst hfront'
      exact ⟨fun _ => ⟨0, Nat.succ_pos _, rfl⟩, fun _ => hlapses⟩
    · have hlater := h.lapses_iff front' rest hfront' rfl
      rw [List.append_assoc, List.singleton_append] at hlater
      rw [hlater]
      constructor
      · rintro ⟨k, hk, rfl⟩
        exact ⟨k + 1, Nat.succ_lt_succ hk, rfl⟩
      · rintro ⟨k, hk, hfront⟩
        obtain ⟨-, hfront⟩ := List.cons.inj hfront
        rcases k with _ | k
        · exact absurd hfront hfront'
        · exact ⟨k, Nat.lt_of_succ_lt_succ hk, hfront⟩

/-- Any other character belongs to the part that it stands in front of. -/
theorem cons (h : Parts background (read ++ [d]) s first others)
    (hlapses : ¬ Lapses background (read ++ [d]) s) :
    Parts background read (d :: s) (d :: first) others where
  spelled := congrArg (d :: ·) h.spelled
  first_ne_nil _ := List.cons_ne_nil d first
  lapses_iff front rest hfront happend := by
    obtain ⟨front', rfl, rfl⟩ :=
      (List.append_eq_cons_iff.mp happend).resolve_left fun hnil => hfront hnil.1
    by_cases hfront' : front' = []
    · subst hfront'
      refine ⟨fun h => absurd h hlapses, fun ⟨k, hk, hfront⟩ => ?_⟩
      have hfirst : first = [] :=
        (List.append_eq_nil_iff.mp (List.cons.inj hfront).2.symm).1
      exact absurd hfirst (h.first_ne_nil (List.ne_nil_of_length_pos (Nat.zero_lt_of_lt hk)))
    · have hlater := h.lapses_iff front' rest hfront' rfl
      rw [List.append_assoc, List.singleton_append] at hlater
      rw [hlater]
      simp only [List.cons_append, List.cons.injEq, true_and]

end Parts

/-- **A restored text** is the text with the background in front of every part but the
first. -/
theorem exists_parts (background read s : Text) : ∃ first others,
    Parts background read s first others ∧
      first ++ others.flatMap (background ++ ·) = restoreFrom background (.after read) s := by
  induction s generalizing read with
  | nil => exact ⟨[], [], Parts.nil background read, rfl⟩
  | cons d s ih =>
    obtain ⟨first, others, hparts, hrestored⟩ := ih (read ++ [d])
    by_cases hlapses : Lapses background (read ++ [d]) s
    · refine ⟨[d], first :: others, hparts.cut hlapses, ?_⟩
      rw [restoreFrom_of_lapses hlapses, ← hrestored, List.flatMap_cons, List.append_assoc]
      rfl
    · refine ⟨d :: first, others, hparts.cons hlapses, ?_⟩
      rw [restoreFrom_of_not_lapses hlapses, ← hrestored]
      rfl

/-- The rows of a restored text are the rows of the text, restored. -/
theorem rows_restore (c : Rgb) (s : Text) :
    Text.rows (restore (backgroundSequence c) s) =
      (Text.rows s).map (restore (backgroundSequence c)) := by
  have hrows : ∀ line ∈ Text.rows s, '\n' ∉ line := fun _ => Text.notMem_of_mem_rows
  have hrestored : ∀ line ∈ (Text.rows s).map (restore (backgroundSequence c)), '\n' ∉ line := by
    intro line hline
    obtain ⟨row, hrow, rfl⟩ := List.mem_map.mp hline
    exact lineFeed_notMem_restore c (hrows row hrow)
  have hne : (Text.rows s).map (restore (backgroundSequence c)) ≠ [] :=
    fun h => Text.pieces_ne_nil _ _ (List.map_eq_nil_iff.mp h)
  rw [← Text.rows_unrows hne hrestored, ← restore_unrows c hrows, Text.unrows_rows]

/-- **Restoring is not seen and takes nothing away.**  A restored text shows what the text
shows, row by row in the same width; and it is the text, cut into parts where the
background lapses, with a copy of the background in front of every part but the first. -/
theorem restore_unseen (c : Rgb) (s : Text) :
    let background := backgroundSequence c
    let restored := restore background s
    strip restored = strip s ∧
      (Text.rows restored).map width = (Text.rows s).map width ∧
      ∃ (first : Text) (others : List Text), first ++ others.flatten = s ∧
        first ++ others.flatMap (background ++ ·) = restored ∧
        ∀ front rest, front ++ rest = s → (Lapses background front rest ↔
          ∃ k < others.length, front = first ++ (others.take k).flatten) := by
  intro background restored
  refine ⟨strip_restore c s, ?_, ?_⟩
  · rw [rows_restore, List.map_map]
    exact List.map_congr_left fun row _ => congrArg List.length (strip_restore c row)
  · obtain ⟨first, others, hparts, hrestored⟩ := exists_parts background [] s
    refine ⟨first, others, hparts.spelled, ?_, fun front rest happend => ?_⟩
    · rw [hrestored]
      exact (restore_backgroundSequence c s).symm
    · by_cases hfront : front = []
      · subst hfront
        refine ⟨fun h => absurd h (not_lapses_nil _ _), fun ⟨k, hk, hfirst⟩ => ?_⟩
        have hothers : others ≠ [] := List.ne_nil_of_length_pos (Nat.zero_lt_of_lt hk)
        exact absurd (List.append_eq_nil_iff.mp hfirst.symm).1 (hparts.first_ne_nil hothers)
      · exact hparts.lapses_iff front rest hfront happend

/-! ## Restoring again -/

theorem ofNat_inj {m n : Nat} : Text.ofNat m = Text.ofNat n ↔ m = n := by
  refine ⟨fun h => ?_, congrArg Text.ofNat⟩
  have hread (k : Nat) : Nat.ofDigitChars 10 (Text.ofNat k) 0 = k :=
    Nat.ofDigitChars_toDigits (by decide) (by decide)
  rw [← hread m, h, hread]

/-- The rule takes the sequence of a colour for one that gives the background up if a
channel is 49. -/
theorem givesUpBackground_colorParameters {c : Rgb} :
    givesUpBackground (colorParameters c) = true ↔ c.red = 49 ∨ c.green = 49 ∨ c.blue = 49 := by
  have hlist {parameters : Text} (h : (Text.pieces ';' parameters).length = 1) :
      (colorParameters c == parameters) = false := by
    rw [beq_eq_false_iff_ne]
    rintro rfl
    rw [pieces_colorParameters, List.length_map] at h
    exact absurd h (by simp)
  have hnumber (n : Nat) : (Text.ofNat n == ['4', '9']) = true ↔ n = 49 := by
    rw [beq_iff_eq]
    exact ofNat_inj (n := 49)
  have hchannel (n : UInt8) : n.toNat = 49 ↔ n = 49 := UInt8.toNat_inj (b := 49)
  rw [givesUpBackground, hlist rfl, hlist rfl, pieces_colorParameters]
  simp [hnumber, hchannel]

section Again

variable {c : Rgb}

/-- The sequence of the background is copied; if the rule takes it for one that gives the
background up, the background is written behind it unless it follows. -/
theorem restoreFrom_background_append (c : Rgb) (s : Text) :
    restoreFrom (backgroundSequence c) .outside (backgroundSequence c ++ s) =
      backgroundSequence c ++
        ((if givesUpBackground (colorParameters c) && !(backgroundSequence c).isPrefixOf s
          then backgroundSequence c else []) ++ restoreFrom (backgroundSequence c) .outside s) := by
  rw [restoreFrom_backgroundSequence, restoration, List.reverse_reverse]

theorem restoration_of_isPrefix {background rest : Text} (h : background <+: rest) (seen : Text) :
    restoration background seen rest = [] := by
  rw [restoration, List.isPrefixOf_iff_prefix.mpr h, Bool.not_true, Bool.and_false]
  rfl

theorem restoration_eq_or (background seen rest : Text) :
    restoration background seen rest = [] ∨ restoration background seen rest = background := by
  rw [restoration]
  split
  · exact Or.inr rfl
  · exact Or.inl rfl

/-- Behind a style sequence of a restored text the background follows if it has to. -/
theorem restoration_restored (c : Rgb) (seen s : Text) :
    restoration (backgroundSequence c) seen (restoration (backgroundSequence c) seen s ++
      restoreFrom (backgroundSequence c) .outside s) = [] := by
  by_cases hrule : givesUpBackground seen.reverse = true
  · refine restoration_of_isPrefix ?_ seen
    by_cases hfollows : backgroundSequence c <+: s
    · obtain ⟨rest, rfl⟩ := hfollows
      rw [restoration_of_isPrefix (List.prefix_append _ _), restoreFrom_background_append]
      exact List.prefix_append _ _
    · rw [restoration_eq_of_lapses hrule hfollows]
      exact List.prefix_append _ _
  · rw [restoration, Bool.eq_false_iff.mpr hrule]
    rfl

/-- If the rule leaves the sequence of the background alone, a text that was restored stays as
it is. -/
theorem restoreFrom_restoreFrom (h : givesUpBackground (colorParameters c) = false)
    (search : StyleScan) (s : Text) :
    restoreFrom (backgroundSequence c) search (restoreFrom (backgroundSequence c) search s) =
      restoreFrom (backgroundSequence c) search s := by
  induction s generalizing search with
  | nil => rfl
  | cons d s ih =>
    by_cases hcopy : search.Copies d
    · rw [restoreFrom_cons hcopy, restoreFrom_cons hcopy, ih]
    · obtain ⟨seen, rfl, rfl⟩ := StyleScan.of_not_copies hcopy
      rw [restoreFrom_final, restoreFrom_final, restoration_restored, List.nil_append]
      rcases restoration_eq_or (backgroundSequence c) seen s with hnone | hwritten
      · rw [hnone, List.nil_append, ih]
      · rw [hwritten, restoreFrom_background_append, h, ih]
        rfl

theorem length_le_restoreFrom (background : Text) (search : StyleScan) (s : Text) :
    s.length ≤ (restoreFrom background search s).length := by
  induction s generalizing search with
  | nil => exact Nat.le_refl _
  | cons d s ih =>
    by_cases hcopy : search.Copies d
    · rw [restoreFrom_cons hcopy]
      exact Nat.succ_le_succ (ih _)
    · obtain ⟨seen, rfl, rfl⟩ := StyleScan.of_not_copies hcopy
      have hs := ih .outside
      rw [restoreFrom_final, List.length_cons, List.length_cons, List.length_append]
      omega

/-- If the rule takes the sequence of the background for one that gives the background up, one
more is written behind those that stand at the beginning of a text. -/
theorem length_lt_restoreFrom_background (h : givesUpBackground (colorParameters c) = true)
    (s : Text) : (backgroundSequence c ++ s).length <
      (restoreFrom (backgroundSequence c) .outside (backgroundSequence c ++ s)).length := by
  rw [restoreFrom_background_append, h, Bool.true_and, List.length_append, List.length_append]
  by_cases hfollows : (backgroundSequence c).isPrefixOf s = true
  · obtain ⟨rest, hrest⟩ := List.isPrefixOf_iff_prefix.mp hfollows
    have hshorter : rest.length < s.length := by
      rw [← hrest]
      exact length_lt_backgroundSequence_append c rest
    have hlater := length_lt_restoreFrom_background h rest
    rw [hrest] at hlater
    rw [hfollows, Bool.not_true, if_neg Bool.false_ne_true, List.nil_append]
    omega
  · have hs := length_le_restoreFrom (backgroundSequence c) .outside s
    have hlength := length_lt_backgroundSequence_append c []
    rw [List.append_nil, List.length_nil] at hlength
    rw [Bool.eq_false_iff.mpr hfollows, Bool.not_false, if_pos rfl, List.length_append]
    omega
termination_by s.length

/-- Then a text that was not left as it is gets longer each time. -/
theorem length_lt_restoreFrom_restoreFrom (h : givesUpBackground (colorParameters c) = true)
    {search : StyleScan} {s : Text} (hs : restoreFrom (backgroundSequence c) search s ≠ s) :
    (restoreFrom (backgroundSequence c) search s).length <
      (restoreFrom (backgroundSequence c) search
        (restoreFrom (backgroundSequence c) search s)).length := by
  induction s generalizing search with
  | nil => exact absurd rfl hs
  | cons d s ih =>
    by_cases hcopy : search.Copies d
    · rw [restoreFrom_cons hcopy] at hs
      rw [restoreFrom_cons hcopy, restoreFrom_cons hcopy]
      exact Nat.succ_lt_succ (ih fun heq => hs (congrArg (d :: ·) heq))
    · obtain ⟨seen, rfl, rfl⟩ := StyleScan.of_not_copies hcopy
      rw [restoreFrom_final] at hs
      rw [restoreFrom_final, restoreFrom_final, restoration_restored, List.nil_append]
      rcases restoration_eq_or (backgroundSequence c) seen s with hnone | hwritten
      · rw [hnone, List.nil_append] at hs ⊢
        exact Nat.succ_lt_succ (ih fun heq => hs (congrArg ('m' :: ·) heq))
      · rw [hwritten]
        exact Nat.succ_lt_succ (length_lt_restoreFrom_background h _)

end Again

/-- **Restoring a restored text** changes nothing exactly if the text was left as it is the
first time or no channel of the colour is 49. -/
theorem restore_restore_iff (c : Rgb) (s : Text) :
    let background := backgroundSequence c
    restore background (restore background s) = restore background s ↔
      restore background s = s ∨ (c.red ≠ 49 ∧ c.green ≠ 49 ∧ c.blue ≠ 49) := by
  intro background
  have hkept : (c.red ≠ 49 ∧ c.green ≠ 49 ∧ c.blue ≠ 49) ↔
      givesUpBackground (colorParameters c) = false := by
    rw [← Bool.not_eq_true, givesUpBackground_colorParameters, not_or, not_or]
  simp only [background, restore_backgroundSequence, hkept]
  constructor
  · intro hagain
    by_cases hs : restoreFrom (backgroundSequence c) .outside s = s
    · exact Or.inl hs
    · refine Or.inr (Bool.eq_false_iff.mpr fun hrule => ?_)
      have hlength := length_lt_restoreFrom_restoreFrom hrule hs
      rw [hagain] at hlength
      exact Nat.lt_irrefl _ hlength
  · rintro (hs | hrule)
    · rw [hs, hs]
    · exact restoreFrom_restoreFrom hrule .outside s

/-- On a colour with a channel of 49 a reset is followed by the background twice when it is
restored twice. -/
theorem restored_twice_differs :
    let c : Rgb := ⟨49, 0, 0⟩
    let background := backgroundSequence c
    Rgb.ofHex? "#310000".toList = some c ∧
      restore background reset = reset ++ background ∧
      restore background (restore background reset) = reset ++ background ++ background ∧
      restore background (restore background reset) ≠ restore background reset := by
  decide

end Styled
end TerminalDialogs
