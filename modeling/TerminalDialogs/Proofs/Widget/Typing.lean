import TerminalDialogs.Widget.LineBuffer
import TerminalDialogs.Widget.TextArea

/-!
# What is in an edited text

A key puts at most one character into an edited text, the one that was typed, and
moves, keeps or removes the others (`LineBuffer.mem_handleKey`,
`TextArea.mem_handleKey`).  So whatever holds of the characters of the text at first
and of all that are typed holds of the text at any time.
-/

namespace TerminalDialogs

variable {c : Char} {k : Key}

/-! ## One line -/

namespace LineBuffer

variable {b : LineBuffer}

theorem mem_value : c ∈ b.value ↔ c ∈ b.before ∨ c ∈ b.after :=
  List.mem_append

theorem mem_ofText {value : Text} {limit : Nat} (h : c ∈ (ofText value limit).value) :
    c ∈ value := by
  rw [mem_value, ofText] at h
  rcases h with h | h
  · split at h
    · exact h
    · exact List.mem_of_mem_take h
  · exact absurd h List.not_mem_nil

theorem mem_insert {d : Char} (h : c ∈ (b.insert d).value) : c ∈ b.value ∨ c = d := by
  rw [insert] at h
  split at h
  · exact Or.inl h
  · simp only [mem_value, List.mem_append, List.mem_singleton] at h ⊢
    grind

theorem mem_backspace (h : c ∈ b.backspace.value) : c ∈ b.value := by
  rw [backspace, mem_value] at h
  exact mem_value.mpr (h.imp_left (List.dropLast_subset _ ·))

theorem mem_delete (h : c ∈ b.delete.value) : c ∈ b.value := by
  rw [delete, mem_value] at h
  exact mem_value.mpr (h.imp_right List.mem_of_mem_tail)

theorem mem_left (h : c ∈ b.left.value) : c ∈ b.value := by
  simp only [left, mem_value, List.mem_append, Option.mem_toList] at h ⊢
  rcases h with h | h | h
  · exact Or.inl (List.dropLast_subset _ h)
  · exact Or.inl (List.mem_of_mem_getLast? h)
  · exact Or.inr h

theorem mem_right (h : c ∈ b.right.value) : c ∈ b.value := by
  simp only [right, mem_value, List.mem_append, Option.mem_toList] at h ⊢
  rcases h with (h | h) | h
  · exact Or.inl h
  · exact Or.inr (List.mem_of_mem_head? h)
  · exact Or.inr (List.mem_of_mem_tail h)

theorem mem_toStart : c ∈ b.toStart.value ↔ c ∈ b.value := by
  simp [toStart, value]

theorem mem_toEnd : c ∈ b.toEnd.value ↔ c ∈ b.value := by
  simp [toEnd, value]

theorem mem_clearToStart (h : c ∈ b.clearToStart.value) : c ∈ b.value :=
  mem_value.mpr (Or.inr h)

/-- **A key brings the typed character only.** -/
theorem mem_handleKey (h : c ∈ (b.handleKey k).value) : c ∈ b.value ∨ k.code = .char c := by
  rw [handleKey, handleKey?] at h
  cases hcode : k.code
  all_goals simp only [hcode, Option.getD_some, Option.getD_none] at h
  case char d =>
    split at h
    · left
      split at h
      · exact mem_toStart.mp h
      · split at h
        · exact mem_toEnd.mp h
        · split at h
          · exact mem_clearToStart h
          · exact h
    · exact (mem_insert h).imp_right fun hd => congrArg KeyCode.char hd.symm
  case backspace => exact Or.inl (mem_backspace h)
  case delete => exact Or.inl (mem_delete h)
  case left => exact Or.inl (mem_left h)
  case right => exact Or.inl (mem_right h)
  case home => exact Or.inl (mem_toStart.mp h)
  case endKey => exact Or.inl (mem_toEnd.mp h)
  all_goals exact Or.inl h

end LineBuffer

/-! ## Several lines -/

namespace TextArea

variable {t : TextArea}

/-- The characters of all lines. -/
def chars (t : TextArea) : Text :=
  t.above.flatten ++ t.current ++ t.below.flatten

theorem mem_chars : c ∈ t.chars ↔
    (∃ line ∈ t.above, c ∈ line) ∨ c ∈ t.before ∨ c ∈ t.after ∨ ∃ line ∈ t.below, c ∈ line := by
  simp only [chars, current, List.mem_append, List.mem_flatten, or_assoc]

theorem mem_insert {d : Char} (h : c ∈ (t.insert d).chars) : c ∈ t.chars ∨ c = d := by
  rw [insert] at h
  split at h
  · exact Or.inl h
  · simp only [mem_chars, List.mem_append, List.mem_singleton] at h ⊢
    grind

theorem mem_newline (h : c ∈ t.newline.chars) : c ∈ t.chars := by
  rw [newline] at h
  split at h
  · exact h
  · simp only [mem_chars, List.mem_append, List.mem_singleton] at h ⊢
    grind

theorem mem_ofText {value : Text} {limit : Nat} (h : c ∈ (ofText value limit).chars) :
    c ∈ value := by
  have hfold (t : TextArea) (value : Text) (h : c ∈ (value.foldl take t).chars) :
      c ∈ t.chars ∨ c ∈ value := by
    induction value generalizing t with
    | nil => exact Or.inl h
    | cons d value ih =>
      rcases ih (t.take d) h with h | h
      · rw [take] at h
        split at h
        · exact Or.inl (mem_newline h)
        · split at h
          · exact Or.inl h
          · rcases mem_insert h with h | rfl
            · exact Or.inl h
            · exact Or.inr List.mem_cons_self
      · exact Or.inr (List.mem_cons_of_mem d h)
  refine (hfold _ value h).resolve_left ?_
  simp [chars, current]

theorem mem_enter {above below : List Text} {line : Text} {column limit : Nat} :
    c ∈ (enter above line below column limit).chars ↔
      (∃ l ∈ above, c ∈ l) ∨ c ∈ line ∨ ∃ l ∈ below, c ∈ l := by
  simp [chars, current, enter, List.mem_flatten]

/-- The last line above, taken off. -/
theorem mem_above_iff {line : Text} (hline : t.above.getLast? = some line) :
    (∃ l ∈ t.above, c ∈ l) ↔ (∃ l ∈ t.above.dropLast, c ∈ l) ∨ c ∈ line := by
  obtain ⟨above, habove⟩ := List.getLast?_eq_some_iff.mp hline
  simp [habove, or_and_right, exists_or]

theorem mem_backspace (h : c ∈ t.backspace.chars) : c ∈ t.chars := by
  rw [backspace] at h
  split at h
  · split at h
    · exact h
    · next line hline =>
      simp only [mem_chars, mem_above_iff hline] at h ⊢
      grind
  · simp only [mem_chars] at h ⊢
    exact h.imp_right (Or.imp_left (List.dropLast_subset _ ·))

theorem mem_delete (h : c ∈ t.delete.chars) : c ∈ t.chars := by
  rw [delete] at h
  split at h
  · next hafter =>
    simp only [mem_chars, hafter] at h ⊢
    grind
  · exact h
  · next hbelow =>
    simp only [mem_chars, hbelow] at h ⊢
    grind

theorem mem_up (h : c ∈ t.up.chars) : c ∈ t.chars := by
  rw [up] at h
  split at h
  · exact h
  · next line hline =>
    rw [mem_enter] at h
    simp only [mem_chars, mem_above_iff hline, current, List.mem_cons, exists_eq_or_imp,
      List.mem_append] at h ⊢
    grind

theorem mem_down (h : c ∈ t.down.chars) : c ∈ t.chars := by
  rw [down] at h
  split at h
  · exact h
  · next line below hbelow =>
    rw [mem_enter] at h
    simp only [mem_chars, hbelow, current, List.mem_append, List.mem_cons, exists_eq_or_imp] at h ⊢
    grind

theorem mem_left (h : c ∈ t.left.chars) : c ∈ t.chars := by
  rw [left] at h
  split at h
  · next d hlast =>
    obtain ⟨before, hbefore⟩ := List.getLast?_eq_some_iff.mp hlast
    simp only [mem_chars, hbefore, List.dropLast_concat, List.mem_append, List.mem_cons] at h ⊢
    grind
  · split at h
    · exact h
    · next line hline =>
      simp only [mem_chars, mem_above_iff hline, current, List.mem_cons, exists_eq_or_imp,
        List.mem_append] at h ⊢
      grind

theorem mem_right (h : c ∈ t.right.chars) : c ∈ t.chars := by
  rw [right] at h
  split at h
  · next hafter =>
    simp only [mem_chars, hafter, List.mem_append, List.mem_cons] at h ⊢
    grind
  · exact h
  · next hafter hbelow =>
    simp only [mem_chars, hbelow, current, List.mem_append] at h ⊢
    grind

theorem chars_toStart : t.toStart.chars = t.chars := by simp [toStart, chars, current]

theorem chars_toEnd : t.toEnd.chars = t.chars := by simp [toEnd, chars, current]

/-- **A key brings the typed character only.** -/
theorem mem_handleKey (h : c ∈ (t.handleKey k).chars) : c ∈ t.chars ∨ k.code = .char c := by
  rw [handleKey] at h
  cases hcode : k.code
  all_goals simp only [hcode] at h
  case char d =>
    split at h
    · left
      split at h
      · rwa [chars_toStart] at h
      · split at h
        · rwa [chars_toEnd] at h
        · exact h
    · exact (mem_insert h).imp_right fun hd => congrArg KeyCode.char hd.symm
  case enter => exact Or.inl (mem_newline h)
  case backspace => exact Or.inl (mem_backspace h)
  case delete => exact Or.inl (mem_delete h)
  case up => exact Or.inl (mem_up h)
  case down => exact Or.inl (mem_down h)
  case left => exact Or.inl (mem_left h)
  case right => exact Or.inl (mem_right h)
  case home => exact Or.inl (chars_toStart ▸ h)
  case endKey => exact Or.inl (chars_toEnd ▸ h)
  all_goals exact Or.inl h

end TextArea

end TerminalDialogs
