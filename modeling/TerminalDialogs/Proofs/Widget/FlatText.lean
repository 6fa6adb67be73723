import TerminalDialogs.Proofs.Text.Rows
import TerminalDialogs.Proofs.Widget.Indexed
import TerminalDialogs.Proofs.Widget.Typing

/-!
# An edited text as one line of characters

A text of several lines is held line by line around the cursor.  To the person at the keys it
is one text: characters in a row, some of them line breaks, and a place between two of them.
`FlatText` says what keys do to such a text, and every key does the same to the lines
(`flat_handleKey`), so the two can never part (`edited_as_flat_text`).

What a key does in a flat text is said with positions only.  A line is what stands between two
line breaks, so it has to be looked for around the place, and a move to the line above starts
with a step over the line break in front of it.  The lines of a text know all this, provided
that none of them holds a line break itself; this is what typing keeps as long as no key types
one (`Plain`).

The lines of the theorem are those of `TextArea.Indexed`, with a row and a column of which nothing
is known from how they are held.  That both are in range after any keys is part of what is proved.
-/

namespace TerminalDialogs

/-! ## Flat texts -/

/-- A text with a place between two of its characters. -/
structure FlatText where
  text : Text
  /-- The number of characters before the place. -/
  position : Nat
  deriving DecidableEq, Repr

namespace FlatText

/-- The place with the given characters before and behind it. -/
def between (before behind : Text) : FlatText := ⟨before ++ behind, before.length⟩

/-- How many characters of its line stand before the place. -/
def column (f : FlatText) : Nat :=
  ((f.text.take f.position).reverse.takeWhile (· ≠ '\n')).length

/-- How many characters of its line stand behind the place. -/
def remaining (f : FlatText) : Nat := ((f.text.drop f.position).takeWhile (· ≠ '\n')).length

/-- Where the line of the place starts. -/
def lineStart (f : FlatText) : Nat := f.position - f.column

/-- Where the line of the place ends. -/
def lineEnd (f : FlatText) : Nat := f.position + f.remaining

/-- Another place in the text. -/
def moveTo (f : FlatText) (position : Nat) : FlatText := { f with position }

/-- Puts a character before the place, unless there are as many as the limit allows; a limit of
zero allows any number. -/
def put (limit : Nat) (f : FlatText) (c : Char) : FlatText :=
  if limit ≠ 0 ∧ limit ≤ f.text.length then f
  else ⟨f.text.take f.position ++ c :: f.text.drop f.position, f.position + 1⟩

/-- Removes the character before the place, if there is one. -/
def backspace (f : FlatText) : FlatText :=
  if f.position = 0 then f else ⟨f.text.eraseIdx (f.position - 1), f.position - 1⟩

/-- Removes the character behind the place, if there is one. -/
def delete (f : FlatText) : FlatText := { f with text := f.text.eraseIdx f.position }

/-- One character back. -/
def left (f : FlatText) : FlatText := f.moveTo (f.position - 1)

/-- One character on. -/
def right (f : FlatText) : FlatText := f.moveTo (min (f.position + 1) f.text.length)

/-- To the line above, as far to the right as that line allows. -/
def up (f : FlatText) : FlatText :=
  if f.lineStart = 0 then f
  else
    let endAbove := f.moveTo (f.lineStart - 1)
    f.moveTo (endAbove.lineStart + min f.column endAbove.column)

/-- To the line below, as far to the right as that line allows. -/
def down (f : FlatText) : FlatText :=
  if f.lineEnd = f.text.length then f
  else
    let startBelow := f.moveTo (f.lineEnd + 1)
    f.moveTo (startBelow.position + min f.column startBelow.remaining)

/-- What a key does. -/
def handleKey (limit : Nat) (f : FlatText) (k : Key) : FlatText :=
  match k.code with
  | .char c =>
      if k.ctrl then
        if c = 'a' then f.moveTo f.lineStart
        else if c = 'e' then f.moveTo f.lineEnd
        else f
      else f.put limit c
  | .enter => f.put limit '\n'
  | .backspace => f.backspace
  | .delete => f.delete
  | .up => f.up
  | .down => f.down
  | .left => f.left
  | .right => f.right
  | .home => f.moveTo f.lineStart
  | .endKey => f.moveTo f.lineEnd
  | _ => f

/-! ### Between two parts -/

@[simp] theorem text_between (before behind : Text) :
    (between before behind).text = before ++ behind := rfl

@[simp] theorem position_between (before behind : Text) :
    (between before behind).position = before.length := rfl

theorem moveTo_between {before behind front back : Text} {n : Nat}
    (h : before ++ behind = front ++ back) (hn : n = front.length) :
    (between before behind).moveTo n = between front back := by
  rw [moveTo, hn, between, between, h]

theorem put_between (limit : Nat) (before behind : Text) (c : Char) :
    (between before behind).put limit c =
      if limit ≠ 0 ∧ limit ≤ (before ++ behind).length then between before behind
      else between (before ++ [c]) behind := by
  rw [put, text_between, position_between, List.take_left, List.drop_left, between, between,
    List.append_assoc, @List.length_append _ before [c]]
  rfl

theorem backspace_between_concat (before : Text) (c : Char) (behind : Text) :
    (between (before ++ [c]) behind).backspace = between before behind := by
  rw [backspace, text_between, position_between, List.length_append, List.length_singleton,
    if_neg (Nat.succ_ne_zero _), Nat.add_sub_cancel, List.append_assoc,
    List.eraseIdx_append_of_length_le (Nat.le_refl _), Nat.sub_self]
  rfl

theorem delete_between (before behind : Text) :
    (between before behind).delete = between before behind.tail := by
  rw [delete, text_between, position_between, List.eraseIdx_append_of_length_le (Nat.le_refl _),
    Nat.sub_self, List.eraseIdx_zero]
  rfl

theorem left_between_concat (before : Text) (c : Char) (behind : Text) :
    (between (before ++ [c]) behind).left = between before (c :: behind) := by
  refine moveTo_between (by rw [List.append_assoc]; rfl) ?_
  rw [position_between, List.length_append, List.length_singleton, Nat.add_sub_cancel]

theorem right_between_cons (before : Text) (c : Char) (behind : Text) :
    (between before (c :: behind)).right = between (before ++ [c]) behind := by
  refine moveTo_between (by rw [List.append_assoc]; rfl) ?_
  simp only [text_between, position_between, List.length_append, List.length_cons, List.length_nil]
  omega

theorem right_between_nil (before : Text) : (between before []).right = between before [] := by
  refine moveTo_between rfl ?_
  simp only [text_between, position_between, List.append_nil]
  omega

/-! ### Lines -/

/-- A line ends where this text follows. -/
def EndsLine (s : Text) : Prop := ∀ c ∈ s.head?, c = '\n'

/-- A line starts behind this text. -/
def StartsLine (s : Text) : Prop := ∀ c ∈ s.getLast?, c = '\n'

theorem takeWhile_line {line rest : Text} (hline : '\n' ∉ line) (hrest : EndsLine rest) :
    (line ++ rest).takeWhile (· ≠ '\n') = line := by
  have hall : ∀ c ∈ line, decide (c ≠ '\n') = true := fun c hc =>
    decide_eq_true (ne_of_mem_of_not_mem hc hline)
  rw [List.takeWhile_append_of_pos hall]
  rcases rest with _ | ⟨c, rest⟩
  · rw [List.takeWhile_nil, List.append_nil]
  · rw [hrest c rfl, List.takeWhile_cons_of_neg (by simp), List.append_nil]

theorem column_between {front line : Text} (hfront : StartsLine front) (hline : '\n' ∉ line)
    (behind : Text) : (between (front ++ line) behind).column = line.length := by
  have hends : EndsLine front.reverse := by
    intro c hc
    rw [List.head?_reverse] at hc
    exact hfront c hc
  have hreverse : '\n' ∉ line.reverse := fun h => hline (List.mem_reverse.mp h)
  rw [column, text_between, position_between, List.take_left, List.reverse_append,
    takeWhile_line hreverse hends, List.length_reverse]

theorem lineStart_between {front line : Text} (hfront : StartsLine front) (hline : '\n' ∉ line)
    (behind : Text) : (between (front ++ line) behind).lineStart = front.length := by
  rw [lineStart, column_between hfront hline, position_between, List.length_append,
    Nat.add_sub_cancel]

theorem remaining_between {line rest : Text} (before : Text) (hline : '\n' ∉ line)
    (hrest : EndsLine rest) : (between before (line ++ rest)).remaining = line.length := by
  rw [remaining, text_between, position_between, List.drop_left, takeWhile_line hline hrest]

theorem lineEnd_between {line rest : Text} (before : Text) (hline : '\n' ∉ line)
    (hrest : EndsLine rest) :
    (between before (line ++ rest)).lineEnd = (before ++ line).length := by
  rw [lineEnd, remaining_between before hline hrest, position_between, List.length_append]

theorem startsLine_nil : StartsLine [] := fun _ h => nomatch h

theorem endsLine_nil : EndsLine [] := fun _ h => nomatch h

theorem startsLine_concat (s : Text) : StartsLine (s ++ ['\n']) := by
  intro c hc
  rw [List.getLast?_concat] at hc
  exact (Option.some.inj hc).symm

theorem endsLine_cons (s : Text) : EndsLine ('\n' :: s) := fun _ hc => (Option.some.inj hc).symm

theorem toStart_between {front line : Text} (hfront : StartsLine front) (hline : '\n' ∉ line)
    (behind : Text) :
    (between (front ++ line) behind).moveTo (between (front ++ line) behind).lineStart =
      between front (line ++ behind) :=
  moveTo_between (List.append_assoc ..) (lineStart_between hfront hline behind)

theorem toEnd_between {line rest : Text} (before : Text) (hline : '\n' ∉ line)
    (hrest : EndsLine rest) :
    (between before (line ++ rest)).moveTo (between before (line ++ rest)).lineEnd =
      between (before ++ line) rest :=
  moveTo_between (List.append_assoc ..).symm (lineEnd_between before hline hrest)

/-- Above the first line there is none. -/
theorem up_between_first {line : Text} (hline : '\n' ∉ line) (behind : Text) :
    (between line behind).up = between line behind := by
  have hstart : (between line behind).lineStart = 0 :=
    lineStart_between startsLine_nil hline behind
  rw [up, if_pos hstart]

theorem up_between {front line before : Text} (hfront : StartsLine front) (hline : '\n' ∉ line)
    (hbefore : '\n' ∉ before) (behind : Text) :
    (between (front ++ line ++ ['\n'] ++ before) behind).up =
      between (front ++ line.take before.length)
        (line.drop before.length ++ '\n' :: (before ++ behind)) := by
  have hbreak : StartsLine (front ++ line ++ ['\n']) := startsLine_concat _
  have hstart := lineStart_between hbreak hbefore behind
  have hend : (between (front ++ line ++ ['\n'] ++ before) behind).moveTo
      ((between (front ++ line ++ ['\n'] ++ before) behind).lineStart - 1) =
        between (front ++ line) ('\n' :: (before ++ behind)) := by
    refine moveTo_between (by simp) ?_
    rw [hstart, List.length_append, List.length_singleton, Nat.add_sub_cancel]
  have hne : (front ++ line ++ ['\n']).length ≠ 0 := by simp
  rw [up, hend, hstart, if_neg hne]
  dsimp only
  rw [lineStart_between hfront hline, column_between hfront hline, column_between hbreak hbefore]
  refine moveTo_between ?_ ?_
  · simp only [List.append_assoc, List.singleton_append, List.append_cancel_left_eq]
    rw [← List.append_assoc (line.take _), List.take_append_drop]
    rfl
  · rw [List.length_append, List.length_take]

/-- Below the last line there is none. -/
theorem down_between_last (before : Text) {line : Text} (hline : '\n' ∉ line) :
    (between before line).down = between before line := by
  have hend := lineEnd_between before hline endsLine_nil
  rw [List.append_nil] at hend
  rw [down, hend, text_between, if_pos rfl]

theorem down_between {front before after line rest : Text} (hfront : StartsLine front)
    (hbefore : '\n' ∉ before) (hafter : '\n' ∉ after) (hline : '\n' ∉ line)
    (hrest : EndsLine rest) :
    (between (front ++ before) (after ++ '\n' :: (line ++ rest))).down =
      between (front ++ before ++ after ++ '\n' :: line.take before.length)
        (line.drop before.length ++ rest) := by
  have hend := lineEnd_between (front ++ before) hafter (endsLine_cons (line ++ rest))
  have hstart : (between (front ++ before) (after ++ '\n' :: (line ++ rest))).moveTo
      ((between (front ++ before) (after ++ '\n' :: (line ++ rest))).lineEnd + 1) =
        between (front ++ before ++ after ++ ['\n']) (line ++ rest) := by
    refine moveTo_between (by simp) ?_
    rw [hend, @List.length_append _ _ ['\n'], List.length_singleton]
  have hne : (front ++ before ++ after).length ≠
      (front ++ before ++ (after ++ '\n' :: (line ++ rest))).length := by
    simp only [List.length_append, List.length_cons]
    omega
  rw [down, hstart, hend, text_between, if_neg hne]
  dsimp only
  rw [remaining_between _ hline hrest, column_between hfront hbefore, position_between]
  refine moveTo_between ?_ ?_
  · simp only [List.append_assoc, List.cons_append, List.append_cancel_left_eq]
    rw [← List.append_assoc (line.take _), List.take_append_drop]
  · simp only [List.length_append, List.length_cons, List.length_take, List.length_nil]
    omega

/-! ### The limit -/

/-- There are no more characters than the limit allows. -/
def Within (limit : Nat) (f : FlatText) : Prop := limit ≠ 0 → f.text.length ≤ limit

variable {limit : Nat} {f : FlatText}

theorem Within.put (h : f.Within limit) (c : Char) : (f.put limit c).Within limit := by
  rw [FlatText.put]
  split
  · exact h
  · next hroom =>
    intro hlimit
    have hless := not_and.mp hroom hlimit
    simp only [List.length_append, List.length_cons, List.length_take, List.length_drop]
    omega

/-- Moves leave the text as it is. -/
theorem text_up (f : FlatText) : f.up.text = f.text := by
  rw [up]
  split
  · rfl
  · rfl

theorem text_down (f : FlatText) : f.down.text = f.text := by
  rw [down]
  split
  · rfl
  · rfl

theorem Within.backspace (h : f.Within limit) : f.backspace.Within limit := by
  rw [FlatText.backspace]
  split
  · exact h
  · exact fun hlimit => Nat.le_trans (List.length_eraseIdx_le _ _) (h hlimit)

theorem Within.delete (h : f.Within limit) : f.delete.Within limit := fun hlimit =>
  Nat.le_trans (List.length_eraseIdx_le _ _) (h hlimit)

theorem Within.handleKey (h : f.Within limit) (k : Key) : (f.handleKey limit k).Within limit := by
  rw [FlatText.handleKey]
  cases k.code with
  | char c =>
    dsimp only
    split
    · split
      · exact h
      · split
        · exact h
        · exact h
    · exact h.put c
  | enter => exact h.put '\n'
  | backspace => exact h.backspace
  | delete => exact h.delete
  | up => exact fun hlimit => f.text_up ▸ h hlimit
  | down => exact fun hlimit => f.text_down ▸ h hlimit
  | _ => exact h

/-- What fits is put in one character after the other. -/
theorem foldl_put_between {before s : Text} (h : (between (before ++ s) []).Within limit) :
    s.foldl (FlatText.put limit) (between before []) = between (before ++ s) [] := by
  induction s generalizing before with
  | nil => rw [List.append_nil]; rfl
  | cons c s ih =>
    rw [← List.singleton_append, ← List.append_assoc] at h ⊢
    have hroom : ¬ (limit ≠ 0 ∧ limit ≤ (before ++ []).length) := by
      rintro ⟨hlimit, hle⟩
      have hlength := h hlimit
      simp only [text_between, List.length_append, List.length_cons, List.length_nil] at hle hlength
      omega
    rw [List.singleton_append, List.foldl_cons, put_between, if_neg hroom, ih h]

end FlatText

/-! ## Lines as a flat text -/

namespace TextArea

open FlatText (between StartsLine EndsLine)

variable {t : TextArea}

/-- The number of characters before the cursor, line breaks counted. -/
def offset (t : TextArea) : Nat :=
  (t.lines.take t.row).foldr (fun line n => line.length + 1 + n) t.column

/-- The text with the place of the cursor. -/
def flat (t : TextArea) : FlatText := ⟨t.value, t.offset⟩

/-- Lines held in one part, as a flat text with the place of the cursor. -/
def Indexed.flat (a : Indexed) : FlatText :=
  ⟨a.value, (a.lines.take a.row).foldr (fun line n => line.length + 1 + n) a.column⟩

theorem flat_indexed (t : TextArea) : t.indexed.flat = t.flat := rfl

/-- Lines with a line break behind each. -/
def closed (lines : List Text) : Text := lines.flatMap (· ++ ['\n'])

/-- Lines with a line break in front of each. -/
def opened (lines : List Text) : Text := lines.flatMap ('\n' :: ·)

theorem closed_concat (lines : List Text) (line : Text) :
    closed (lines ++ [line]) = closed lines ++ line ++ ['\n'] := by
  simp [closed]

theorem closed_cons (line : Text) (lines : List Text) :
    closed (line :: lines) = line ++ '\n' :: closed lines := by
  simp [closed]

theorem opened_cons (line : Text) (lines : List Text) :
    opened (line :: lines) = '\n' :: (line ++ opened lines) := rfl

theorem startsLine_closed (lines : List Text) : StartsLine (closed lines) := by
  rcases List.eq_nil_or_concat lines with rfl | ⟨lines, line, rfl⟩
  · exact FlatText.startsLine_nil
  · rw [List.concat_eq_append, closed_concat]
    exact FlatText.startsLine_concat _

theorem endsLine_opened (lines : List Text) : EndsLine (opened lines) := by
  rcases lines with _ | ⟨line, lines⟩
  · exact FlatText.endsLine_nil
  · exact FlatText.endsLine_cons _

theorem unrows_cons (line : Text) (lines : List Text) :
    Text.unrows (line :: lines) = line ++ opened lines := by
  induction lines generalizing line with
  | nil => exact (List.append_nil line).symm
  | cons next lines ih =>
    rw [Text.unrows, Text.join_cons_cons, ← Text.unrows, ih, opened_cons, List.append_assoc]
    rfl

theorem unrows_append_cons (above : List Text) (line : Text) (below : List Text) :
    Text.unrows (above ++ line :: below) = closed above ++ line ++ opened below := by
  induction above with
  | nil => exact unrows_cons line below
  | cons first above ih =>
    have hopened : opened (above ++ line :: below) =
        '\n' :: Text.unrows (above ++ line :: below) := by
      rcases above with _ | ⟨next, above⟩
      · rw [List.nil_append, unrows_cons, opened_cons]
      · rw [List.cons_append, unrows_cons, opened_cons]
    rw [List.cons_append, unrows_cons, hopened, ih, closed_cons]
    simp only [List.append_assoc, List.cons_append]

/-- The characters before the cursor. -/
def front (t : TextArea) : Text := closed t.above ++ t.before

/-- The characters behind the cursor. -/
def back (t : TextArea) : Text := t.after ++ opened t.below

theorem value_eq (t : TextArea) : t.value = t.front ++ t.back := by
  rw [value, lines, unrows_append_cons, current, front, back]
  simp only [List.append_assoc]

theorem foldr_length_closed (lines : List Text) (n : Nat) :
    lines.foldr (fun line n => line.length + 1 + n) n = (closed lines).length + n := by
  induction lines with
  | nil => exact (Nat.zero_add n).symm
  | cons line lines ih =>
    rw [List.foldr_cons, ih, closed_cons, List.length_append, List.length_cons]
    omega

theorem offset_eq (t : TextArea) : t.offset = t.front.length := by
  rw [offset, lines, row, List.take_left, foldr_length_closed, column, front, List.length_append]

theorem flat_eq (t : TextArea) : t.flat = between t.front t.back := by
  rw [flat, value_eq, offset_eq, between]

theorem foldr_length_opened (lines : List Text) (n : Nat) :
    lines.foldr (fun line n => line.length + n) (lines.length + n) =
      (opened lines).length + n := by
  induction lines generalizing n with
  | nil => rfl
  | cons line lines ih =>
    rw [List.foldr_cons, List.length_cons, Nat.add_assoc, ih, opened_cons, List.length_cons,
      List.length_append]
    omega

/-- Line breaks count as characters. -/
theorem length_eq (t : TextArea) : t.length = t.value.length := by
  rw [length, value]
  rcases hlines : t.lines with _ | ⟨line, lines⟩
  · exact absurd hlines (by simp [TextArea.lines])
  · have hfold := foldr_length_opened lines 0
    rw [Nat.add_zero, Nat.add_zero] at hfold
    rw [List.foldr_cons, List.length_cons, Nat.add_sub_cancel, hfold, unrows_cons,
      List.length_append]

theorem isFull_iff (t : TextArea) : t.isFull = true ↔ t.limit ≠ 0 ∧ t.limit ≤ t.value.length := by
  rw [isFull, length_eq, Bool.and_eq_true, bne_iff_ne, decide_eq_true_iff]

/-! ### Changes of the text -/

/-- Whatever puts a character in front of the cursor, unless the limit is reached, does so in the
flat text. -/
theorem flat_put {c : Char} {t' : TextArea} (hfront : t'.front = t.front ++ [c])
    (hback : t'.back = t.back) :
    (if t.isFull then t else t').flat = t.flat.put t.limit c := by
  rw [flat_eq t, FlatText.put_between, ← value_eq]
  by_cases hfull : t.isFull = true
  · rw [if_pos hfull, if_pos (t.isFull_iff.mp hfull), flat_eq]
  · rw [if_neg hfull, if_neg fun h => hfull (t.isFull_iff.mpr h), flat_eq, hfront, hback]

theorem flat_insert (t : TextArea) (c : Char) : (t.insert c).flat = t.flat.put t.limit c :=
  flat_put (List.append_assoc ..).symm rfl

theorem flat_newline (t : TextArea) : t.newline.flat = t.flat.put t.limit '\n' := by
  refine flat_put ?_ rfl
  rw [front, front, closed_concat, List.append_nil]

/-- The line above the cursor ends in the line break in front of the line of the cursor. -/
theorem closed_above {line : Text} (h : t.above.getLast? = some line) :
    closed t.above = closed t.above.dropLast ++ line ++ ['\n'] := by
  obtain ⟨above, habove⟩ := List.getLast?_eq_some_iff.mp h
  rw [habove, List.dropLast_concat, closed_concat]

theorem flat_backspace (t : TextArea) : t.backspace.flat = t.flat.backspace := by
  rw [backspace, flat_eq t, front]
  split
  · next hbefore =>
    rw [List.isEmpty_iff.mp hbefore, List.append_nil]
    split
    · next habove =>
      rw [List.getLast?_eq_none_iff.mp habove, flat_eq, front, List.isEmpty_iff.mp hbefore,
        List.getLast?_eq_none_iff.mp habove]
      rfl
    · next line hline =>
      rw [closed_above hline, FlatText.backspace_between_concat, flat_eq]
      rfl
  · next hbefore =>
    have hne : t.before ≠ [] := fun h => hbefore (List.isEmpty_iff.mpr h)
    obtain ⟨before, c, hconcat⟩ := (List.eq_nil_or_concat t.before).resolve_left hne
    rw [List.concat_eq_append] at hconcat
    rw [flat_eq, front, back, hconcat, ← List.append_assoc, FlatText.backspace_between_concat,
      List.dropLast_concat]
    rfl

theorem flat_delete (t : TextArea) : t.delete.flat = t.flat.delete := by
  rw [flat_eq t, FlatText.delete_between, back, delete]
  split
  · next hafter => rw [flat_eq, hafter]; rfl
  · next hafter hbelow => rw [flat_eq, back, hafter, hbelow]; rfl
  · next hafter hbelow => rw [flat_eq, hafter, hbelow]; rfl

/-! ### Moves of the cursor -/

theorem flat_left (t : TextArea) : t.left.flat = t.flat.left := by
  rw [left, flat_eq t, front]
  split
  · next c hlast =>
    obtain ⟨before, hbefore⟩ := List.getLast?_eq_some_iff.mp hlast
    rw [hbefore, ← List.append_assoc, FlatText.left_between_concat, flat_eq, List.dropLast_concat]
    rfl
  · next hbefore =>
    rw [List.getLast?_eq_none_iff] at hbefore
    rw [hbefore, List.append_nil]
    split
    · next habove =>
      rw [flat_eq, front, hbefore, List.getLast?_eq_none_iff.mp habove]
      rfl
    · next line hline =>
      rw [closed_above hline, FlatText.left_between_concat, flat_eq, front, back, current, hbefore]
      rfl

theorem flat_right (t : TextArea) : t.right.flat = t.flat.right := by
  rw [right, flat_eq t, back]
  split
  · next c after _ hafter =>
    rw [hafter, List.cons_append, FlatText.right_between_cons, flat_eq, front, ← List.append_assoc]
    rfl
  · next hafter hbelow =>
    rw [flat_eq, back, hafter, hbelow]
    exact (FlatText.right_between_nil _).symm
  · next line below hafter hbelow =>
    rw [hafter, hbelow, opened_cons, List.nil_append, FlatText.right_between_cons, flat_eq, front,
      front, back, closed_concat, current, hafter, List.append_nil, List.append_nil]

/-- No line holds a line break, or a carriage return. -/
structure Plain (t : TextArea) : Prop where
  lineFeed_notMem : '\n' ∉ t.chars
  return_notMem : '\r' ∉ t.chars

namespace Plain

theorem before (h : t.Plain) : '\n' ∉ t.before := fun hc =>
  h.lineFeed_notMem (mem_chars.mpr (Or.inr (Or.inl hc)))

theorem after (h : t.Plain) : '\n' ∉ t.after := fun hc =>
  h.lineFeed_notMem (mem_chars.mpr (Or.inr (Or.inr (Or.inl hc))))

theorem above (h : t.Plain) {line : Text} (hline : line ∈ t.above) : '\n' ∉ line := fun hc =>
  h.lineFeed_notMem (mem_chars.mpr (Or.inl ⟨line, hline, hc⟩))

theorem below (h : t.Plain) {line : Text} (hline : line ∈ t.below) : '\n' ∉ line := fun hc =>
  h.lineFeed_notMem (mem_chars.mpr (Or.inr (Or.inr (Or.inr ⟨line, hline, hc⟩))))

theorem flat_toStart (h : t.Plain) : t.toStart.flat = t.flat.moveTo t.flat.lineStart := by
  rw [flat_eq t, front, FlatText.toStart_between (startsLine_closed _) h.before, flat_eq, front,
    back, back, toStart, current, List.append_nil, List.append_assoc]

theorem flat_toEnd (h : t.Plain) : t.toEnd.flat = t.flat.moveTo t.flat.lineEnd := by
  rw [flat_eq t, back, FlatText.toEnd_between _ h.after (endsLine_opened _), flat_eq, front, front,
    back, toEnd, current, List.nil_append, List.append_assoc]

theorem flat_up (h : t.Plain) : t.up.flat = t.flat.up := by
  rw [up, flat_eq t, front]
  split
  · next habove =>
    rw [flat_eq, front, List.getLast?_eq_none_iff.mp habove]
    exact (FlatText.up_between_first h.before _).symm
  · next line hline =>
    rw [closed_above hline, FlatText.up_between (startsLine_closed _)
      (h.above (List.mem_of_getLast? hline)) h.before, flat_eq, front, back, back, enter, column,
      opened_cons, current, List.append_assoc]

theorem flat_down (h : t.Plain) : t.down.flat = t.flat.down := by
  rw [down, flat_eq t, back]
  split
  · next hbelow =>
    rw [flat_eq, back, hbelow, show opened [] = [] from rfl, List.append_nil,
      FlatText.down_between_last _ h.after]
  · next line below hbelow =>
    have hline : '\n' ∉ line := h.below (hbelow ▸ List.mem_cons_self)
    rw [hbelow, opened_cons, front, FlatText.down_between (startsLine_closed _) h.before h.after
      hline (endsLine_opened below), flat_eq, front, back, enter, column, closed_concat, current]
    simp only [List.append_assoc, List.cons_append, List.nil_append]

/-- **Every key** does to the lines what it does to the flat text. -/
theorem flat_handleKey (h : t.Plain) (k : Key) :
    (t.handleKey k).flat = t.flat.handleKey t.limit k := by
  rw [handleKey, FlatText.handleKey]
  cases k.code with
  | char c =>
    dsimp only
    split
    · split
      · exact h.flat_toStart
      · split
        · exact h.flat_toEnd
        · rfl
    · exact t.flat_insert c
  | enter => exact t.flat_newline
  | backspace => exact t.flat_backspace
  | delete => exact t.flat_delete
  | up => exact h.flat_up
  | down => exact h.flat_down
  | left => exact t.flat_left
  | right => exact t.flat_right
  | home => exact h.flat_toStart
  | endKey => exact h.flat_toEnd
  | _ => rfl

theorem handleKey (h : t.Plain) {k : Key} (hfeed : k.code ≠ .char '\n')
    (hreturn : k.code ≠ .char '\r') : (t.handleKey k).Plain :=
  ⟨fun hc => (mem_handleKey hc).elim h.lineFeed_notMem hfeed,
    fun hc => (mem_handleKey hc).elim h.return_notMem hreturn⟩

theorem take (h : t.Plain) (c : Char) : (t.take c).Plain := by
  rw [TextArea.take]
  split
  · exact ⟨fun hc => h.lineFeed_notMem (mem_newline hc),
      fun hc => h.return_notMem (mem_newline hc)⟩
  · next hfeed =>
    split
    · exact h
    · next hreturn =>
      exact ⟨fun hc => (mem_insert hc).elim h.lineFeed_notMem (Ne.symm hfeed),
        fun hc => (mem_insert hc).elim h.return_notMem (Ne.symm hreturn)⟩

theorem return_notMem_value (h : t.Plain) : '\r' ∉ t.value := by
  intro hc
  rcases Text.mem_of_mem_join hc with hc | ⟨line, hline, hc⟩
  · exact absurd hc (by decide)
  · refine h.return_notMem ?_
    rw [chars]
    simp only [lines, List.mem_append, List.mem_cons, List.mem_flatten] at hline ⊢
    grind

end Plain

/-! ### Edited texts -/

theorem limit_insert (t : TextArea) (c : Char) : (t.insert c).limit = t.limit := by
  rw [insert]
  split
  · rfl
  · rfl

theorem limit_newline (t : TextArea) : t.newline.limit = t.limit := by
  rw [newline]
  split
  · rfl
  · rfl

theorem limit_take (t : TextArea) (c : Char) : (t.take c).limit = t.limit := by
  rw [take]
  split
  · exact t.limit_newline
  · split
    · rfl
    · exact t.limit_insert c

theorem limit_handleKey (t : TextArea) (k : Key) : (t.handleKey k).limit = t.limit := by
  rw [handleKey]
  cases k.code with
  | char c =>
    dsimp only
    split
    · split
      · rfl
      · split
        · rfl
        · rfl
    · exact t.limit_insert c
  | enter => exact t.limit_newline
  | backspace =>
    dsimp only [backspace]
    repeat' split
    all_goals rfl
  | delete =>
    dsimp only [delete]
    split
    all_goals rfl
  | up =>
    dsimp only [up]
    split
    all_goals rfl
  | down =>
    dsimp only [down]
    split
    all_goals rfl
  | left =>
    dsimp only [left]
    repeat' split
    all_goals rfl
  | right =>
    dsimp only [right]
    split
    all_goals rfl
  | _ => rfl

theorem flat_take (t : TextArea) (c : Char) :
    (t.take c).flat = if c = '\r' then t.flat else t.flat.put t.limit c := by
  rw [take]
  by_cases hfeed : c = '\n'
  · rw [if_pos hfeed, hfeed, if_neg (by decide), flat_newline]
  · rw [if_neg hfeed]
    split
    · rfl
    · exact t.flat_insert c

theorem flat_foldl_take (t : TextArea) (s : Text) :
    (s.foldl take t).flat = (s.filter (· ≠ '\r')).foldl (FlatText.put t.limit) t.flat := by
  induction s generalizing t with
  | nil => rfl
  | cons c s ih =>
    rw [List.foldl_cons, ih, limit_take, flat_take, List.filter_cons]
    by_cases hreturn : c = '\r'
    · rw [if_pos hreturn, if_neg (by simpa using hreturn)]
    · rw [if_neg hreturn, if_pos (by simpa using hreturn), List.foldl_cons]

/-- A text is put in character by character, without its carriage returns. -/
theorem flat_ofText (value : Text) (limit : Nat) :
    (ofText value limit).flat =
      (value.filter (· ≠ '\r')).foldl (FlatText.put limit) (between [] []) :=
  flat_foldl_take { limit } value

/-- A text as editing leaves it. -/
structure Edited (limit : Nat) (t : TextArea) : Prop where
  plain : t.Plain
  limit_eq : t.limit = limit
  within : t.flat.Within limit

namespace Edited

variable {limit : Nat}

theorem empty (limit : Nat) : Edited limit { limit } :=
  ⟨⟨List.not_mem_nil, List.not_mem_nil⟩, rfl, fun _ => Nat.zero_le _⟩

theorem take (h : t.Edited limit) (c : Char) : (t.take c).Edited limit := by
  refine ⟨h.plain.take c, (t.limit_take c).trans h.limit_eq, ?_⟩
  rw [flat_take, h.limit_eq]
  split
  · exact h.within
  · exact h.within.put c

theorem foldl_take (h : t.Edited limit) (s : Text) : (s.foldl TextArea.take t).Edited limit := by
  induction s generalizing t with
  | nil => exact h
  | cons c s ih => exact ih (h.take c)

theorem ofText (value : Text) (limit : Nat) : (TextArea.ofText value limit).Edited limit :=
  (empty limit).foldl_take value

theorem handleKey (h : t.Edited limit) {k : Key} (hfeed : k.code ≠ .char '\n')
    (hreturn : k.code ≠ .char '\r') : (t.handleKey k).Edited limit := by
  refine ⟨h.plain.handleKey hfeed hreturn, (t.limit_handleKey k).trans h.limit_eq, ?_⟩
  rw [h.plain.flat_handleKey, h.limit_eq]
  exact h.within.handleKey k

theorem foldl_handleKey (h : t.Edited limit) {keys : List Key}
    (hkeys : ∀ k ∈ keys, k.code ≠ .char '\n' ∧ k.code ≠ .char '\r') :
    (keys.foldl TextArea.handleKey t).Edited limit := by
  induction keys generalizing t with
  | nil => exact h
  | cons k keys ih =>
    rw [List.forall_mem_cons] at hkeys
    exact ih (h.handleKey hkeys.1.1 hkeys.1.2) hkeys.2

/-- What editing leaves is taken back as it is. -/
theorem value_ofText (h : t.Edited limit) : (TextArea.ofText t.value limit).value = t.value := by
  have hkept : t.value.filter (· ≠ '\r') = t.value :=
    List.filter_eq_self.mpr fun c hc =>
      decide_eq_true (ne_of_mem_of_not_mem hc h.plain.return_notMem_value)
  have hfits : (between ([] ++ t.value) []).Within limit := by
    intro hlimit
    rw [FlatText.text_between, List.append_nil, List.nil_append]
    exact h.within hlimit
  have hflat := flat_ofText t.value limit
  rw [hkept, FlatText.foldl_put_between hfits] at hflat
  exact (congrArg FlatText.text hflat).trans (List.append_nil _)

end Edited

/-- **An edited text is a flat text with a place.**  However a text came about and whichever keys
were pressed, none of them a line break or a carriage return as a character, no position out of
range was named, the cursor is in a line that is there, and no limit is exceeded.  Every further
key keeps the cursor in range and does to the text and the cursor what it does to the flat text;
and the text, given to another editor, is taken over as it is. -/
theorem edited_as_flat_text {value : Text} {limit : Nat} {keys : List Key}
    (hkeys : ∀ k ∈ keys, k.code ≠ .char '\n' ∧ k.code ≠ .char '\r') :
    ∃ a, Indexed.edit value limit keys = some a ∧
      (keys.foldl handleKey (ofText value limit)).indexed = a ∧
      a.lines ≠ [] ∧ (∃ h : a.row < a.lines.length, a.column ≤ a.lines[a.row].length) ∧
      (0 < limit → a.value.length ≤ limit) ∧
      (∀ k, ∃ a', a.handleKey k = some a' ∧ a'.InRange ∧ a'.flat = a.flat.handleKey limit k) ∧
      (Indexed.ofText a.value limit).map Indexed.value = some a.value := by
  have hedited := (Edited.ofText value limit).foldl_handleKey hkeys
  have hedit := edit_indexed value limit keys
  generalize keys.foldl handleKey (ofText value limit) = t at hedited hedit
  have hrange : t.indexed.InRange := inRange_iff.mpr ⟨t, rfl⟩
  refine ⟨t.indexed, hedit, rfl, ?_, ?_, fun hlimit => hedited.within (Nat.ne_of_gt hlimit),
    fun k => ?_, ?_⟩
  · obtain ⟨line, hline, -⟩ := hrange
    exact List.ne_nil_of_mem (List.mem_of_getElem? hline)
  · obtain ⟨line, hline, hcolumn⟩ := hrange
    obtain ⟨hrow, rfl⟩ := List.getElem?_eq_some_iff.mp hline
    exact ⟨hrow, hcolumn⟩
  · refine ⟨_, handleKey_indexed k, inRange_iff.mpr ⟨_, rfl⟩, ?_⟩
    rw [flat_indexed, flat_indexed, hedited.plain.flat_handleKey, hedited.limit_eq]
  · rw [ofText_indexed]
    exact congrArg some hedited.value_ofText

/-- Two lines are joined, broken in another place and filled up to the limit; the next move up
ends where the line above does. -/
theorem edited_as_flat_text_joined :
    let keys : List Key :=
      [.home, .backspace, .left, .enter, .endKey, .char 'e'].map ({ code := · })
    let joined : Indexed := ⟨["a".toList, "bcde".toList], 1, 4, 6⟩
    (∀ k ∈ keys, k.code ≠ .char '\n' ∧ k.code ≠ .char '\r') ∧
      Indexed.edit "ab\ncd".toList 6 keys = some joined ∧
      joined.flat = ⟨"a\nbcde".toList, 6⟩ ∧
      (∃ a, joined.handleKey { code := .char 'f' } = some a ∧ a.flat = joined.flat) ∧
      (∃ a, joined.handleKey { code := .up } = some a ∧ a.flat = ⟨joined.value, 1⟩) ∧
      (Indexed.ofText joined.value 6).map Indexed.value = some joined.value := by
  intro keys joined
  have hkeys : ∀ k ∈ keys, k.code ≠ .char '\n' ∧ k.code ≠ .char '\r' := by decide
  have hjoined : Indexed.edit "ab\ncd".toList 6 keys = some joined := by decide
  obtain ⟨a, hedit, -, -, -, -, hnext, hagain⟩ :=
    @edited_as_flat_text "ab\ncd".toList 6 keys hkeys
  obtain rfl : joined = a := Option.some.inj (hjoined.symm.trans hedit)
  refine ⟨hkeys, hjoined, by decide, ?_, ?_, hagain⟩
  · obtain ⟨a, ha, -, hflat⟩ := hnext { code := .char 'f' }
    exact ⟨a, ha, hflat.trans (by decide)⟩
  · obtain ⟨a, ha, -, hflat⟩ := hnext { code := .up }
    exact ⟨a, ha, hflat.trans (by decide)⟩

end TextArea
end TerminalDialogs
