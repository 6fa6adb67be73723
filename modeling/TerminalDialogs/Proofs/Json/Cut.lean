import Mathlib.Data.List.Basic
import Mathlib.Order.Basic
import TerminalDialogs.Json.Lexeme
import TerminalDialogs.Json.Printer

/-!
# Cutting what was printed

What is printed as one lexeme is cut as one lexeme, whatever was printed in front of it and
behind it.  Pieces are put together from there (`Cut.append`): where a piece ends, the rest is
cut as if nothing had been in front of it, but for the places, which no reader that succeeds
looks at.

Strings and punctuation say themselves where they end.  A number does not, so it is cut right
only where it is followed by something that cannot belong to it (`Delimited`).
-/

namespace TerminalDialogs
namespace Json

variable {c : Char} {s rest piece : Text} {Q R : Text → Prop} {ls ls' : List Lexeme} {n : Nat}

/-- In front of texts of some kind, a piece is cut into the given lexemes. -/
def Cut (Q : Text → Prop) (piece : Text) (ls : List Lexeme) : Prop :=
  ∀ start rest, Q rest → ∃ placed : List Placed, placed.map Placed.lexeme = ls ∧
    lexemesFrom start (piece ++ rest) =
      (placed ++ (lexemesFrom (start.advanceAll piece) rest).1,
        (lexemesFrom (start.advanceAll piece) rest).2)

/-- Any text at all. -/
def Anything (_ : Text) : Prop := True

/-- A text of which nothing can belong to a number in front of it. -/
def Delimited (rest : Text) : Prop := ∀ c ∈ rest.head?, c = ',' ∨ c = ']' ∨ c = '\x7d'

theorem delimited_nil : Delimited [] := nofun

theorem delimited_cons {c : Char} (h : c = ',' ∨ c = ']' ∨ c = '\x7d') (rest : Text) :
    Delimited (c :: rest) := fun _ hc => Option.some.inj hc ▸ h

namespace Cut

theorem mono (h : Cut Q piece ls) (hQ : ∀ rest, R rest → Q rest) : Cut R piece ls :=
  fun start rest hrest => h start rest (hQ rest hrest)

/-- One piece behind another. -/
theorem append {piece' : Text} (h : Cut Q piece ls) (h' : Cut R piece' ls')
    (hQ : ∀ rest, R rest → Q (piece' ++ rest)) : Cut R (piece ++ piece') (ls ++ ls') := by
  intro start rest hrest
  obtain ⟨front, rfl, hfront⟩ := h start (piece' ++ rest) (hQ rest hrest)
  obtain ⟨back, rfl, hback⟩ := h' (start.advanceAll piece) rest hrest
  have hstop : start.advanceAll (piece ++ piece') =
      (start.advanceAll piece).advanceAll piece' := List.foldl_append
  refine ⟨front ++ back, List.map_append, ?_⟩
  rw [List.append_assoc, hfront, hback, hstop, List.append_assoc]

/-- A piece behind one that says itself where it ends. -/
theorem behind {piece' : Text} (h : Cut Anything piece ls) (h' : Cut R piece' ls') :
    Cut R (piece ++ piece') (ls ++ ls') :=
  h.append h' fun _ _ => trivial

/-- A piece that is one lexeme. -/
theorem single {l : Lexeme} (hblank : isBlank c = false)
    (h : ∀ start rest, Q rest → readLexeme start c (s ++ rest) = (l, s.length + 1)) :
    Cut Q (c :: s) [l] := by
  intro start rest hrest
  refine ⟨[⟨l, start, start.advanceAll (c :: s)⟩], rfl, ?_⟩
  rw [List.cons_append, lexemesFrom, if_neg (by rw [hblank]; exact Bool.false_ne_true)]
  dsimp only
  rw [h start rest hrest]
  dsimp only
  rw [Nat.add_sub_cancel, List.take_left, List.drop_left]
  rfl

end Cut

/-! ## Punctuation and words -/

theorem cut_openArray : Cut Anything ['['] [.openArray] := .single rfl fun _ _ _ => rfl

theorem cut_closeArray : Cut Anything [']'] [.closeArray] := .single rfl fun _ _ _ => rfl

theorem cut_openObject : Cut Anything ['\x7b'] [.openObject] := .single rfl fun _ _ _ => rfl

theorem cut_closeObject : Cut Anything ['\x7d'] [.closeObject] := .single rfl fun _ _ _ => rfl

theorem cut_colon : Cut Anything [':'] [.colon] := .single rfl fun _ _ _ => rfl

theorem cut_comma : Cut Anything [','] [.comma] := .single rfl fun _ _ _ => rfl

theorem cut_null : Cut Anything "null".toList [.atom (.ok .null)] :=
  .single rfl fun _ _ _ => rfl

theorem cut_true : Cut Anything "true".toList [.atom (.ok (.bool true))] :=
  .single rfl fun _ _ _ => rfl

theorem cut_false : Cut Anything "false".toList [.atom (.ok (.bool false))] :=
  .single rfl fun _ _ _ => rfl

/-! ## Strings -/

/-- The escapes of control characters that have no short form. -/
theorem hexQuad?_digits : ∀ n < 32,
    hexQuad? '0' '0' (Hex.digit (n / 16)) (Hex.digit (n % 16)) = some n := by decide

/-- How a character is written inside a string. -/
theorem escapeChar_cases (c : Char) :
    (∃ d, escapeChar c = ['\\', d] ∧ shortEscape? d = some c ∧ d ≠ 'u') ∨
      (c.toNat < 32 ∧ escapeChar c =
        ['\\', 'u', '0', '0', Hex.digit (c.toNat / 16), Hex.digit (c.toNat % 16)]) ∨
      (¬ c.toNat < 32 ∧ c ≠ '"' ∧ c ≠ '\\' ∧ escapeChar c = [c]) := by
  fun_cases escapeChar c
  case case8 h => exact .inr (.inl ⟨h, rfl⟩)
  case case9 hquote hslash _ _ _ _ _ h => exact .inr (.inr ⟨h, hquote, hslash, rfl⟩)
  all_goals
    rename_i hc
    subst hc
    exact .inl ⟨_, rfl, rfl, by decide⟩

/-- A reader that wants the string finds the character that was written. -/
theorem readString_escapeChar (c : Char) (rest seen : Text) (used : Nat) :
    readString (escapeChar c ++ rest) seen used =
      readString rest (c :: seen) (used + (escapeChar c).length) := by
  rcases escapeChar_cases c with ⟨d, hc, hd, hu⟩ | ⟨hc, h⟩ | ⟨hlow, hquote, hslash, h⟩
  · rw [hc, List.cons_append, List.cons_append, List.nil_append, readString.eq_def]
    simp [hd, hu]
  · rw [h]
    simp only [List.cons_append, List.nil_append]
    rw [readString, hexQuad?_digits _ hc]
    dsimp only
    rw [if_neg (by omega), if_pos (by omega), Char.ofNat_toNat]
    rfl
  · rw [h, List.singleton_append, readString, if_neg hlow]
    · rfl
    · exact hquote
    all_goals
      intros
      contradiction

/-- A reader that skips the string passes over it. -/
theorem skipString_escapeChar (c : Char) (rest : Text) (used : Nat) :
    skipString (escapeChar c ++ rest) used = skipString rest (used + (escapeChar c).length) := by
  rcases escapeChar_cases c with ⟨d, hc, hd, hu⟩ | ⟨hc, h⟩ | ⟨hlow, hquote, hslash, h⟩
  · rw [hc, List.cons_append, List.cons_append, List.nil_append, skipString.eq_def]
    simp [hd, hu]
  · rw [h]
    simp only [List.cons_append, List.nil_append]
    rw [skipString, hexQuad?_digits _ hc]
    rfl
  · rw [h, List.singleton_append, skipString, if_neg hlow]
    · rfl
    · exact hquote
    all_goals
      intros
      contradiction

theorem readString_escaped (s rest seen : Text) (used : Nat) :
    readString (s.flatMap escapeChar ++ '"' :: rest) seen used = .ok (seen.reverse ++ s) := by
  induction s generalizing seen used with
  | nil =>
    rw [List.flatMap_nil, List.nil_append, readString, List.append_nil]
  | cons c s ih =>
    rw [List.flatMap_cons, List.append_assoc, readString_escapeChar, ih, List.reverse_cons,
      List.append_assoc, List.singleton_append]

theorem skipString_escaped (s rest : Text) (used : Nat) :
    skipString (s.flatMap escapeChar ++ '"' :: rest) used =
      .ok (used + (s.flatMap escapeChar).length + 1) := by
  induction s generalizing used with
  | nil => rw [List.flatMap_nil, List.nil_append, skipString, List.length_nil, Nat.add_zero]
  | cons c s ih =>
    rw [List.flatMap_cons, List.append_assoc, skipString_escapeChar, ih, List.length_append,
      Nat.add_assoc used]

/-- **Every string is cut as it was written.** -/
theorem cut_quote (s : Text) : Cut Anything (quote s) [.string (.ok s)] := by
  have hquote : quote s = '"' :: (s.flatMap escapeChar ++ ['"']) := rfl
  rw [hquote]
  refine .single rfl fun start rest _ => ?_
  have htext : s.flatMap escapeChar ++ ['"'] ++ rest = s.flatMap escapeChar ++ '"' :: rest :=
    List.append_assoc _ _ _
  have hlexeme : readLexeme start '"' (s.flatMap escapeChar ++ '"' :: rest) =
      Reading.lexeme .string true start ('"' :: (s.flatMap escapeChar ++ '"' :: rest))
        ⟨readString (s.flatMap escapeChar ++ '"' :: rest) [] 1,
          skipString (s.flatMap escapeChar ++ '"' :: rest) 1⟩ := rfl
  rw [htext, hlexeme, readString_escaped, skipString_escaped, List.length_append,
    List.length_singleton, Nat.add_comm 1]
  rfl

/-! ## Whole numbers -/

theorem isDigit_of_mem_ofNat (h : c ∈ Text.ofNat n) : isDigit c = true := by
  have hdigit : c.isDigit = true := Text.isDigit_of_mem_ofNat h
  rw [Char.isDigit, Bool.and_eq_true, decide_eq_true_iff, decide_eq_true_iff] at hdigit
  rw [isDigit, Bool.and_eq_true, decide_eq_true_iff, decide_eq_true_iff]
  exact hdigit

theorem digitsValue_ofNat (n : Nat) : digitsValue 0 (Text.ofNat n) = n :=
  Nat.ofDigitChars_ten_toDigits

/-- Only zero starts with a zero. -/
theorem head?_ofNat (h : 0 < n) : (Text.ofNat n).head? ≠ some '0' := by
  induction n using Nat.strongRecOn with
  | ind n ih =>
    rcases Nat.lt_or_ge n 10 with hlt | hge
    · have hdigits : ∀ n < 10, 0 < n → (Text.ofNat n).head? ≠ some '0' := by decide
      exact hdigits n hlt h
    · rw [Text.ofNat, Nat.toDigits_of_base_le (by decide) hge, List.head?_append_of_ne_nil _
        Nat.toDigits_ne_nil]
      exact ih (n / 10) (by omega) (by omega)

theorem isDigit_of_delimited (h : Delimited rest) (hc : c ∈ rest.head?) : isDigit c = false := by
  rcases h c hc with rfl | rfl | rfl <;> rfl

theorem takeWhile_digits {digits : Text} (hdigits : ∀ c ∈ digits, isDigit c = true)
    (hrest : Delimited rest) : (digits ++ rest).takeWhile isDigit = digits := by
  rw [List.takeWhile_append_of_pos hdigits]
  rcases rest with _ | ⟨c, rest⟩
  · rw [List.takeWhile_nil, List.append_nil]
  · rw [List.takeWhile_cons_of_neg, List.append_nil]
    rw [isDigit_of_delimited hrest rfl]
    exact Bool.false_ne_true

theorem le_digitsValue (digits : Text) (start : Nat) : start ≤ digitsValue start digits := by
  induction digits generalizing start with
  | nil => exact Nat.le_refl _
  | cons c digits ih =>
    have hnext : start ≤ 10 * start + (c.toNat - '0'.toNat) := by omega
    exact Nat.le_trans hnext (ih _)

/-- Digits whose value fits are all taken. -/
theorem fittingDigits_eq {digits : Text} {start : Nat} (hdigits : ∀ c ∈ digits, isDigit c = true)
    (hrest : Delimited rest) (hfits : digitsValue start digits < wordLimit) :
    fittingDigits start (digits ++ rest) = (digitsValue start digits, digits.length) := by
  induction digits generalizing start with
  | nil =>
    rcases rest with _ | ⟨c, rest⟩
    · rfl
    · rw [List.nil_append, fittingDigits, isDigit_of_delimited hrest rfl,
        if_neg Bool.false_ne_true]
      rfl
  | cons c digits ih =>
    rw [List.forall_mem_cons] at hdigits
    have hnext : 10 * start + (c.toNat - '0'.toNat) < wordLimit :=
      Nat.lt_of_le_of_lt (le_digitsValue digits _) hfits
    rw [List.cons_append, fittingDigits, if_pos hdigits.1]
    dsimp only
    rw [if_neg (Nat.not_le_of_lt hnext), ih hdigits.2 hfits]
    rfl

/-- Nothing follows a whole number that could belong to it. -/
theorem numberLength_eq {digits : Text} (hdigits : ∀ c ∈ digits, isDigit c = true)
    (hrest : Delimited rest) : numberLength (digits ++ rest) = digits.length := by
  have hnothing : fractionLength rest = 0 ∧ exponentLength rest = 0 := by
    rcases rest with _ | ⟨c, rest⟩
    · exact ⟨rfl, rfl⟩
    · rcases hrest c rfl with rfl | rfl | rfl
      all_goals exact ⟨rfl, rfl⟩
  rw [numberLength, takeWhile_digits hdigits hrest, List.drop_left, hnothing.1, Nat.add_zero,
    List.drop_left, hnothing.2, Nat.add_zero]

/-- A whole number is read, whichever sign was in front of it. -/
theorem readNumber_ofNat (hn : n < wordLimit) (hrest : Delimited rest) (positive : Bool)
    (used : Nat) :
    readNumber positive (Text.ofNat n ++ rest) used = .ok (wholeNumber positive n) := by
  have hdigits : ∀ c ∈ Text.ofNat n, isDigit c = true := fun c => isDigit_of_mem_ofNat
  have hfits : fittingDigits 0 (Text.ofNat n ++ rest) = (n, (Text.ofNat n).length) := by
    have hvalue := digitsValue_ofNat n
    rw [fittingDigits_eq hdigits hrest (by rw [hvalue]; exact hn), hvalue]
  have hshown := takeWhile_digits hdigits hrest
  rcases Nat.eq_zero_or_pos n with rfl | hpos
  · have hzero : Text.ofNat 0 = ['0'] := rfl
    rw [hzero]
    rcases rest with _ | ⟨c, rest⟩
    · rfl
    · rcases hrest c rfl with rfl | rfl | rfl
      all_goals rfl
  · have hhead := head?_ofNat hpos
    obtain ⟨c, digits, hcons⟩ : ∃ c digits, Text.ofNat n = c :: digits :=
      List.exists_cons_of_ne_nil Nat.toDigits_ne_nil
    rw [hcons] at hdigits hfits hshown hhead ⊢
    rw [List.cons_append] at hfits hshown ⊢
    have hne : c ≠ '0' := fun h => hhead (congrArg some h)
    have hafter : (c :: (digits ++ rest)).drop (c :: digits).length = rest := List.drop_left
    rw [readNumber, if_pos (hdigits c List.mem_cons_self), hfits, hshown]
    · dsimp only
      rw [hafter, if_pos rfl]
      rcases rest with _ | ⟨d, rest⟩
      · rfl
      · rcases hrest d rfl with rfl | rfl | rfl
        all_goals rfl
    · exact fun d _ h => absurd h hne
    · exact fun h => absurd h hne

theorem isBlank_of_isDigit (hc : isDigit c = true) : isBlank c = false := by
  refine Bool.eq_false_iff.mpr fun hblank => ?_
  simp only [isBlank, Bool.or_eq_true, beq_iff_eq] at hblank
  rcases hblank with ((rfl | rfl) | rfl) | rfl
  all_goals exact absurd hc (by decide)

theorem readLexeme_digit (hc : isDigit c = true) (start : Position) (rest : Text) :
    readLexeme start c rest =
      (numberReading true (c :: rest) 0).lexeme .atom false start (c :: rest) := by
  unfold readLexeme
  split
  all_goals first
    | exact absurd hc (by decide)
    | exact if_pos hc

/-- A whole number of 64 bits is cut as it was written, if nothing that could belong to it
follows. -/
theorem cut_natural (hn : n < wordLimit) :
    Cut Delimited (Text.ofNat n) [.atom (.ok (.number (.natural n)))] := by
  have hdigits : ∀ c ∈ Text.ofNat n, isDigit c = true := fun c => isDigit_of_mem_ofNat
  have hreading (rest : Text) (hrest : Delimited rest) :
      numberReading true (Text.ofNat n ++ rest) 0 =
        ⟨.ok (.number (.natural n)), .ok (Text.ofNat n).length⟩ := by
    rw [numberReading, readNumber_ofNat hn hrest, numberLength_eq hdigits hrest, Nat.zero_add]
    rfl
  obtain ⟨c, digits, hcons⟩ : ∃ c digits, Text.ofNat n = c :: digits :=
    List.exists_cons_of_ne_nil Nat.toDigits_ne_nil
  rw [hcons] at hdigits hreading ⊢
  have hc := hdigits c List.mem_cons_self
  refine .single (isBlank_of_isDigit hc) fun start rest hrest => ?_
  rw [readLexeme_digit hc, ← List.cons_append, hreading rest hrest]
  rfl

/-- So is a negative one. -/
theorem cut_negative (hpos : 0 < n) (hn : n ≤ Nat.pow 2 63) :
    Cut Delimited ('-' :: Text.ofNat n) [.atom (.ok (.number (.negative n)))] := by
  have hdigits : ∀ c ∈ Text.ofNat n, isDigit c = true := fun c => isDigit_of_mem_ofNat
  have hlimit : n < wordLimit := Nat.lt_of_le_of_lt hn (by decide)
  refine .single rfl fun start rest hrest => ?_
  have hreading : numberReading false (Text.ofNat n ++ rest) 1 =
      ⟨.ok (.number (.negative n)), .ok (1 + (Text.ofNat n).length)⟩ := by
    rw [numberReading, readNumber_ofNat hlimit hrest, numberLength_eq hdigits hrest, wholeNumber,
      if_neg Bool.false_ne_true, if_pos ⟨hpos, hn⟩]
  have hlexeme : readLexeme start '-' (Text.ofNat n ++ rest) =
      (numberReading false (Text.ofNat n ++ rest) 1).lexeme .atom false start
        ('-' :: (Text.ofNat n ++ rest)) := rfl
  rw [hlexeme, hreading, Nat.add_comm]
  rfl

end Json
end TerminalDialogs
