import Mathlib.Data.List.Forall2
import TerminalDialogs.Prompt
import TerminalDialogs.Proofs.Text.Rows
import TerminalDialogs.Proofs.Text.Words

/-!
# Which positions an answer names

An answer that chooses from a numbered list is a line of numerals between commas and blanks.
A *numeral* is a run of decimal digits, perhaps behind a plus sign, whose value is below the
limit for numbers; leading zeros do not matter (`Numeral`).  A line *spells* positions if its words
are numerals of them, counted from one (`Spells`).

Reading such a line is exact: it yields positions if and only if all its words are numerals from
one to the number of items, and then those that the line spells, each where it is mentioned first
(`positions?_eq_some_iff`).  What is picked is what was named, if it is not too much
(`pick_eq_ok_iff`).
-/

namespace TerminalDialogs
namespace Prompt

variable {count limit n i : Nat} {multi : Bool} {s word line : Text}
  {spelled found picked : List Nat}

/-! ## Numerals -/

/-- A word that stands for a number. -/
def Numeral (n : Nat) (word : Text) : Prop :=
  ∃ digits : Text, (word = digits ∨ word = '+' :: digits) ∧ digits ≠ [] ∧
    (∀ c ∈ digits, c.isDigit = true) ∧ Nat.ofDigitChars 10 digits 0 = n ∧ n < numberLimit

/-- More digits do not make a number smaller. -/
theorem le_ofDigitChars (s : Text) (n : Nat) : n ≤ Nat.ofDigitChars 10 s n := by
  induction s generalizing n with
  | nil => exact Nat.le_refl n
  | cons c s ih =>
    rw [Nat.ofDigitChars_cons]
    exact le_trans (by omega) (ih _)

/-- One more digit, as long as the number is not too large. -/
def addDigit (read : Option Nat) (c : Char) : Option Nat :=
  read.bind fun n =>
    let next := 10 * n + (c.toNat - '0'.toNat)
    if c.isDigit && next < numberLimit then some next else none

theorem foldl_addDigit_none (s : Text) : s.foldl addDigit none = none := by
  induction s with
  | nil => rfl
  | cons c s ih => exact ih

/-- A number that becomes too large on the way would be too large in the end. -/
theorem foldl_addDigit_iff {m : Nat} (hm : m < numberLimit) :
    s.foldl addDigit (some m) = some n ↔
      (∀ c ∈ s, c.isDigit = true) ∧ Nat.ofDigitChars 10 s m = n ∧ n < numberLimit := by
  induction s generalizing m with
  | nil =>
    rw [List.foldl_nil, Option.some.injEq]
    constructor
    · rintro rfl
      exact ⟨fun c hc => absurd hc List.not_mem_nil, rfl, hm⟩
    · exact fun h => h.2.1
  | cons c s ih =>
    rw [List.foldl_cons, List.forall_mem_cons, Nat.ofDigitChars_cons, addDigit, Option.bind_some]
    dsimp only
    by_cases hc : c.isDigit = true
    · by_cases hnext : 10 * m + (c.toNat - '0'.toNat) < numberLimit
      · rw [if_pos (by simp only [hc, hnext, decide_true, Bool.and_self]), ih hnext, and_assoc]
        exact ⟨fun h => ⟨hc, h⟩, And.right⟩
      · rw [if_neg (by simp only [hnext, decide_false, Bool.and_false, Bool.false_eq_true,
          not_false_eq_true]), foldl_addDigit_none]
        refine iff_of_false (nofun) fun ⟨_, hvalue, hlimit⟩ => hnext ?_
        exact lt_of_le_of_lt (hvalue ▸ le_ofDigitChars s _) hlimit
    · rw [if_neg (by simp only [hc, Bool.false_and, Bool.false_eq_true, not_false_eq_true]),
        foldl_addDigit_none]
      exact iff_of_false (nofun) fun h => hc h.1.1

theorem digits?_eq_some_iff : digits? s = some n ↔
    s ≠ [] ∧ (∀ c ∈ s, c.isDigit = true) ∧ Nat.ofDigitChars 10 s 0 = n ∧ n < numberLimit := by
  rw [digits?]
  split
  · next hnil => exact iff_of_false (nofun) fun h => h.1 (List.isEmpty_iff.mp hnil)
  · next hne =>
    have hzero : 0 < numberLimit := Nat.pow_pos (by decide)
    exact (foldl_addDigit_iff hzero).trans ⟨fun h => ⟨mt List.isEmpty_iff.mpr hne, h⟩, And.right⟩

theorem number?_eq_some_iff : number? word = some n ↔ Numeral n word := by
  have hplus {s : Text} (h : digits? ('+' :: s) = some n) : False :=
    absurd ((digits?_eq_some_iff.mp h).2.1 '+' List.mem_cons_self) (by decide)
  constructor
  · fun_cases number? word
    · next rest => exact fun h => ⟨rest, .inr rfl, digits?_eq_some_iff.mp h⟩
    · exact fun h => ⟨word, .inl rfl, digits?_eq_some_iff.mp h⟩
  · rintro ⟨digits, hword, h⟩
    rw [← digits?_eq_some_iff] at h
    rcases hword with rfl | rfl
    · fun_cases number? word
      · exact (hplus h).elim
      · exact h
    · exact h

/-- A word names a position if it is a numeral of it, counted from one. -/
theorem position?_eq_some_iff :
    position? count word = some i ↔ Numeral (i + 1) word ∧ i < count := by
  rw [← number?_eq_some_iff]
  fun_cases position? count word
  · next n hn hlt =>
    rw [hn, Option.some.injEq, Option.some.injEq, Nat.succ.injEq]
    exact ⟨fun h => ⟨h, h ▸ hlt⟩, And.left⟩
  · next n hn hlt =>
    rw [hn, Option.some.injEq, Nat.succ.injEq]
    exact iff_of_false (nofun) fun h => hlt (h.1 ▸ h.2)
  · next hother => exact iff_of_false (nofun) fun h => hother i h.1

/-- A number is written as a numeral. -/
theorem numeral_ofNat (h : n < numberLimit) : Numeral n (Text.ofNat n) :=
  have hdigits : ∀ c ∈ Text.ofNat n, c.isDigit = true :=
    fun _ => Text.isDigit_of_mem_ofNat
  ⟨_, .inl rfl, Nat.toDigits_ne_nil, hdigits, Nat.ofDigitChars_ten_toDigits, h⟩

/-- Neither the digits nor the sign of a numeral separates words or ends a line. -/
theorem Numeral.mem (h : Numeral n word) {c : Char} (hc : c ∈ word) :
    c.isDigit = true ∨ c = '+' := by
  obtain ⟨digits, rfl | rfl, -, hdigits, -⟩ := h
  · exact .inl (hdigits c hc)
  · rcases List.mem_cons.mp hc with rfl | hc
    · exact .inr rfl
    · exact .inl (hdigits c hc)

theorem Numeral.ne_nil (h : Numeral n word) : word ≠ [] := by
  obtain ⟨digits, rfl | rfl, hne, -⟩ := h
  · exact hne
  · exact List.cons_ne_nil _ _

/-! ## Positions -/

/-- What stands between two numerals. -/
def isSeparator (c : Char) : Bool := c == ',' || c == ' '

/-- Words that are the numerals of some positions, counted from one. -/
def Numerals (words : List Text) (spelled : List Nat) : Prop :=
  List.Forall₂ (fun word i => Numeral (i + 1) word) words spelled

/-- A line whose words are the numerals of some positions. -/
def Spells (line : Text) (spelled : List Nat) : Prop :=
  Numerals (Text.words isSeparator line) spelled

/-- Adds a position that is not there. -/
def note (found : List Nat) (i : Nat) : List Nat := if found.contains i then found else found ++ [i]

/-- What is added one by one are the positions that were not there, each where it comes first. -/
theorem foldl_note (spelled found : List Nat) :
    spelled.foldl note found = found ++ (spelled.removeAll found).eraseDups := by
  induction spelled generalizing found with
  | nil => exact (List.append_nil found).symm
  | cons i spelled ih =>
    rw [List.foldl_cons, ih, note, List.cons_removeAll]
    by_cases hi : found.contains i = true
    · rw [if_pos hi, if_neg (by rw [hi]; decide)]
    · have hfilter : spelled.removeAll (found ++ [i]) =
          (spelled.removeAll found).filter (fun j => !j == i) := by
        rw [List.removeAll, List.removeAll, List.filter_filter]
        refine List.filter_congr fun j _ => ?_
        rw [List.elem_eq_contains, List.elem_eq_contains, List.contains_append, List.contains_cons,
          List.contains_nil, Bool.or_false, Bool.not_or, Bool.and_comm]
      rw [if_neg hi, if_pos (Bool.eq_false_iff.mpr hi), List.eraseDups_cons, hfilter,
        List.append_assoc]
      rfl

theorem collect_eq_some_iff {words : List Text} : collect count found words = some picked ↔
    ∃ spelled, Numerals words spelled ∧ (∀ i ∈ spelled, i < count) ∧
      picked = spelled.foldl note found := by
  induction words generalizing found with
  | nil =>
    rw [collect, Option.some.injEq]
    constructor
    · rintro rfl
      exact ⟨[], .nil, fun i hi => absurd hi List.not_mem_nil, rfl⟩
    · rintro ⟨spelled, hwords, -, rfl⟩
      rw [List.forall₂_nil_left_iff.mp hwords]
      rfl
  | cons word words ih =>
    rw [collect]
    rcases hword : position? count word with _ | i
    · refine iff_of_false (nofun) fun ⟨spelled, hwords, hvalid, _⟩ => ?_
      obtain ⟨i, spelled, hi, -, rfl⟩ := List.forall₂_cons_left_iff.mp hwords
      rw [position?_eq_some_iff.mpr ⟨hi, hvalid i List.mem_cons_self⟩] at hword
      exact absurd hword (Option.some_ne_none i)
    · have hi := position?_eq_some_iff.mp hword
      refine ih.trans ⟨?_, ?_⟩
      · rintro ⟨spelled, hwords, hvalid, rfl⟩
        exact ⟨i :: spelled, .cons hi.1 hwords, List.forall_mem_cons.mpr ⟨hi.2, hvalid⟩, rfl⟩
      · rintro ⟨_, hwords, hvalid, rfl⟩
        obtain ⟨j, spelled, hj, hrest, rfl⟩ := List.forall₂_cons_left_iff.mp hwords
        rw [List.forall_mem_cons] at hvalid
        -- A word is a numeral of one position only.
        rw [position?_eq_some_iff.mpr ⟨hj, hvalid.1⟩, Option.some.injEq] at hword
        subst hword
        exact ⟨spelled, hrest, hvalid.2, rfl⟩

theorem eraseDups_eq_nil_iff : spelled.eraseDups = [] ↔ spelled = [] := by
  rw [List.eq_nil_iff_forall_not_mem, List.eq_nil_iff_forall_not_mem]
  simp only [List.mem_eraseDups]

theorem eraseDups_of_nodup (h : spelled.Nodup) : spelled.eraseDups = spelled := by
  induction spelled with
  | nil => exact List.eraseDups_nil
  | cons i spelled ih =>
    obtain ⟨hi, hspelled⟩ := List.nodup_cons.mp h
    have hfilter : spelled.filter (fun j => !j == i) = spelled :=
      List.filter_eq_self.mpr fun j hj => by
        have hne : j ≠ i := fun heq => hi (heq ▸ hj)
        simp [hne]
    rw [List.eraseDups_cons, hfilter, ih hspelled]

/-- Positions of a list of `count` items that a line names: those that it spells, each where it is
mentioned first.  There is at least one, and all that the line spells are positions of the list. -/
def Names (count : Nat) (line : Text) (found : List Nat) : Prop :=
  ∃ spelled, Spells line spelled ∧ spelled ≠ [] ∧ (∀ i ∈ spelled, i < count) ∧
    found = spelled.eraseDups

namespace Names

theorem nodup (h : Names count line found) : found.Nodup := by
  obtain ⟨spelled, -, -, -, rfl⟩ := h
  exact Text.nodup_eraseDups spelled

theorem lt (h : Names count line found) : ∀ i ∈ found, i < count := by
  obtain ⟨spelled, -, -, hvalid, rfl⟩ := h
  exact fun i hi => hvalid i (List.mem_eraseDups.mp hi)

end Names

/-- **An answer is read exactly**: it yields the positions that it names, if it names any. -/
theorem positions?_eq_some_iff : positions? count line = some found ↔ Names count line found := by
  have hnote (spelled : List Nat) : spelled.foldl note [] = spelled.eraseDups := by
    rw [foldl_note, List.nil_append, List.removeAll]
    congr 1
    exact List.filter_eq_self.mpr fun i _ => rfl
  have hcollect : positions? count line = some found ↔
      collect count [] (Text.words isSeparator line) = some found ∧ found ≠ [] := by
    have hwords : Text.words (fun c => c == ',' || c == ' ') line =
        Text.words isSeparator line := rfl
    have hnothing : ¬ (none : Option (List Nat)) = some found := (Option.some_ne_none found).symm
    fun_cases positions? count line with
    | case1 hnone =>
      rw [← hwords, hnone]
      exact iff_of_false hnothing fun h => hnothing h.1
    | case2 hempty =>
      rw [← hwords, hempty]
      exact iff_of_false hnothing fun h => h.2 (Option.some.inj h.1).symm
    | case3 named hne hnamed =>
      rw [← hwords, hnamed]
      exact ⟨fun h => ⟨h, Option.some.inj h ▸ hne⟩, And.left⟩
  rw [hcollect, collect_eq_some_iff]
  constructor
  · rintro ⟨⟨spelled, hspells, hvalid, rfl⟩, hne⟩
    rw [hnote] at hne ⊢
    exact ⟨spelled, hspells, mt eraseDups_eq_nil_iff.mpr hne, hvalid, rfl⟩
  · rintro ⟨spelled, hspells, hne, hvalid, rfl⟩
    exact ⟨⟨spelled, hspells, hvalid, (hnote spelled).symm⟩, mt eraseDups_eq_nil_iff.mp hne⟩

/-- Leading zeros and a plus sign do not matter, and a position is named once. -/
example : positions? 3 "03, +2 2".toList = some [2, 1] := by decide +kernel

/-! ## What is picked -/

/-- Positions of a list of `count` items that a line chooses: those that it names, if they are no
more than may be chosen.  A limit of zero is none. -/
structure Picks (count : Nat) (multi : Bool) (limit : Nat) (line : Text) (found : List Nat) :
    Prop where
  named : Names count line found
  single : multi = false → found.length ≤ 1
  limited : 0 < limit → found.length ≤ limit

/-- **What is picked** is what was named, unless it was too much. -/
theorem pick_eq_ok_iff :
    pick count multi limit line = .ok found ↔ Picks count multi limit line found := by
  rw [pick]
  constructor
  · split
    · exact nofun
    · next named hpositions =>
      split
      · exact nofun
      · next hsingle =>
        split
        · exact nofun
        · next hlimited =>
          rintro ⟨⟩
          refine ⟨positions?_eq_some_iff.mp hpositions, fun hmulti => ?_, fun hlimit => ?_⟩
          · simpa [hmulti] using hsingle
          · exact Nat.not_lt.mp fun hlt => hlimited ⟨hlimit, hlt⟩
  · rintro ⟨hfound, hsingle, hlimited⟩
    rw [positions?_eq_some_iff.mpr hfound]
    dsimp only
    rw [if_neg, if_neg]
    · exact fun h => absurd (hlimited h.1) (Nat.not_le.mpr h.2)
    · rintro h
      obtain ⟨hmulti, hlt⟩ := Bool.and_eq_true_iff.mp h
      exact absurd (hsingle (by simpa using hmulti)) (Nat.not_le.mpr (of_decide_eq_true hlt))

end Prompt
end TerminalDialogs
