import Mathlib.Algebra.Order.Round
import Mathlib.Data.List.DropRight
import Mathlib.Data.Rat.Floor
import Mathlib.Tactic.FieldSimp
import Mathlib.Tactic.NormNum
import Mathlib.Tactic.Ring
import TerminalDialogs.Session.Duration

/-!
# Durations that are read back

A duration is written for people, but all that is lost is what rounding takes away.  The
text is read back here by a reader that knows only how such texts look: a whole number of
milliseconds, or hours, minutes and seconds, of which the first two may be missing and the
last may have a fraction (`read?`).  What the parts amount to is a fraction of their own
(`Reading.inSeconds`), so nothing is said about places that stand for thousandths.

The parts follow each other without a separator, and a minute and a millisecond begin with
the same letter.  What keeps them apart is that every number is followed by its unit or by
a point (`number?_ofNat`), and that seconds begin with a digit, so the `m` of minutes never
stands in front of a lone `s`.  Zeros at the end of a fraction do not count
(`decimal_rdropWhile`), which is why they can be left out.
-/

namespace TerminalDialogs
namespace Duration

/-! ## A reader of durations -/

/-- What the text of a duration says, part by part. -/
inductive Reading where
  /-- A whole number of milliseconds. -/
  | milliseconds (count : Nat)
  /-- Hours and minutes, where they are given, seconds, and the digits behind the point. -/
  | clock (hours minutes : Option Nat) (seconds : Nat) (fraction : Text)
  deriving DecidableEq, Repr

/-- The number in front of a text, and what follows its digits. -/
def number? (s : Text) : Option (Nat × Text) :=
  let digits := s.takeWhile Char.isDigit
  if digits = [] then none
  else some (Nat.ofDigitChars 10 digits 0, s.dropWhile Char.isDigit)

/-- A part that may be missing: a number with its unit, and what follows it. -/
def part (unit : Char) (s : Text) : Option Nat × Text :=
  match number? s with
  | some (n, c :: rest) => if c = unit then (some n, rest) else (none, s)
  | _ => (none, s)

/-- The digits behind the point of seconds, if nothing follows but their unit. -/
def fraction? : Text → Option Text
  | ['s'] => some []
  | '.' :: s =>
      let digits := s.takeWhile Char.isDigit
      if digits ≠ [] ∧ s.dropWhile Char.isDigit = ['s'] then some digits else none
  | _ => none

/-- Hours, minutes and seconds. -/
def clock? (s : Text) : Option Reading :=
  let hours := part 'h' s
  let minutes := part 'm' hours.2
  (number? minutes.2).bind fun seconds =>
    (fraction? seconds.2).map (.clock hours.1 minutes.1 seconds.1)

/-- The parts of a duration. -/
def read? (s : Text) : Option Reading :=
  match number? s with
  | some (n, rest) => if rest = ['m', 's'] then some (.milliseconds n) else clock? s
  | none => none

/-- What digits behind a point stand for. -/
def decimal (fraction : Text) : ℚ := Nat.ofDigitChars 10 fraction 0 / 10 ^ fraction.length

/-- The seconds that the parts amount to. -/
def Reading.inSeconds : Reading → ℚ
  | .milliseconds count => count / 1000
  | .clock hours minutes seconds fraction =>
      hours.getD 0 * 3600 + minutes.getD 0 * 60 + seconds + decimal fraction

/-- No part reaches the next larger unit where this is written, and no fraction ends in a
zero.  Hours are followed by minutes. -/
def Reading.IsTidy : Reading → Prop
  | .milliseconds count => count < 1000
  | .clock hours minutes seconds fraction =>
      (hours.isSome → ∃ m ∈ minutes, m < 60) ∧ (hours.isSome ∨ minutes.isSome → seconds < 60) ∧
        fraction.getLast? ≠ some '0'

/-! ## Numbers -/

variable {c unit : Char} {s : Text}

/-- Digits end where something else follows. -/
theorem takeWhile_isDigit {digits : Text} (h : ∀ d ∈ digits, d.isDigit = true)
    (hc : c.isDigit = false) (s : Text) :
    (digits ++ c :: s).takeWhile Char.isDigit = digits ∧
      (digits ++ c :: s).dropWhile Char.isDigit = c :: s := by
  have hc' : ¬ c.isDigit = true := Bool.eq_false_iff.mp hc
  constructor
  · rw [List.takeWhile_append_of_pos h, List.takeWhile_cons_of_neg hc', List.append_nil]
  · rw [List.dropWhile_append_of_pos h, List.dropWhile_cons_of_neg hc']

theorem number?_ofNat (n : Nat) (hc : c.isDigit = false) (s : Text) :
    number? (Text.ofNat n ++ c :: s) = some (n, c :: s) := by
  obtain ⟨htake, hdrop⟩ := takeWhile_isDigit (fun _ => Text.isDigit_of_mem_ofNat) hc s
  have hvalue : Nat.ofDigitChars 10 (Text.ofNat n) 0 = n := Nat.ofDigitChars_ten_toDigits
  have hne : Text.ofNat n ≠ [] := Nat.toDigits_ne_nil
  rw [number?, htake, hdrop, hvalue]
  exact if_neg hne

theorem part_ofNat (n : Nat) (h : unit.isDigit = false) (s : Text) :
    part unit (Text.ofNat n ++ unit :: s) = (some n, s) := by
  rw [part, number?_ofNat n h]
  exact if_pos rfl

/-- A part is missing where the number in front has another unit. -/
theorem part_of_ne (n : Nat) (hc : c.isDigit = false) (h : c ≠ unit) (s : Text) :
    part unit (Text.ofNat n ++ c :: s) = (none, Text.ofNat n ++ c :: s) := by
  rw [part, number?_ofNat n hc]
  exact if_neg h

/-! ## Fractions -/

/-- A digit of a number. -/
def digit (n : Nat) : Char := Char.ofNat ('0'.toNat + n % 10)

/-- Thousandths in three places. -/
def threePlaces (thousandths : Nat) : Text :=
  [digit (thousandths / 100), digit (thousandths / 10), digit thousandths]

theorem places_eq (thousandths : Nat) :
    places thousandths = (threePlaces thousandths).rdropWhile (· == '0') := rfl

theorem digit_spec (n : Nat) : (digit n).isDigit = true ∧ (digit n).toNat = '0'.toNat + n % 10 := by
  have hten : ∀ k < 10, (Char.ofNat ('0'.toNat + k)).isDigit = true ∧
      (Char.ofNat ('0'.toNat + k)).toNat = '0'.toNat + k := by decide
  exact hten (n % 10) (Nat.mod_lt n (by decide))

theorem ofDigitChars_threePlaces {t : Nat} (h : t < 1000) :
    Nat.ofDigitChars 10 (threePlaces t) 0 = t := by
  simp only [threePlaces, Nat.ofDigitChars_cons, Nat.ofDigitChars_nil, (digit_spec _).2]
  omega

theorem decimal_nil : decimal [] = 0 := by
  rw [decimal, Nat.ofDigitChars_nil, Nat.cast_zero, zero_div]

theorem decimal_concat_zero (s : Text) : decimal (s ++ ['0']) = decimal s := by
  have hvalue : Nat.ofDigitChars 10 (s ++ ['0']) 0 = 10 * Nat.ofDigitChars 10 s 0 := by
    rw [Nat.ofDigitChars_append, Nat.ofDigitChars_cons, Nat.ofDigitChars_nil]
    rfl
  rw [decimal, decimal, hvalue, List.length_append, List.length_singleton, pow_succ]
  push_cast
  field_simp

/-- Zeros at the end of a fraction do not count. -/
theorem decimal_rdropWhile (s : Text) : decimal (s.rdropWhile (· == '0')) = decimal s := by
  induction s using List.reverseRecOn with
  | nil => rfl
  | append_singleton s c ih =>
    by_cases hc : c = '0'
    · rw [hc, List.rdropWhile_concat_pos (· == '0') s '0' rfl, ih, decimal_concat_zero]
    · rw [List.rdropWhile_concat_neg (· == '0') s c (by simpa using hc)]

theorem decimal_places {t : Nat} (h : t < 1000) : decimal (places t) = t / 1000 := by
  rw [places_eq, decimal_rdropWhile, decimal, ofDigitChars_threePlaces h]
  norm_num [threePlaces]

theorem isDigit_of_mem_places {t : Nat} (h : c ∈ places t) : c.isDigit = true := by
  have hmem : c ∈ threePlaces t := (List.rdropWhile_prefix (· == '0') (threePlaces t)).mem h
  simp only [threePlaces, List.mem_cons, List.not_mem_nil, or_false] at hmem
  rcases hmem with rfl | rfl | rfl
  · exact (digit_spec _).1
  · exact (digit_spec _).1
  · exact (digit_spec _).1

/-- A fraction that is not zero has a place. -/
theorem places_ne_nil {t : Nat} (hpos : 0 < t) (h : t < 1000) : places t ≠ [] := by
  intro hnil
  have hvalue : (t : ℚ) / 1000 = 0 := by rw [← decimal_places h, hnil, decimal_nil]
  rw [div_eq_zero_iff, Nat.cast_eq_zero] at hvalue
  rcases hvalue with hzero | hzero
  · omega
  · norm_num at hzero

theorem getLast?_places_ne (t : Nat) : (places t).getLast? ≠ some '0' := by
  intro hlast
  have hne : places t ≠ [] := List.ne_nil_of_mem (List.mem_of_getLast? hlast)
  rw [List.getLast?_eq_some_getLast hne, Option.some.injEq] at hlast
  exact List.rdropWhile_last_not (· == '0') (threePlaces t) hne (beq_iff_eq.mpr hlast)

/-- The places of a number of milliseconds behind the point. -/
def fraction (ms : Nat) : Text := if ms % 1000 = 0 then [] else places (ms % 1000)

theorem decimal_fraction (ms : Nat) : decimal (fraction ms) = (ms % 1000 : Nat) / 1000 := by
  rw [fraction]
  split
  · next h => rw [h, decimal_nil, Nat.cast_zero, zero_div]
  · exact decimal_places (Nat.mod_lt ms (by decide))

theorem getLast?_fraction_ne (ms : Nat) : (fraction ms).getLast? ≠ some '0' := by
  rw [fraction]
  split
  · exact nofun
  · exact getLast?_places_ne _

/-! ## What is written -/

/-- Seconds are a number that neither of the larger units follows. -/
theorem seconds_eq (ms : Nat) : ∃ c s, seconds ms = Text.ofNat (ms / 1000) ++ c :: s ∧
    c.isDigit = false ∧ c ≠ 'h' ∧ c ≠ 'm' ∧ fraction? (c :: s) = some (fraction ms) := by
  by_cases h : ms % 1000 = 0
  · refine ⟨'s', [], ?_, by decide, by decide, by decide, ?_⟩
    · rw [seconds, if_pos h, List.append_nil]
    · rw [fraction, if_pos h]
      rfl
  · refine ⟨'.', places (ms % 1000) ++ ['s'], ?_, by decide, by decide, by decide, ?_⟩
    · rw [seconds, if_neg h, List.append_assoc]
      rfl
    · have hne : places (ms % 1000) ≠ [] :=
        places_ne_nil (Nat.pos_of_ne_zero h) (Nat.mod_lt ms (by decide))
      obtain ⟨htake, hdrop⟩ :=
        takeWhile_isDigit (c := 's') (fun _ => isDigit_of_mem_places) (by decide) []
      rw [fraction, if_neg h, fraction?, htake, hdrop]
      exact if_pos ⟨hne, rfl⟩

theorem clock?_seconds (ms : Nat) :
    clock? (seconds ms) = some (.clock none none (ms / 1000) (fraction ms)) := by
  obtain ⟨c, s, hseconds, hc, hh, hm, hfraction⟩ := seconds_eq ms
  rw [clock?, hseconds, part_of_ne _ hc hh, part_of_ne _ hc hm, number?_ofNat _ hc,
    Option.bind_some, hfraction]
  rfl

theorem clock?_minutes (m ms : Nat) : clock? (Text.ofNat m ++ 'm' :: seconds ms) =
    some (.clock none (some m) (ms / 1000) (fraction ms)) := by
  obtain ⟨c, s, hseconds, hc, -, -, hfraction⟩ := seconds_eq ms
  rw [clock?, part_of_ne _ (by decide) (by decide), part_ofNat _ (by decide), hseconds,
    number?_ofNat _ hc, Option.bind_some, hfraction]
  rfl

theorem clock?_hours (h m ms : Nat) :
    clock? (Text.ofNat h ++ 'h' :: (Text.ofNat m ++ 'm' :: seconds ms)) =
      some (.clock (some h) (some m) (ms / 1000) (fraction ms)) := by
  obtain ⟨c, s, hseconds, hc, -, -, hfraction⟩ := seconds_eq ms
  rw [clock?, part_ofNat _ (by decide), part_ofNat _ (by decide), hseconds,
    number?_ofNat _ hc, Option.bind_some, hfraction]
  rfl

/-- A number that is not followed by the unit of milliseconds is the first part of more. -/
theorem read?_of_ne (n : Nat) (hc : c.isDigit = false) (h : c :: s ≠ ['m', 's']) :
    read? (Text.ofNat n ++ c :: s) = clock? (Text.ofNat n ++ c :: s) := by
  rw [read?, number?_ofNat n hc]
  exact if_neg h

theorem read?_milliseconds (n : Nat) :
    read? (Text.ofNat n ++ "ms".toList) = some (.milliseconds n) := by
  have hnumber : number? (Text.ofNat n ++ "ms".toList) = some (n, ['m', 's']) :=
    number?_ofNat n (by decide) ['s']
  rw [read?, hnumber]
  exact if_pos rfl

theorem read?_seconds (ms : Nat) :
    read? (seconds ms) = some (.clock none none (ms / 1000) (fraction ms)) := by
  rw [← clock?_seconds]
  obtain ⟨c, s, hseconds, hc, -, hm, -⟩ := seconds_eq ms
  rw [hseconds]
  exact read?_of_ne _ hc fun h => hm (List.cons.inj h).1

/-- Seconds begin with a digit, so minutes in front of them are no milliseconds. -/
theorem read?_minutes (m ms : Nat) : read? (Text.ofNat m ++ 'm' :: seconds ms) =
    some (.clock none (some m) (ms / 1000) (fraction ms)) := by
  rw [← clock?_minutes]
  refine read?_of_ne m (by decide) fun h => ?_
  obtain ⟨c, s, hseconds, -⟩ := seconds_eq ms
  obtain ⟨d, digits, hdigits⟩ : ∃ d digits, Text.ofNat (ms / 1000) = d :: digits :=
    List.exists_cons_of_ne_nil Nat.toDigits_ne_nil
  rw [hseconds, hdigits] at h
  exact absurd (congrArg List.length h) (by simp)

theorem read?_hours (h m ms : Nat) :
    read? (Text.ofNat h ++ 'h' :: (Text.ofNat m ++ 'm' :: seconds ms)) =
      some (.clock (some h) (some m) (ms / 1000) (fraction ms)) := by
  rw [← clock?_hours]
  exact read?_of_ne h (by decide) fun h => absurd (List.cons.inj h).1 (by decide)

/-! ## Reading back -/

/-- Larger units, seconds and the places behind the point make up the milliseconds. -/
theorem clock_inSeconds {hours minutes : Option Nat} {ms rest : Nat}
    (h : ms = hours.getD 0 * 3600000 + minutes.getD 0 * 60000 + rest) :
    (Reading.clock hours minutes (rest / 1000) (fraction rest)).inSeconds = (ms : ℚ) / 1000 := by
  have hms : (ms : ℚ) = hours.getD 0 * 3600000 + minutes.getD 0 * 60000 + rest := by
    exact_mod_cast h
  have hrest : (rest : ℚ) = 1000 * (rest / 1000 : Nat) + (rest % 1000 : Nat) := by
    exact_mod_cast (Nat.div_add_mod rest 1000).symm
  rw [Reading.inSeconds, decimal_fraction]
  linarith

/-- The text is read as so many milliseconds, in tidy parts. -/
def Tells (s : Text) (ms : Nat) : Prop :=
  ∃ r, read? s = some r ∧ r.inSeconds = (ms : ℚ) / 1000 ∧ r.IsTidy

theorem tells_milliseconds {ms : Nat} (h : ms < 1000) : Tells (Text.ofNat ms ++ "ms".toList) ms :=
  ⟨_, read?_milliseconds ms, rfl, h⟩

theorem tells_seconds (ms : Nat) : Tells (seconds ms) ms := by
  have hparts : ms = (none : Option Nat).getD 0 * 3600000 +
      (none : Option Nat).getD 0 * 60000 + ms := by simp
  exact ⟨_, read?_seconds ms, clock_inSeconds hparts, nofun, fun h => h.elim nofun nofun,
    getLast?_fraction_ne ms⟩

theorem tells_minutes (m : Nat) {rest : Nat} (h : rest < 60000) :
    Tells (Text.ofNat m ++ 'm' :: seconds rest) (m * 60000 + rest) := by
  have hparts : m * 60000 + rest = (none : Option Nat).getD 0 * 3600000 +
      (some m).getD 0 * 60000 + rest := by simp
  have hbelow : rest / 1000 < 60 := by omega
  exact ⟨_, read?_minutes m rest, clock_inSeconds hparts, nofun, fun _ => hbelow,
    getLast?_fraction_ne rest⟩

theorem tells_hours (h : Nat) {m rest : Nat} (hm : m < 60) (hrest : rest < 60000) :
    Tells (Text.ofNat h ++ 'h' :: (Text.ofNat m ++ 'm' :: seconds rest))
      (h * 3600000 + m * 60000 + rest) := by
  have hparts : h * 3600000 + m * 60000 + rest = (some h).getD 0 * 3600000 +
      (some m).getD 0 * 60000 + rest := rfl
  have hbelow : rest / 1000 < 60 := by omega
  exact ⟨_, read?_hours h m rest, clock_inSeconds hparts, fun _ => ⟨m, rfl, hm⟩,
    fun _ => hbelow, getLast?_fraction_ne rest⟩

/-- **What is written for some milliseconds tells them.** -/
theorem tells_ofMilliseconds (ms : Nat) : Tells (ofMilliseconds ms) ms := by
  have hbelow : ms % 60000 < 60000 := Nat.mod_lt ms (by decide)
  have happend (n : Nat) (unit : Char) (s : Text) :
      Text.ofNat n ++ [unit] ++ s = Text.ofNat n ++ unit :: s := List.append_assoc _ _ _
  rw [ofMilliseconds]
  split
  · next hzero =>
    rw [hzero]
    exact tells_seconds 0
  split
  · next hsecond => exact tells_milliseconds hsecond
  split
  · exact tells_seconds ms
  split
  · next hhour =>
    have htells := tells_minutes (ms / 60000 % 60) hbelow
    have hparts : ms / 60000 % 60 * 60000 + ms % 60000 = ms := by omega
    rwa [hparts, ← happend] at htells
  · have htells := tells_hours (ms / 3600000) (Nat.mod_lt (ms / 60000) (by decide)) hbelow
    have hparts : ms / 3600000 * 3600000 + ms / 60000 % 60 * 60000 + ms % 60000 = ms := by omega
    rw [hparts] at htells
    rwa [List.append_assoc, happend (ms / 60000 % 60), happend (ms / 3600000)]

/-- Milliseconds are the nearest ones, and of two equally near ones the later. -/
theorem round_nanoseconds (d : Duration) :
    round ((d.nanoseconds : ℚ) / 1000000) = d.milliseconds := by
  have hms : d.milliseconds = (d.nanoseconds + 500000) / 1000000 := rfl
  have hlower : d.milliseconds * 1000000 ≤ d.nanoseconds + 500000 := by omega
  have hupper : d.nanoseconds + 500000 < (d.milliseconds + 1) * 1000000 := by omega
  have hlower' : (d.milliseconds : ℚ) * 1000000 ≤ d.nanoseconds + 500000 := by
    exact_mod_cast hlower
  have hupper' : (d.nanoseconds : ℚ) + 500000 < (d.milliseconds + 1) * 1000000 := by
    exact_mod_cast hupper
  rw [round_eq_iff, Set.mem_Ico, le_div_iff₀ (by norm_num), div_lt_iff₀ (by norm_num)]
  constructor
  · push_cast
    linarith
  · push_cast
    linarith

/-- **A duration is read back from its text up to rounding.**  Whatever its length, the text
is one that the reader takes apart; its parts amount to exactly the duration rounded to
milliseconds, a half up, and they are tidy.  So two durations look alike only if they are
rounded to the same millisecond. -/
theorem render_reads_back (d : Duration) :
    (∃ r, read? d.render = some r ∧
      r.inSeconds = (round ((d.nanoseconds : ℚ) / 1000000) : ℚ) / 1000 ∧ r.IsTidy) ∧
    ∀ e : Duration, d.render = e.render ↔
      round ((d.nanoseconds : ℚ) / 1000000) = round ((e.nanoseconds : ℚ) / 1000000) := by
  constructor
  · obtain ⟨r, hread, hvalue, htidy⟩ := tells_ofMilliseconds d.milliseconds
    refine ⟨r, hread, ?_, htidy⟩
    rw [round_nanoseconds, hvalue, Int.cast_natCast]
  · intro e
    rw [round_nanoseconds, round_nanoseconds, Nat.cast_inj]
    constructor
    · intro htext
      obtain ⟨r, hread, hvalue, -⟩ := tells_ofMilliseconds d.milliseconds
      obtain ⟨r', hread', hvalue', -⟩ := tells_ofMilliseconds e.milliseconds
      have hsame : read? (ofMilliseconds d.milliseconds) = read? (ofMilliseconds e.milliseconds) :=
        congrArg read? htext
      rw [hread, hread', Option.some.injEq] at hsame
      rw [hsame, hvalue', div_left_inj' (by norm_num), Nat.cast_inj] at hvalue
      exact hvalue.symm
    · intro hms
      rw [render, render, hms]

/-- Half a millisecond below a minute is a minute. -/
example : render ⟨59999500000⟩ = "1m0s".toList := by decide

end Duration
end TerminalDialogs
