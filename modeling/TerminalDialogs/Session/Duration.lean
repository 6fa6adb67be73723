import TerminalDialogs.Text

/-!
# Durations for people

A duration is written in hours, minutes and seconds, leaving out the larger
units it does not reach; fractions of a second have as many places as needed.
Less than a second is written in milliseconds, and nothing at all as `0s`.
Milliseconds are rounded, a half going up.
-/

namespace TerminalDialogs

/-- A length of time. -/
structure Duration where
  nanoseconds : Nat
  deriving DecidableEq, Repr

namespace Duration

/-- No time. -/
def zero : Duration := ⟨0⟩

/-- The nanoseconds of a millisecond. -/
def perMillisecond : Nat := 1000000

/-- The nearest number of milliseconds. -/
def milliseconds (d : Duration) : Nat := (d.nanoseconds + perMillisecond / 2) / perMillisecond

/-- The places behind the point for some thousandths, at least one of which is
there. -/
def places (thousandths : Nat) : Text :=
  let digit (n : Nat) : Char := Char.ofNat ('0'.toNat + n % 10)
  let digits := [digit (thousandths / 100), digit (thousandths / 10), digit thousandths]
  (digits.reverse.dropWhile (· == '0')).reverse

/-- Seconds, given in milliseconds below a minute. -/
def seconds (ms : Nat) : Text :=
  Text.ofNat (ms / 1000) ++ (if ms % 1000 = 0 then [] else '.' :: places (ms % 1000)) ++ ['s']

/-- Milliseconds as text. -/
def ofMilliseconds (ms : Nat) : Text :=
  let minutes := Text.ofNat (ms / 60000 % 60) ++ ['m']
  if ms = 0 then "0s".toList
  else if ms < 1000 then Text.ofNat ms ++ "ms".toList
  else if ms < 60000 then seconds ms
  else if ms < 3600000 then minutes ++ seconds (ms % 60000)
  else Text.ofNat (ms / 3600000) ++ ['h'] ++ minutes ++ seconds (ms % 60000)

/-- A duration as text. -/
def render (d : Duration) : Text := ofMilliseconds d.milliseconds

end Duration

end TerminalDialogs
