import TerminalDialogs.Text

/-!
# Punycode

A label of a domain name is written in plain letters and digits.  The characters
that are such already come first; the others are inserted in the order of their
numbers, and each insertion is written as the distance from the one before, as a
number of variable length whose digits get a bias from the distances so far.
-/

namespace TerminalDialogs
namespace Control
namespace Punycode

/-- The digit for a number below thirty-six. -/
def digit (n : Nat) : Char :=
  if n < 26 then Char.ofNat ('a'.toNat + n) else Char.ofNat ('0'.toNat + (n - 26))

/-- The least and the greatest threshold of a digit. -/
def thresholds : Nat × Nat := (1, 26)

/-- The number of digits. -/
def base : Nat := 36

/-- The threshold of the digit at a position. -/
def threshold (position bias : Nat) : Nat :=
  max thresholds.1 (min thresholds.2 (position - bias))

/-- A distance in digits, from a position on. -/
def distance : (fuel : Nat) → (position bias n : Nat) → Text
  | 0, _, _, _ => []
  | fuel + 1, position, bias, n =>
      let t := threshold position bias
      if n < t then [digit n]
      else
        digit (t + (n - t) % (base - t)) ::
          distance fuel (position + base) bias ((n - t) / (base - t))

/-- The bias for a distance that has been made small. -/
def biasOf : (fuel : Nat) → (delta k : Nat) → Nat
  | 0, _, k => k
  | fuel + 1, delta, k =>
      if 455 < delta then biasOf fuel (delta / (base - 1)) (k + base)
      else k + base * delta / (delta + 38)

/-- The bias after a distance, when so many characters are in place. -/
def adapt (delta count : Nat) (isFirst : Bool) : Nat :=
  let delta := if isFirst then delta / 700 else delta / 2
  biasOf (delta + 1) (delta + delta / count) 0

/-- The state of writing. -/
structure State where
  /-- The characters up to this number are in place. -/
  reached : Nat := 128
  delta : Nat := 0
  bias : Nat := 72
  count : Nat
  output : Text
  isFirst : Bool := true

/-- Puts the characters of one number in place. -/
def State.insert (label : Text) (n : Nat) (s : State) : State :=
  let start : State := { s with delta := s.delta + (n - s.reached) * (s.count + 1), reached := n }
  let placed := label.foldl (fun (s : State) c =>
    if c.toNat < n then { s with delta := s.delta + 1 }
    else if c.toNat = n then
      { s with
        output := s.output ++ distance (s.delta + 1) base s.bias s.delta
        bias := adapt s.delta (s.count + 1) s.isFirst
        delta := 0, count := s.count + 1, isFirst := false }
    else s) start
  { placed with delta := placed.delta + 1, reached := n + 1 }

/-- A label in plain letters and digits. -/
def encode (label : Text) : Text :=
  let basic := label.filter fun c => c.toNat < 128
  let numbers := ((label.filter fun c => 128 ≤ c.toNat).map Char.toNat).eraseDups.mergeSort
  let start : State :=
    { count := basic.length, output := basic ++ if basic.isEmpty then [] else ['-'] }
  (numbers.foldl (fun s n => s.insert label n) start).output

end Punycode
end Control
end TerminalDialogs
