/-!
# Rounding to a fixed number of significant bits

Scores, fractions and sizes are computed in binary with fifty-three significant
bits.  An exact result that does not fit is replaced by the nearest one that
does, and of two equally near ones by the one whose last bit is zero.  All of
it is arithmetic on whole numbers: a number with a binary point is held as a
count of some power of two.
-/

namespace TerminalDialogs
namespace Number

/-- The number of significant bits. -/
def significantBits : Nat := 53

/-- The whole number nearest to a quotient; a tie goes to the even one. -/
def nearestEven (numerator denominator : Nat) : Nat :=
  let q := numerator / denominator
  let r := numerator % denominator
  if 2 * r < denominator then q
  else if denominator < 2 * r then q + 1
  else if q % 2 == 0 then q
  else q + 1

/-- The nearest number with few enough significant bits. -/
def roundSignificant (n : Nat) : Nat :=
  if n < Nat.pow 2 significantBits then n
  else
    let unit := Nat.pow 2 (n.log2 + 1 - significantBits)
    nearestEven n unit * unit

theorem roundSignificant_of_lt {n : Nat} (h : n < Nat.pow 2 significantBits) :
    roundSignificant n = n := by
  unfold roundSignificant
  rw [if_pos h]

/-- The nearest number with few enough significant bits, on both sides of
zero. -/
def roundSigned : Int → Int
  | .ofNat n => Int.ofNat (roundSignificant n)
  | .negSucc n => -Int.ofNat (roundSignificant (n + 1))

/-- A quotient with few enough significant bits: a count of the power of two
with the given negative exponent. -/
structure Quotient where
  count : Nat
  scale : Nat

/-- The nearest quotient with few enough significant bits. -/
def Quotient.ofRatio (numerator denominator : Nat) : Quotient :=
  let scale := significantBits + denominator.log2 + 1
  let exact := numerator * Nat.pow 2 scale / denominator
  let extra := exact.log2 + 1 - significantBits
  ⟨nearestEven (numerator * Nat.pow 2 (scale - extra)) denominator, scale - extra⟩

/-- The nearest whole number to a quotient; a tie goes up. -/
def nearestUp (numerator denominator : Nat) : Nat :=
  (2 * numerator + denominator) / (2 * denominator)

/-- A quotient times a whole number, rounded, as the nearest whole number.  A tie
goes where `nearest` says. -/
def Quotient.scaled (q : Quotient) (nearest : Nat → Nat → Nat) (factor : Nat) : Nat :=
  nearest (roundSignificant (q.count * factor)) (Nat.pow 2 q.scale)

end Number
end TerminalDialogs
