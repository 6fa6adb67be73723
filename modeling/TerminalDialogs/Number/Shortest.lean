import TerminalDialogs.Text

/-!
# The shortest decimal that reads back

A binary floating-point number is written with the fewest decimal digits that
read back as the same number, and of those with the nearest ones.

A finite number is `m · 2 ^ q` with whole `m`.  The reals that are rounded to it
form an interval around it, whose ends belong to it exactly when `m` is even.
All of this is exact arithmetic on natural numbers: value and ends are brought
to a common denominator, and for one digit, two digits, and so on the two
neighbours of the value on the decimal grid with so many digits are tried.
Seventeen digits are always enough.
-/

namespace TerminalDialogs
namespace Number

/-- A positive number together with the ends of its rounding interval, all
over one denominator. -/
structure Rounded where
  value : Nat
  low : Nat
  high : Nat
  denominator : Nat
  /-- Whether the ends themselves are rounded to the number. -/
  closed : Bool

/-- The number `m · 2 ^ q`.  The gap below a power of two is half as wide. -/
def Rounded.ofBinary (m : Nat) (q : Int) (narrowBelow : Bool) : Rounded :=
  let scale := Nat.pow 2 (q - 2).toNat
  { value := 4 * m * scale
    low := (4 * m - (if narrowBelow then 1 else 2)) * scale
    high := (4 * m + 2) * scale
    denominator := Nat.pow 2 (2 - q).toNat
    closed := m % 2 == 0 }

/-- The exponent of the power of ten in `[1, 10)` times which the value lies. -/
def Rounded.magnitude (r : Rounded) : Int :=
  if r.denominator ≤ r.value then
    Int.ofNat (Nat.toDigits 10 (r.value / r.denominator)).length - 1
  else
    let inverse := (r.denominator + r.value - 1) / r.value
    Int.negOfNat (Nat.toDigits 10 (inverse - 1)).length

/-- Whether `digits · 10 ^ k` is rounded to the number. -/
def Rounded.accepts (r : Rounded) (digits : Nat) (k : Int) : Bool :=
  let x := digits * Nat.pow 10 k.toNat * r.denominator
  let unit := Nat.pow 10 (-k).toNat
  if r.closed then r.low * unit ≤ x && x ≤ r.high * unit
  else r.low * unit < x && x < r.high * unit

/-- The better of the two neighbours on the grid of multiples of `10 ^ k`. -/
def Rounded.onGrid? (r : Rounded) (k : Int) : Option (Nat × Int) :=
  let step := Nat.pow 10 k.toNat * r.denominator
  let value := r.value * Nat.pow 10 (-k).toNat
  let below := value / step
  let belowError := value - below * step
  let aboveError := (below + 1) * step - value
  let nearer :=
    if belowError < aboveError then [below, below + 1]
    else if aboveError < belowError then [below + 1, below]
    else if below % 2 == 0 then [below, below + 1]
    else [below + 1, below]
  (nearer.find? fun digits => r.accepts digits k).map fun digits => (digits, k)

/-- Digits and exponent of the shortest decimal. -/
def Rounded.shortest (r : Rounded) : Nat × Int :=
  let tries := (List.range 17).map fun (n : Nat) => r.magnitude - Int.ofNat n
  (tries.findSome? r.onGrid?).getD (0, 0)

/-- The sign of a finite number, and digits and exponent of its magnitude. -/
def shortest (x : Float) : Bool × Nat × Int :=
  let bits := x.toBits.toNat
  let negative := bits / Nat.pow 2 63 == 1
  let exponent := bits / Nat.pow 2 52 % 2048
  let fraction := bits % Nat.pow 2 52
  if exponent == 0 && fraction == 0 then (negative, 0, 0)
  else
    let r :=
      if exponent == 0 then Rounded.ofBinary fraction (-1074) false
      else
        Rounded.ofBinary (Nat.pow 2 52 + fraction) (Int.ofNat exponent - 1075)
          (fraction == 0 && exponent != 1)
    (negative, r.shortest)

/-- How many digits may stand in front of the point, and how many zeros behind
it, before a number is written with an exponent. -/
structure PlainRange where
  /-- The least exponent of a number that is written without an exponent. -/
  least : Int
  /-- The greatest exponent of a number that is written without an exponent. -/
  greatest : Int

/-- Numbers from `1e-5` up to, but not including, `1e16` are written without an
exponent. -/
def plainRange : PlainRange := ⟨-5, 15⟩

/-- Digits without zeros at the end, with the exponent that makes up for them. -/
def trimZeros (digits : Text) (k : Int) : Text × Int :=
  let zeros := (digits.reverse.takeWhile (· == '0')).length
  (digits.take (digits.length - zeros), k + Int.ofNat zeros)

/-- The text of a finite number: a point is always written, with a digit on
each side, unless there is an exponent. -/
def renderShortest (x : Float) : Text :=
  let (negative, digits, k) := shortest x
  let sign : Text := if negative then ['-'] else []
  if digits == 0 then sign ++ "0.0".toList
  else
    let (ds, k) := trimZeros (Text.ofNat digits) k
    let exponent := Int.ofNat ds.length - 1 + k
    if plainRange.least ≤ exponent && exponent ≤ plainRange.greatest then
      if 0 ≤ k then sign ++ ds ++ List.replicate k.toNat '0' ++ ".0".toList
      else if 0 ≤ exponent then
        let front := (exponent + 1).toNat
        sign ++ ds.take front ++ ['.'] ++ ds.drop front
      else
        sign ++ "0.".toList ++ List.replicate (-exponent - 1).toNat '0' ++ ds
    else
      let mantissa :=
        match ds with
        | [d] => [d]
        | d :: rest => d :: '.' :: rest
        | [] => []
      let mark : Text := if exponent < 0 then ['e', '-'] else ['e', '+']
      sign ++ mantissa ++ mark ++ Text.ofNat exponent.natAbs

end Number
end TerminalDialogs
