import TerminalDialogs.Text

/-!
# Bytes in hexadecimal digits

A byte is written as two hexadecimal digits, in small letters; when it is read,
the case of the letters does not matter.
-/

namespace TerminalDialogs
namespace Hex

/-- The value of a hexadecimal digit. -/
def digit? (c : Char) : Option Nat :=
  if '0' ≤ c && c ≤ '9' then some (c.toNat - '0'.toNat)
  else if 'a' ≤ c && c ≤ 'f' then some (c.toNat - 'a'.toNat + 10)
  else if 'A' ≤ c && c ≤ 'F' then some (c.toNat - 'A'.toNat + 10)
  else none

/-- The digit of a number below sixteen. -/
def digit (n : Nat) : Char :=
  if n < 10 then Char.ofNat ('0'.toNat + n) else Char.ofNat ('a'.toNat + n - 10)

/-- The byte that two digits give. -/
def pair? (a b : Char) : Option UInt8 := do
  let high ← digit? a
  let low ← digit? b
  pure (UInt8.ofNat (16 * high + low))

/-- Bytes as digits. -/
def encode (bytes : List UInt8) : Text :=
  bytes.flatMap fun b => [digit (b.toNat / 16), digit (b.toNat % 16)]

/-- The bytes that digits give, two for each; `none` if one is no digit or is
left over. -/
def decode? : Text → Option (List UInt8)
  | [] => some []
  | [_] => none
  | a :: b :: rest => do
      let byte ← pair? a b
      pure (byte :: (← decode? rest))

end Hex

end TerminalDialogs
