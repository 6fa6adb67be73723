import TerminalDialogs.Control.Url.Punycode
import TerminalDialogs.Text.Case
import TerminalDialogs.Text.Hex
import TerminalDialogs.Text.Range
import TerminalDialogs.Text.Utf8

/-!
# Hosts

A host is a domain name, or a number of one of the two versions of the internet
protocol.  A domain name whose last label is a number is meant as a number.
-/

namespace TerminalDialogs
namespace Control

/-- What is wrong with the address of a resource. -/
inductive UrlProblem where
  | emptyHost
  | badDomain
  | badPortNumber
  | badNumber4
  | badNumber6
  | badCharacter
  | relative
  deriving DecidableEq, Repr

/-- The name of a problem. -/
def UrlProblem.name : UrlProblem → Text
  | .emptyHost => "EmptyHost".toList
  | .badDomain => "IdnaError".toList
  | .badPortNumber => "InvalidPort".toList
  | .badNumber4 => "InvalidIpv4Address".toList
  | .badNumber6 => "InvalidIpv6Address".toList
  | .badCharacter => "InvalidDomainCharacter".toList
  | .relative => "RelativeUrlWithoutBase".toList

/-- What is said about a problem. -/
def UrlProblem.message : UrlProblem → Text
  | .emptyHost => "empty host".toList
  | .badDomain => "invalid international domain name".toList
  | .badPortNumber => "invalid port number".toList
  | .badNumber4 => "invalid IPv4 address".toList
  | .badNumber6 => "invalid IPv6 address".toList
  | .badCharacter => "invalid domain character".toList
  | .relative => "relative URL without a base".toList

/-- A host. -/
inductive Host where
  | domain (name : Text)
  | number4 (n : Nat)
  /-- Eight groups of sixteen bits. -/
  | number6 (groups : List Nat)
  deriving DecidableEq, Repr

namespace Host

/-! ## Numbers of four bytes -/

/-- Whether all characters are digits of a base. -/
def areDigits (base : Nat) (s : Text) : Bool := s.all fun c => (Hex.digit? c).any (· < base)

/-- The value of digits. -/
def value (base : Nat) (s : Text) : Nat :=
  s.foldl (fun n c => base * n + (Hex.digit? c).getD 0) 0

/-- The number that a part is, which may be octal or hexadecimal. -/
def part? (s : Text) : Option Nat :=
  let (base, digits) : Nat × Text :=
    match s with
    | '0' :: 'x' :: rest => (16, rest)
    | '0' :: 'X' :: rest => (16, rest)
    | '0' :: c :: rest => (8, c :: rest)
    | s => (10, s)
  if s.isEmpty || !areDigits base digits then none else some (value base digits)

/-- The parts of a name between dots; a dot at its end means nothing. -/
def parts (s : Text) : List Text :=
  let all := Text.pieces '.' s
  if all.getLast? = some [] && 1 < all.length then all.dropLast else all

/-- Whether the last part of a name is meant as a number. -/
def endsInNumber (s : Text) : Bool :=
  match (parts s).getLast? with
  | some last => (!last.isEmpty && last.all Char.isDigit) || (part? last).isSome
  | none => false

/-- The number that a name is.  Its last part fills all the bytes that the others
leave. -/
def number4? (s : Text) : Option Nat := do
  let numbers ← (parts s).mapM part?
  let last ← numbers.getLast?
  let front := numbers.dropLast
  if 3 < front.length || front.any (255 < ·) || Nat.pow 256 (4 - front.length) ≤ last then none
  else
    let high := front.foldl (fun n p => 256 * n + p) 0
    some (high * Nat.pow 256 (4 - front.length) + last)

/-! ## Numbers of sixteen bytes -/

/-- A group of at most four hexadecimal digits. -/
def group? (s : Text) : Option Nat :=
  if s.isEmpty || 4 < s.length || !areDigits 16 s then none else some (value 16 s)

/-- A byte in decimal digits without zeros in front. -/
def byte? (s : Text) : Option Nat :=
  if s.isEmpty || !s.all Char.isDigit || (1 < s.length && s.head? = some '0') then none
  else if 255 < value 10 s then none
  else some (value 10 s)

/-- The groups between colons.  The last two groups may be written as four
bytes. -/
def groups? (bytesMayEnd : Bool) (s : Text) : Option (List Nat) :=
  if s.isEmpty then some []
  else
    let pieces := Text.pieces ':' s
    match pieces.getLast? with
    | some last =>
        if bytesMayEnd && last.elem '.' then do
          let front ← pieces.dropLast.mapM group?
          match ← (Text.pieces '.' last).mapM byte? with
          | [a, b, c, d] => some (front ++ [256 * a + b, 256 * c + d])
          | _ => none
        else pieces.mapM group?
    | none => none

/-- The text before and after the first double colon. -/
def splitDouble? : Text → Option (Text × Text)
  | ':' :: ':' :: rest => some ([], rest)
  | c :: rest => (splitDouble? rest).map fun cut => (c :: cut.1, cut.2)
  | [] => none

/-- The groups that a text is.  A double colon stands for at least one group of
zeros. -/
def number6? (s : Text) : Option (List Nat) :=
  match splitDouble? s with
  | none => (groups? true s).filter fun groups => groups.length == 8
  | some (front, back) => do
      let front ← groups? false front
      let back ← groups? true back
      if 7 < front.length + back.length then none
      else some (front ++ List.replicate (8 - front.length - back.length) 0 ++ back)

/-- The length of the run of zeros at the beginning. -/
def zeros (groups : List Nat) : Nat := (groups.takeWhile (· == 0)).length

/-- Groups as text, the first of the longest runs of zeros left out. -/
def text6 (groups : List Nat) : Text :=
  let write (gs : List Nat) : Text := Text.join [':'] (gs.map (Nat.toDigits 16))
  let runs := (List.range groups.length).map fun i => (zeros (groups.drop i), i)
  let longest := runs.foldl (fun best r => if best.1 < r.1 then r else best) (1, 0)
  if longest.1 < 2 then write groups
  else
    write (groups.take longest.2) ++ "::".toList ++
      write (groups.drop (longest.2 + longest.1))

/-! ## Domain names -/

/-- The characters that no name holds. -/
def forbidden : Text := " #/:<>?@[\\]^|%".toList

/-- The characters that vanish from a name. -/
def vanishing : List (Nat × Nat) :=
  [(0xAD, 0xAD), (0x34F, 0x34F), (0x180B, 0x180D), (0x180F, 0x180F), (0x200B, 0x200B),
    (0x2060, 0x2060), (0x2064, 0x2064), (0xFE00, 0xFE0F), (0xFEFF, 0xFEFF), (0xE0100, 0xE01EF)]

/-- The characters beyond plain ones that no name holds. -/
def disallowed : List (Nat × Nat) :=
  [(0x80, 0xA0), (0x1680, 0x1680), (0x2000, 0x200A), (0x200C, 0x200F), (0x2028, 0x202F),
    (0x205F, 0x205F), (0x2061, 0x2063), (0x2065, 0x206F), (0x3000, 0x3000), (0xE000, 0xF8FF),
    (0xFFF0, 0xFFFF), (0xE0000, 0xE00FF), (0xF0000, 0x10FFFF)]

/-- A character as it stands in a name. -/
def nameChar (c : Char) : Text :=
  if Text.inRanges vanishing c then []
  else if c = '\u3002' || c = '\uFF0E' || c = '\uFF61' then ['.']
  else if 0xFF01 ≤ c.toNat && c.toNat ≤ 0xFF5E then
    [(Char.ofNat (c.toNat - 0xFEE0)).toLower]
  else [Text.foldChar c]

/-- Whether a character cannot stand in a name. -/
def isRefused (c : Char) : Bool :=
  c.toNat < 0x20 || c.toNat = 0x7F || forbidden.elem c || Text.inRanges disallowed c

/-- A label in plain characters. -/
def label (s : Text) : Text :=
  if s.all fun c => c.toNat < 128 then s else "xn--".toList ++ Punycode.encode s

/-- A name in plain characters. -/
def domain? (s : Text) : Option Text :=
  let mapped := s.flatMap nameChar
  if mapped.any isRefused then none
  else
    let labels := Text.pieces '.' mapped
    if labels.contains "xn--".toList then none else some (Text.join ['.'] (labels.map label))

/-- Bytes in which a percent sign and two digits stand for one byte. -/
def percentDecode : List UInt8 → List UInt8
  | 37 :: a :: b :: rest =>
      match Hex.pair? (Char.ofNat a.toNat) (Char.ofNat b.toNat) with
      | some byte => byte :: percentDecode rest
      | none => 37 :: percentDecode (a :: b :: rest)
  | byte :: rest => byte :: percentDecode rest
  | [] => []

/-! ## Reading and writing -/

/-- A number in brackets. -/
def inBrackets (s : Text) : Except UrlProblem Host :=
  if s.getLast? != some ']' then .error .badNumber6
  else
    match number6? (s.drop 1).dropLast with
    | some groups => .ok (.number6 groups)
    | none => .error .badNumber6

/-- The host that a text is. -/
def read (s : Text) : Except UrlProblem Host :=
  if s.head? = some '[' then inBrackets s
  else
    match domain? (Utf8.decodeLossy (percentDecode (Utf8.encode s))) with
    | none => .error .badDomain
    | some [] => .error .emptyHost
    | some name =>
        if endsInNumber name then
          match number4? name with
          | some n => .ok (.number4 n)
          | none => .error .badNumber4
        else .ok (.domain name)

/-- A host as text. -/
def text : Host → Text
  | .domain name => name
  | .number4 n =>
      Text.join ['.'] ([Nat.pow 256 3, Nat.pow 256 2, 256, 1].map fun unit =>
        Text.ofNat (n / unit % 256))
  | .number6 groups => ['['] ++ text6 groups ++ [']']

end Host

end Control
end TerminalDialogs
