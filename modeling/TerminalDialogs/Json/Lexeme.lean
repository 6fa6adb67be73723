import TerminalDialogs.Json.Basic
import TerminalDialogs.Text.Utf8

/-!
# The lexemes of a JSON text

A JSON text is cut into punctuation, strings, numbers and the three literal
words.  Each lexeme knows where it starts and where it ends, because a fault is
reported with the line and the column where reading stopped; columns count
bytes.

A fault inside a lexeme does not stop the cutting by itself, since a reader that
expects something else there complains about that first.  Some faults are faults
only for a reader that wants the value: one that skips it does not mind numbers
that are too large or escapes that stand for no character.  So a string or a
number carries what a reader that wants it finds, and only a lexeme that cannot
be skipped either is `broken`.
-/

namespace TerminalDialogs
namespace Json

/-- What can be wrong with a JSON text. -/
inductive Fault where
  | endInValue
  | endInObject
  | endInArray
  | endInString
  | expectedColon
  | expectedCommaInArray
  | expectedCommaInObject
  | expectedIdent
  | expectedValue
  | invalidEscape
  | invalidNumber
  | numberOutOfRange
  | controlCharacter
  | keyNotString
  | loneSurrogate
  | endOfHexEscape
  | trailingComma
  | trailingCharacters
  | tooDeep
  deriving DecidableEq, Repr

/-- What is said about a fault. -/
def Fault.message : Fault → Text
  | .endInValue => "EOF while parsing a value".toList
  | .endInObject => "EOF while parsing an object".toList
  | .endInArray => "EOF while parsing a list".toList
  | .endInString => "EOF while parsing a string".toList
  | .expectedColon => "expected `:`".toList
  | .expectedCommaInArray => "expected `,` or `]`".toList
  | .expectedCommaInObject => "expected `,` or `\x7d`".toList
  | .expectedIdent => "expected ident".toList
  | .expectedValue => "expected value".toList
  | .invalidEscape => "invalid escape".toList
  | .invalidNumber => "invalid number".toList
  | .numberOutOfRange => "number out of range".toList
  | .controlCharacter =>
      "control character (\\u0000-\\u001F) found while parsing a string".toList
  | .keyNotString => "key must be a string".toList
  | .loneSurrogate => "lone leading surrogate in hex escape".toList
  | .endOfHexEscape => "unexpected end of hex escape".toList
  | .trailingComma => "trailing comma".toList
  | .trailingCharacters => "trailing characters".toList
  | .tooDeep => "recursion limit exceeded".toList

/-- A place in a text: a line, counted from one, and the number of bytes read
on that line. -/
structure Position where
  line : Nat := 1
  column : Nat := 0
  deriving DecidableEq, Repr

/-- The place after one more character. -/
def Position.advance (p : Position) (c : Char) : Position :=
  if c = '\n' then ⟨p.line + 1, 0⟩ else ⟨p.line, p.column + c.utf8Size⟩

/-- The place after more characters. -/
def Position.advanceAll (p : Position) (s : Text) : Position := s.foldl Position.advance p

/-- The place after some more bytes, which may end inside a character. -/
def Position.advanceBytes (p : Position) : (bytes : Nat) → Text → Position
  | 0, _ => p
  | _, [] => p
  | bytes, c :: rest =>
      if c.utf8Size ≤ bytes then (p.advance c).advanceBytes (bytes - c.utf8Size) rest
      else ⟨p.line, p.column + bytes⟩
termination_by _ s => s.length

/-- A fault and the place where it is reported. -/
structure PlacedFault where
  fault : Fault
  place : Position
  deriving DecidableEq, Repr

/-- What a lexeme is. -/
inductive Lexeme where
  | openArray
  | closeArray
  | openObject
  | closeObject
  | colon
  | comma
  /-- A string, or what is wrong with it when it is wanted. -/
  | string (s : Except PlacedFault Text)
  /-- A number or a literal word, or what is wrong with it when it is wanted. -/
  | atom (value : Except PlacedFault Json)
  /-- A lexeme with a fault in it, for a reader that wants it and for one that
  skips it. -/
  | broken (isString : Bool) (wanted skipped : PlacedFault)
  /-- A character that starts no lexeme. -/
  | stray

/-- A lexeme in its place. -/
structure Placed where
  lexeme : Lexeme
  /-- Where it starts. -/
  start : Position
  /-- Where it ends. -/
  stop : Position

/-- What is wrong inside a lexeme, and how far behind its first character that is
reported: so many characters, and then so many bytes. -/
structure Trouble where
  fault : Fault
  used : Nat
  bytes : Nat := 0
  deriving DecidableEq, Repr

/-- The outcome of reading one lexeme: what a reader finds that wants it, and how
many characters a reader uses up that skips it. -/
structure Reading (α : Type) where
  wanted : Except Trouble α
  skipped : Except Trouble Nat

/-- Whether a character separates lexemes. -/
def isBlank (c : Char) : Bool := c == ' ' || c == '\n' || c == '\t' || c == '\r'

/-- Whether a character is a decimal digit. -/
def isDigit (c : Char) : Bool := '0' ≤ c && c ≤ '9'

/-- The value of decimal digits, going on from `start`. -/
def digitsValue (start : Nat) (digits : Text) : Nat :=
  digits.foldl (fun n c => 10 * n + (c.toNat - '0'.toNat)) start

/-- Reads the characters of a literal word after its first one. -/
def readWord (value : Json) : (expected : Text) → Text → Nat → Reading Json
  | [], _, used => ⟨.ok value, .ok used⟩
  | _ :: _, [], used => ⟨.error ⟨.endInValue, used, 0⟩, .error ⟨.endInValue, used, 0⟩⟩
  | e :: expected, c :: rest, used =>
      if c = e then readWord value expected rest (used + 1)
      else ⟨.error ⟨.expectedIdent, used, 1⟩, .error ⟨.expectedIdent, used, 1⟩⟩

/-! ## Strings -/

/-- The value of four hexadecimal digits. -/
def hexQuad? (a b c d : Char) : Option Nat := do
  let digit (x : Char) : Option Nat :=
    if '0' ≤ x && x ≤ '9' then some (x.toNat - '0'.toNat)
    else if 'a' ≤ x && x ≤ 'f' then some (x.toNat - 'a'.toNat + 10)
    else if 'A' ≤ x && x ≤ 'F' then some (x.toNat - 'A'.toNat + 10)
    else none
  pure ((((← digit a) * 16 + (← digit b)) * 16 + (← digit c)) * 16 + (← digit d))

/-- The character that a short escape stands for. -/
def shortEscape? : Char → Option Char
  | '"' => some '"'
  | '\\' => some '\\'
  | '/' => some '/'
  | 'b' => some '\x08'
  | 'f' => some '\x0c'
  | 'n' => some '\n'
  | 'r' => some '\r'
  | 't' => some '\t'
  | _ => none

/-- What is wrong with an escape whose four digits cannot be read: four bytes are
taken for them, unless the text ends before. -/
def quadTrouble (rest : Text) (used : Nat) : Trouble :=
  if 4 ≤ Utf8.size rest then ⟨.invalidEscape, used, 4⟩
  else ⟨.endInString, used + rest.length, 0⟩

/-- Reads a string after its opening quotation mark. -/
def readString : Text → Text → Nat → Except Trouble Text
  | [], _, used => .error ⟨.endInString, used, 0⟩
  | '"' :: _, seen, _ => .ok seen.reverse
  | '\\' :: 'u' :: a :: b :: c :: d :: rest, seen, used =>
      match hexQuad? a b c d with
      | none => .error (quadTrouble (a :: b :: c :: d :: rest) (used + 2))
      | some n =>
          if 0xDC00 ≤ n ∧ n ≤ 0xDFFF then .error ⟨.loneSurrogate, used + 6, 0⟩
          else if n < 0xD800 ∨ 0xDBFF < n then
            readString rest (Char.ofNat n :: seen) (used + 6)
          else
            match rest with
            | '\\' :: 'u' :: e :: f :: g :: h :: rest =>
                match hexQuad? e f g h with
                | none => .error (quadTrouble (e :: f :: g :: h :: rest) (used + 8))
                | some low =>
                    if low < 0xDC00 ∨ 0xDFFF < low then .error ⟨.loneSurrogate, used + 12, 0⟩
                    else
                      let value := 0x10000 + (n - 0xD800) * 0x400 + (low - 0xDC00)
                      readString rest (Char.ofNat value :: seen) (used + 12)
            | '\\' :: 'u' :: short => .error (quadTrouble short (used + 8))
            | '\\' :: _ :: _ => .error ⟨.endOfHexEscape, used + 7, 1⟩
            | ['\\'] => .error ⟨.endInString, used + 7, 0⟩
            | _ :: _ => .error ⟨.endOfHexEscape, used + 6, 1⟩
            | [] => .error ⟨.endInString, used + 6, 0⟩
  | '\\' :: 'u' :: short, _, used => .error (quadTrouble short (used + 2))
  | '\\' :: c :: rest, seen, used =>
      match shortEscape? c with
      | some d => readString rest (d :: seen) (used + 2)
      | none => .error ⟨.invalidEscape, used + 1, 1⟩
  | ['\\'], _, used => .error ⟨.endInString, used + 1, 0⟩
  | c :: rest, seen, used =>
      if c.toNat < 0x20 then .error ⟨.controlCharacter, used, 1⟩
      else readString rest (c :: seen) (used + 1)

/-- Skips a string after its opening quotation mark.  Escapes need to be written
correctly, whatever they stand for. -/
def skipString : Text → Nat → Except Trouble Nat
  | [], used => .error ⟨.endInString, used, 0⟩
  | '"' :: _, used => .ok (used + 1)
  | '\\' :: 'u' :: a :: b :: c :: d :: rest, used =>
      match hexQuad? a b c d with
      | none => .error (quadTrouble (a :: b :: c :: d :: rest) (used + 2))
      | some _ => skipString rest (used + 6)
  | '\\' :: 'u' :: short, used => .error (quadTrouble short (used + 2))
  | '\\' :: c :: rest, used =>
      match shortEscape? c with
      | some _ => skipString rest (used + 2)
      | none => .error ⟨.invalidEscape, used + 1, 1⟩
  | ['\\'], used => .error ⟨.endInString, used + 1, 0⟩
  | c :: rest, used =>
      if c.toNat < 0x20 then .error ⟨.controlCharacter, used, 0⟩ else skipString rest (used + 1)

/-! ## Numbers -/

/-- The least number that does not fit 64 bits. -/
def wordLimit : Nat := Nat.pow 2 64

/-- A power of ten. -/
def tenTo (n : Nat) : Float := Float.ofScientific 1 false n

/-- `x` divided by a power of ten, in steps that a float can hold. -/
def scaleDown (x : Float) (n : Nat) : Float :=
  if n ≤ 308 then x / tenTo n
  else if x == 0 then x
  else scaleDown (x / tenTo 308) (n - 308)
termination_by n

/-- The number with these digits and this power of ten, or `none` if it is too
large. -/
def floatOf? (positive : Bool) (digits : Nat) (exponent : Int) : Option Float :=
  let x := digits.toUInt64.toFloat
  let sign (x : Float) : Float := if positive then x else -x
  if 0 ≤ exponent then
    let n := exponent.toNat
    if n ≤ 308 then
      let y := x * tenTo n
      if y.isInf then none else some (sign y)
    else if x == 0 then some (sign x)
    else none
  else some (sign (scaleDown x exponent.natAbs))

/-- The longest run of digits whose value fits 64 bits, going on from `start`:
its value and its length. -/
def fittingDigits (start : Nat) : Text → Nat × Nat
  | [] => (start, 0)
  | c :: rest =>
      if isDigit c then
        let next := 10 * start + (c.toNat - '0'.toNat)
        if wordLimit ≤ next then (start, 0)
        else
          let more := fittingDigits next rest
          (more.1, more.2 + 1)
      else (start, 0)

/-- A number that is no whole number of 64 bits. -/
def floatNumber (positive : Bool) (digits : Nat) (exponent : Int) (used : Nat) :
    Except Trouble Json :=
  match floatOf? positive digits exponent with
  | some x => .ok (.number (.float x))
  | none => .error ⟨.numberOutOfRange, used, 0⟩

/-- The greatest exponent that is read as a number; beyond it the outcome does
not depend on its value. -/
def exponentLimit : Nat := Nat.pow 2 31

/-- Reads an exponent, whose letter comes first in `s`. -/
def readExponent (positive : Bool) (digits : Nat) (exponent : Int) (s : Text) (used : Nat) :
    Except Trouble Json :=
  let s := s.drop 1
  let (positiveExponent, signed) :=
    match s with
    | '+' :: _ => (true, 1)
    | '-' :: _ => (false, 1)
    | _ => (true, 0)
  let s := s.drop signed
  let used := used + 1 + signed
  match s with
  | [] => .error ⟨.endInValue, used, 0⟩
  | c :: _ =>
      if isDigit c then
        let shown := s.takeWhile isDigit
        let value := digitsValue 0 shown
        if exponentLimit ≤ value then
          if digits != 0 && positiveExponent then
            let fitting := (shown.scanl (fun n c => 10 * n + (c.toNat - '0'.toNat)) 0).countP
              (fun n => n < exponentLimit)
            .error ⟨.numberOutOfRange, used + min shown.length fitting, 0⟩
          else floatNumber positive 0 0 (used + shown.length)
        else
          let total := if positiveExponent then exponent + value else exponent - value
          floatNumber positive digits total (used + shown.length)
      else .error ⟨.invalidNumber, used, 1⟩

/-- Reads the rest of a number that may have an exponent. -/
def readScale (positive : Bool) (digits : Nat) (exponent : Int) (s : Text) (used : Nat) :
    Except Trouble Json :=
  match s with
  | 'e' :: _ => readExponent positive digits exponent s used
  | 'E' :: _ => readExponent positive digits exponent s used
  | _ => floatNumber positive digits exponent used

/-- Reads a fraction, whose point comes first in `s`.  Digits that do not fit
64 bits any more do not count. -/
def readFraction (positive : Bool) (digits : Nat) (exponent : Int) (s : Text) (used : Nat) :
    Except Trouble Json :=
  let s := s.drop 1
  let used := used + 1
  let shown := (s.takeWhile isDigit).length
  if shown == 0 then
    match s with
    | [] => .error ⟨.endInValue, used, 0⟩
    | _ :: _ => .error ⟨.invalidNumber, used, 1⟩
  else
    let fitting := fittingDigits digits s
    readScale positive fitting.1 (exponent - fitting.2) (s.drop shown) (used + shown)

/-- A whole number. -/
def wholeNumber (positive : Bool) (n : Nat) : Json :=
  if positive then .number (.natural n)
  else if 0 < n ∧ n ≤ Nat.pow 2 63 then .number (.negative n)
  else .number (.float (-n.toUInt64.toFloat))

/-- Reads a number without its sign. -/
def readNumber (positive : Bool) (s : Text) (used : Nat) : Except Trouble Json :=
  match s with
  | [] => .error ⟨.endInValue, used, 0⟩
  | '0' :: c :: rest =>
      if isDigit c then .error ⟨.invalidNumber, used + 1, 1⟩
      else if c = '.' then readFraction positive 0 0 (c :: rest) (used + 1)
      else if c = 'e' ∨ c = 'E' then readExponent positive 0 0 (c :: rest) (used + 1)
      else .ok (wholeNumber positive 0)
  | ['0'] => .ok (wholeNumber positive 0)
  | c :: _ =>
      if isDigit c then
        let fitting := fittingDigits 0 s
        let shown := (s.takeWhile isDigit).length
        let rest := s.drop shown
        let extra := Int.ofNat (shown - fitting.2)
        match rest with
        | '.' :: _ => readFraction positive fitting.1 extra rest (used + shown)
        | 'e' :: _ => readExponent positive fitting.1 extra rest (used + shown)
        | 'E' :: _ => readExponent positive fitting.1 extra rest (used + shown)
        | _ =>
            if shown = fitting.2 then .ok (wholeNumber positive fitting.1)
            else floatNumber positive fitting.1 extra (used + shown)
      else .error ⟨.invalidNumber, used, 1⟩

/-- The number of characters that a fraction takes. -/
def fractionLength : Text → Nat
  | '.' :: rest => 1 + (rest.takeWhile isDigit).length
  | _ => 0

/-- The number of characters that an exponent takes. -/
def exponentLength : Text → Nat
  | [] => 0
  | c :: rest =>
      if c = 'e' ∨ c = 'E' then
        let sign :=
          match rest with
          | '+' :: _ => 1
          | '-' :: _ => 1
          | _ => 0
        1 + sign + ((rest.drop sign).takeWhile isDigit).length
      else 0

/-- The number of characters that a number without its sign takes. -/
def numberLength (s : Text) : Nat :=
  let whole := (s.takeWhile isDigit).length
  let fraction := fractionLength (s.drop whole)
  whole + fraction + exponentLength (s.drop (whole + fraction))

/-- What is wrong with a number that is skipped.  It may be too large, and where it
ends too early it is taken for badly written. -/
def Trouble.whenSkipped (t : Trouble) : Option Trouble :=
  match t.fault with
  | .numberOutOfRange => none
  | .endInValue => some { t with fault := .invalidNumber }
  | _ => some t

/-- The reading of a number, without its sign, that `used` characters are in front
of. -/
def numberReading (positive : Bool) (s : Text) (used : Nat) : Reading Json :=
  let wanted := readNumber positive s used
  let complaint :=
    match wanted with
    | .ok _ => none
    | .error trouble => trouble.whenSkipped
  ⟨wanted,
    match complaint with
    | some trouble => .error trouble
    | none => .ok (used + numberLength s)⟩

/-! ## All lexemes -/

/-- A trouble in its place, given where the lexeme starts and the text from there
on. -/
def Trouble.placed (start : Position) (s : Text) (t : Trouble) : PlacedFault :=
  ⟨t.fault, (start.advanceAll (s.take t.used)).advanceBytes t.bytes (s.drop t.used)⟩

/-- The lexeme that a reading of `s` gives, with the number of characters that
belong to it. -/
def Reading.lexeme {α : Type} (make : Except PlacedFault α → Lexeme) (isString : Bool)
    (start : Position) (s : Text) (r : Reading α) : Lexeme × Nat :=
  let wanted := r.wanted.mapError (Trouble.placed start s)
  match r.skipped with
  | .ok used => (make wanted, used)
  | .error trouble =>
      let skipped := trouble.placed start s
      match wanted with
      | .ok _ => (.broken isString skipped skipped, trouble.used)
      | .error wanted => (.broken isString wanted skipped, trouble.used)

/-- The lexeme that `c :: rest` starts with, and how many of these characters
belong to it. -/
def readLexeme (start : Position) (c : Char) (rest : Text) : Lexeme × Nat :=
  let s := c :: rest
  let atom (reading : Reading Json) : Lexeme × Nat := reading.lexeme .atom false start s
  match c with
  | '[' => (.openArray, 1)
  | ']' => (.closeArray, 1)
  | '\x7b' => (.openObject, 1)
  | '\x7d' => (.closeObject, 1)
  | ':' => (.colon, 1)
  | ',' => (.comma, 1)
  | 'n' => atom (readWord .null "ull".toList rest 1)
  | 't' => atom (readWord (.bool true) "rue".toList rest 1)
  | 'f' => atom (readWord (.bool false) "alse".toList rest 1)
  | '-' => atom (numberReading false rest 1)
  | '"' =>
      Reading.lexeme .string true start s ⟨readString rest [] 1, skipString rest 1⟩
  | c => if isDigit c then atom (numberReading true s 0) else (.stray, 1)

/-- The lexemes of a text, and the place of its end. -/
def lexemesFrom (start : Position) : Text → List Placed × Position
  | [] => ([], start)
  | c :: rest =>
      if isBlank c then lexemesFrom (start.advance c) rest
      else
        let lexeme := readLexeme start c rest
        let others := rest.drop (lexeme.2 - 1)
        let stop := start.advanceAll (c :: rest.take (lexeme.2 - 1))
        let behind := lexemesFrom stop others
        (⟨lexeme.1, start, stop⟩ :: behind.1, behind.2)
termination_by s => s.length

/-- The lexemes of a text, and the place of its end. -/
def lexemes (s : Text) : List Placed × Position := lexemesFrom {} s

end Json
end TerminalDialogs
