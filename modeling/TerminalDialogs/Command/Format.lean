import TerminalDialogs.Command.Arithmetic
import TerminalDialogs.Number.Significant
import TerminalDialogs.Text.Utf8

/-!
# Printing by a format

A format is filled with arguments, as often as it takes to use them all up.  A
field of it says what kind of thing is written, and in how many bytes.
Backslashes stand for bytes in a format and, where a field asks for it, also in
an argument.

The command that a shell has for this and the program of the same name differ in
a few escapes and in what they say about bad arguments.
-/

namespace TerminalDialogs
namespace Command
namespace Format

/-- Who prints. -/
inductive Printer where
  /-- The command of a shell. -/
  | shell
  /-- A program of its own. -/
  | program
  deriving DecidableEq, Repr

/-! ## Escapes -/

/-- A number of at most `n` digits of a base, the number of digits, and what is
behind them. -/
def limitedDigits (base : Nat) : (n : Nat) → (value count : Nat) → Text → Nat × Nat × Text
  | 0, value, count, s => (value, count, s)
  | _ + 1, value, count, [] => (value, count, [])
  | n + 1, value, count, c :: rest =>
      match Arithmetic.digit? base c with
      | some d => limitedDigits base n (base * value + d) (count + 1) rest
      | none => (value, count, c :: rest)

/-- The bytes that letters stand for behind a backslash. -/
def escapeLetters : List (Char × UInt8) :=
  [('n', 10), ('t', 9), ('r', 13), ('a', 7), ('b', 8), ('f', 12), ('v', 11), ('\\', 92)]

/-- The bytes that a backslash and what follows it stand for, and what is behind
them.  Something unknown stands for itself. -/
def escape (p : Printer) (s : Text) : List UInt8 × Text :=
  match s with
  | [] => ([92], [])
  | c :: rest =>
      match escapeLetters.lookup c with
      | some b => ([b], rest)
      | none =>
          let (value, count, behind) := limitedDigits 8 3 0 0 s
          if count != 0 then ([value.toUInt8], behind)
          else if p = .program && c = 'e' then ([27], rest)
          else if p = .program && c = '"' then ([34], rest)
          else if p = .program && c = 'x' then
            let (value, count, behind) := limitedDigits 16 2 0 0 rest
            if count = 0 then (Utf8.encode ['\\', 'x'], rest) else ([value.toUInt8], behind)
          else (92 :: Utf8.encodeChar c, rest)

/-- Bytes, and whether nothing is to follow them. -/
structure Written where
  bytes : List UInt8 := []
  stopped : Bool := false
  deriving DecidableEq, Repr

/-- A text in which backslashes stand for bytes.  Octal numbers start with a
zero here, and one escape stops all printing. -/
def unescape (p : Printer) : (fuel : Nat) → Text → Written
  | 0, _ => {}
  | _ + 1, [] => {}
  | _ + 1, '\\' :: 'c' :: _ => { stopped := true }
  | fuel + 1, '\\' :: '0' :: rest =>
      let (value, _, behind) := limitedDigits 8 3 0 0 rest
      let later := unescape p fuel behind
      { later with bytes := value.toUInt8 :: later.bytes }
  | fuel + 1, '\\' :: rest =>
      let (bytes, behind) := escape p rest
      let later := unescape p fuel behind
      { later with bytes := bytes ++ later.bytes }
  | fuel + 1, c :: rest =>
      let later := unescape p fuel rest
      { later with bytes := Utf8.encodeChar c ++ later.bytes }

/-- A text in which backslashes stand for bytes. -/
def unescaped (p : Printer) (s : Text) : Written := unescape p (s.length + 1) s

/-! ## Fields -/

/-- A size that a field gives. -/
inductive Size where
  | missing
  | number (n : Int)
  /-- The next argument says it. -/
  | argument
  deriving DecidableEq, Repr

/-- A field. -/
structure Field where
  flags : List Char
  width : Size
  precision : Size
  conversion : Char
  deriving DecidableEq, Repr

/-- A piece of a format. -/
inductive Piece where
  | bytes (bytes : List UInt8)
  | field (f : Field)
  | stop
  /-- A field of no known kind, with all that follows. -/
  | bad (rest : Text)
  deriving DecidableEq, Repr

/-- The size at the beginning of a text, and what is behind it. -/
def size (s : Text) : Size × Text :=
  match s with
  | '*' :: rest => (.argument, rest)
  | c :: _ =>
      if c.isDigit then
        let (n, rest) := Arithmetic.digits 10 0 s
        (.number n, rest)
      else (.missing, s)
  | [] => (.missing, [])

/-- The letters that say how long a number is, which means nothing here. -/
def Printer.lengthLetters : Printer → Text
  | .shell => []
  | .program => "hlLjzt".toList

/-- The field behind a percent sign, and what is behind it. -/
def field? (p : Printer) (s : Text) : Option (Field × Text) :=
  let isFlag (c : Char) : Bool := "-+ #0".toList.contains c
  let flags := s.takeWhile isFlag
  let (width, rest) := size (s.drop flags.length)
  let (precision, rest) :=
    match rest with
    | '.' :: rest =>
        match size rest with
        | (.missing, rest) => (Size.number 0, rest)
        | given => given
    | rest => (.missing, rest)
  match rest.dropWhile (p.lengthLetters.elem ·) with
  | c :: rest =>
      let isKnown := "diouxXcsbfF".toList.contains c
      if isKnown then some (⟨flags, width, precision, c⟩, rest) else none
  | [] => none

/-- The pieces of a format. -/
def pieces (p : Printer) : (fuel : Nat) → Text → List Piece
  | 0, _ => []
  | _ + 1, [] => []
  | fuel + 1, '\\' :: rest =>
      if p = .program && rest.head? = some 'c' then [.stop]
      else
        let (bytes, behind) := escape p rest
        .bytes bytes :: pieces p fuel behind
  | fuel + 1, '%' :: '%' :: rest => .bytes [37] :: pieces p fuel rest
  | fuel + 1, '%' :: rest =>
      match field? p rest with
      | some (f, behind) => .field f :: pieces p fuel behind
      | none => [.bad ('%' :: rest)]
  | fuel + 1, c :: rest => .bytes (Utf8.encodeChar c) :: pieces p fuel rest

/-- Bytes in a field of a width.  Zeros go between the sign and the digits. -/
def padded (f : Field) (width : Int) (sign digits : List UInt8) (zeros : Bool) : List UInt8 :=
  let body := sign ++ digits
  let missing := width.natAbs - body.length
  if f.flags.contains '-' || width < 0 then body ++ List.replicate missing 32
  else if f.flags.contains '0' && zeros then sign ++ List.replicate missing 48 ++ digits
  else List.replicate missing 32 ++ body

/-- The sign of a number. -/
def signOf (f : Field) (negative : Bool) : Text :=
  if negative then ['-']
  else if f.flags.contains '+' then ['+']
  else if f.flags.contains ' ' then [' ']
  else []

/-- Digits, at least as many as a precision says. -/
def atLeast (precision : Option Int) (digits : Text) : Text :=
  match precision with
  | some p =>
      if p = 0 && digits = ['0'] then []
      else List.replicate (p.toNat - digits.length) '0' ++ digits
  | none => digits

/-- A whole number in a field. -/
def whole (f : Field) (width : Int) (precision : Option Int) (n : Int) : List UInt8 :=
  let isSigned := f.conversion == 'd' || f.conversion == 'i'
  let pattern := (n % Int.ofNat (Nat.pow 2 64)).toNat
  let digits :=
    match f.conversion with
    | 'o' => Nat.toDigits 8 pattern
    | 'x' => Nat.toDigits 16 pattern
    | 'X' => (Nat.toDigits 16 pattern).map Char.toUpper
    | 'u' => Text.ofNat pattern
    | _ => Text.ofNat n.natAbs
  let digits := atLeast precision digits
  let isAlternative := f.flags.contains '#'
  let digits :=
    if isAlternative && f.conversion = 'o' && digits.head? != some '0' then '0' :: digits
    else digits
  let sign :=
    if isSigned then signOf f (n < 0)
    else if isAlternative && pattern != 0 && f.conversion.toLower = 'x' then ['0', f.conversion]
    else []
  padded f width (Utf8.encode sign) (Utf8.encode digits) precision.isNone

/-- The number that digits with a point and an exponent are, as a quotient, and
what is behind them. -/
def decimal (s : Text) : Nat × Nat × Text :=
  let (front, rest) := Arithmetic.digits 10 0 s
  let (value, places, rest) :=
    match rest with
    | '.' :: more =>
        let (value, behind) := Arithmetic.digits 10 front more
        (value, more.length - behind.length, behind)
    | rest => (front, 0, rest)
  let power (n : Nat) : Nat := Nat.pow 10 (min n 400)
  let exponent (s : Text) : Option (Bool × Nat × Text) :=
    match s with
    | c :: rest => if c.isDigit then
          let (n, behind) := Arithmetic.digits 10 0 (c :: rest)
          some (false, n, behind)
        else
          match c, rest with
          | '-', d :: _ => if d.isDigit then
                let (n, behind) := Arithmetic.digits 10 0 rest
                some (true, n, behind)
              else none
          | '+', d :: _ => if d.isDigit then
                let (n, behind) := Arithmetic.digits 10 0 rest
                some (false, n, behind)
              else none
          | _, _ => none
    | [] => none
  match rest with
  | c :: more =>
      match (if c == 'e' || c == 'E' then exponent more else none) with
      | some (true, n, behind) => (value, power places * power n, behind)
      | some (false, n, behind) => (value * power n, power places, behind)
      | none => (value, power places, rest)
  | [] => (value, power places, [])

/-- A quotient in a field with a point. -/
def fixed (f : Field) (width : Int) (precision : Option Int) (negative : Bool)
    (numerator denominator : Nat) : List UInt8 :=
  let places := (precision.getD 6).toNat
  let q := Number.Quotient.ofRatio numerator denominator
  let n := Number.nearestEven (q.count * Nat.pow 10 places) (Nat.pow 2 q.scale)
  let digits := Text.ofNat n
  let digits := List.replicate (places + 1 - digits.length) '0' ++ digits
  let front := digits.take (digits.length - places)
  let point : Text := if places = 0 && !f.flags.contains '#' then [] else ['.']
  padded f width (Utf8.encode (signOf f negative))
    (Utf8.encode (front ++ point ++ digits.drop front.length)) true

/-! ## Filling -/

/-- Why an argument is no number. -/
inductive Misfit where
  | noNumber (argument : Text)
  | trailing (argument : Text)
  | outOfRange (argument : Text)
  deriving DecidableEq, Repr

/-- What is said about an argument that is no number. -/
def Misfit.message (p : Printer) (m : Misfit) : Text :=
  match p, m with
  | .shell, .noNumber a => a ++ ": expected numeric value".toList
  | .shell, .trailing a => a ++ ": not completely converted".toList
  | .shell, .outOfRange a => a ++ ": Numerical result out of range".toList
  | .program, .noNumber a => ['\''] ++ a ++ "': expected a numeric value".toList
  | .program, .trailing a => ['\''] ++ a ++ "': value not completely converted".toList
  | .program, .outOfRange a => ['\''] ++ a ++ "': Numerical result out of range".toList

/-- The state of filling a format. -/
structure State where
  arguments : List Text
  misfits : List Misfit := []
  stopped : Bool := false
  /-- A field of no known kind that was met. -/
  bad : Option Text := none

/-- Filling a format. -/
abbrev Filling := StateM State

/-- The next argument, which is empty if there is none. -/
def next : Filling Text :=
  modifyGet fun s => (s.arguments.headD [], { s with arguments := s.arguments.tail })

/-- Notes what is wrong with an argument of which `rest` is no number. -/
def check (argument rest : Text) : Filling Unit :=
  if rest.isEmpty then return ()
  else
    let m := if rest = argument then Misfit.noNumber argument else .trailing argument
    modify fun s => { s with misfits := s.misfits ++ [m] }

/-- A text without blanks and a sign, and whether the sign is a minus. -/
def unsign (s : Text) : Bool × Text :=
  match s.dropWhile Arithmetic.isBlank with
  | '-' :: rest => (true, rest)
  | '+' :: rest => (false, rest)
  | s => (false, s)

/-- Whether a text begins with a digit, perhaps behind a point. -/
def beginsWithDigit (s : Text) : Bool :=
  match s with
  | '.' :: c :: _ => c.isDigit
  | c :: _ => c.isDigit
  | [] => false

/-- The next argument as a whole number, which has a sign or none.  Behind a
quotation mark, a character stands for its number. -/
def nextWhole (isSigned : Bool) : Filling Int := do
  let a ← next
  match a with
  | '\'' :: c :: _ | '"' :: c :: _ => return Int.ofNat ((Utf8.encodeChar c).headD 0).toNat
  | _ =>
      let (negative, s) := unsign a
      let (n, rest) := Arithmetic.unsigned s
      if !(s.head?.map Char.isDigit).getD false then
        check a a
        return 0
      check a rest
      let limit :=
        if !isSigned then Nat.pow 2 64 - 1 else if negative then Nat.pow 2 63 else Nat.pow 2 63 - 1
      if limit < n then
        modify fun s => { s with misfits := s.misfits ++ [.outOfRange a] }
        return if negative && isSigned then -Int.ofNat limit else Int.ofNat limit
      return if negative then -Int.ofNat n else Int.ofNat n

/-- A size, with an argument if it asks for one. -/
def Size.value : Size → Filling (Option Int)
  | .missing => return none
  | .number n => return some n
  | .argument => do return some (← nextWhole true)

/-- What a field writes. -/
def Field.fill (p : Printer) (f : Field) : Filling (List UInt8) := do
  let width := (← f.width.value).getD 0
  let precision := (← f.precision.value).filter (0 ≤ ·)
  let cut (bytes : List UInt8) : List UInt8 :=
    match precision with
    | some n => bytes.take n.toNat
    | none => bytes
  match f.conversion with
  | 's' => return padded f width [] (cut (Utf8.encode (← next))) false
  | 'b' =>
      let w := unescaped p (← next)
      if w.stopped then modify fun s => { s with stopped := true }
      return padded f width [] (cut w.bytes) false
  | 'c' => return padded f width [] [(Utf8.encode (← next)).headD 0] false
  | 'f' | 'F' =>
      let a ← next
      let (negative, s) := unsign a
      let (numerator, denominator, rest) := decimal s
      if beginsWithDigit s then check a rest else check a a
      return fixed f width precision negative numerator denominator
  | _ =>
      return whole f width precision (← nextWhole (f.conversion == 'd' || f.conversion == 'i'))

/-- Fills pieces once. -/
def fill (p : Printer) : List Piece → Filling (List UInt8)
  | [] => return []
  | piece :: rest => do
      if (← get).stopped then return []
      match piece with
      | .bytes bytes => return bytes ++ (← fill p rest)
      | .field f =>
          let bytes ← f.fill p
          return bytes ++ (← fill p rest)
      | .stop =>
          modify fun s => { s with stopped := true }
          return []
      | .bad text =>
          modify fun s => { s with stopped := true, bad := some text }
          return []

/-- Fills pieces as often as there are arguments for them, in at most `rounds`
rounds. -/
def fillAll (p : Printer) (ps : List Piece) : (rounds : Nat) → Filling (List UInt8)
  | 0 => return []
  | rounds + 1 => do
      let before := (← get).arguments.length
      let bytes ← fill p ps
      let s ← get
      if s.stopped || s.arguments.isEmpty || s.arguments.length == before then return bytes
      return bytes ++ (← fillAll p ps rounds)

/-- What is printed for a format and its arguments, and the state in which
printing ends. -/
def printed (p : Printer) (format : Text) (arguments : List Text) : List UInt8 × State :=
  (fillAll p (pieces p (format.length + 1) format) (arguments.length + 1)).run { arguments }

end Format
end Command
end TerminalDialogs
