import TerminalDialogs.Command.Condition
import TerminalDialogs.Command.Format

/-!
# Programs that read and print

A tool reads bytes, from its input or from files that its arguments name, and
prints bytes.  It sees nothing else, so it is a function.

The lines of bytes keep no line feeds; whether the last one had one is kept
beside them where it matters.
-/

namespace TerminalDialogs
namespace Command

/-- What a program does. -/
structure Effect where
  stdout : List UInt8 := []
  stderr : List UInt8 := []
  code : Nat := 0
  /-- Whether the input has been read. -/
  reads : Bool := false
  deriving DecidableEq, Repr

namespace Effect

/-- Prints bytes. -/
def ofBytes (bytes : List UInt8) : Effect := { stdout := bytes }

/-- Prints a text. -/
def ofText (s : Text) : Effect := { stdout := Utf8.encode s }

/-- Says something and fails. -/
def failing (s : Text) (code : Nat) : Effect := { stderr := Utf8.encode (s ++ ['\n']), code }

/-- Refuses an argument that is no option, or lacks one. -/
def misused (name : Text) (reason : Text) (code : Nat) : Effect :=
  failing
    (name ++ ": ".toList ++ reason ++ "\nTry '".toList ++ name ++
      " --help' for more information.".toList)
    code

/-- One effect after another. -/
def andThen (a b : Effect) : Effect :=
  { stdout := a.stdout ++ b.stdout
    stderr := a.stderr ++ b.stderr
    code := max a.code b.code
    reads := a.reads || b.reads }

end Effect

/-- What a tool can read. -/
structure Supply where
  stdin : List UInt8
  /-- The bytes of a file, or why it cannot be read. -/
  file : Text → Except Text (List UInt8)
  kindOf : Text → Condition.Kind

namespace Tool

/-! ## Lines of bytes -/

/-- The lines of bytes; a line feed at the end opens no further line. -/
def lines (bytes : List UInt8) : List (List UInt8) :=
  let add (b : UInt8) (state : List (List UInt8)) : List (List UInt8) :=
    if b = 10 then [] :: state
    else
      match state with
      | [] => [[b]]
      | line :: others => (b :: line) :: others
  match bytes.foldr add [[]] with
  | [] => []
  | pieces => if pieces.getLast? = some [] then pieces.dropLast else pieces

/-- Lines with a line feed behind each. -/
def unlines (ls : List (List UInt8)) : List UInt8 := ls.flatMap fun l => l ++ [10]

/-- Whether one line comes before another, byte by byte. -/
def before (a b : List UInt8) : Bool :=
  !decide (b.map UInt8.toNat < a.map UInt8.toNat)

/-! ## Input -/

/-- Says that a file cannot be read. -/
def unreadable (name file reason : Text) : Effect :=
  let quoted := ['\''] ++ file ++ ['\'']
  let (about, code) : Text × Nat :=
    match String.ofList name with
    | "head" | "tail" => ("cannot open ".toList ++ quoted ++ " for reading".toList, 1)
    | "tac" => ("failed to open ".toList ++ quoted ++ " for reading".toList, 1)
    | "rev" => ("cannot open ".toList ++ file, 1)
    | "sort" => ("cannot read: ".toList ++ file, 2)
    | _ => (file, 1)
  .failing (name ++ ": ".toList ++ about ++ ": ".toList ++ reason) code

/-- What the files of some arguments hold, or the input if there are none, and
the complaints about files that cannot be read. -/
def gather (name : Text) (supply : Supply) (files : List Text) :
    List (Text × List UInt8) × Effect :=
  let files := if files.isEmpty then [['-']] else files
  files.foldl
    (fun (state : List (Text × List UInt8) × Effect) file =>
      if file = ['-'] then
        (state.1 ++ [(file, if state.2.reads then [] else supply.stdin)],
          { state.2 with reads := true })
      else
        match supply.file file with
        | .ok bytes => (state.1 ++ [(file, bytes)], state.2)
        | .error reason =>
            (state.1,
              state.2.andThen (unreadable name file reason)))
    ([], {})

/-- Applies a function to all that is read. -/
def onAll (name : Text) (supply : Supply) (files : List Text) (f : List UInt8 → List UInt8) :
    Effect :=
  let (read, effect) := gather name supply files
  { effect with stdout := f (read.flatMap Prod.snd) }

/-- Applies a function to all lines that are read. -/
def onLines (name : Text) (supply : Supply) (files : List Text)
    (f : List (List UInt8) → List (List UInt8)) : Effect :=
  onAll name supply files fun bytes => unlines (f (lines bytes))

/-- The number that a text is, if it has no sign. -/
def count? (s : Text) : Option Nat :=
  if s.isEmpty || !s.all Char.isDigit then none else some (Arithmetic.digits 10 0 s).1

/-- The letters of the options in front of arguments, and the other arguments. -/
def options : List Text → List Char × List Text
  | ['-', '-'] :: rest => ([], rest)
  | ('-' :: c :: letters) :: rest =>
      let (others, files) := options rest
      (c :: letters ++ others, files)
  | arguments => ([], arguments)

/-! ## Parts of the input -/

/-- How much is kept of something. -/
structure Amount where
  count : Nat := 10
  /-- Whether bytes are counted, and not lines. -/
  inBytes : Bool := false
  /-- The sign in front of the count. -/
  sign : Option Char := none
  deriving DecidableEq, Repr

/-- A count with a sign. -/
def Amount.read? (inBytes : Bool) (s : Text) : Option Amount :=
  let sign := s.head?.filter fun c => c == '-' || c == '+'
  (count? (if sign.isSome then s.tail else s)).map fun count => { count, inBytes, sign }

/-- The amount that arguments ask for, and the files among them. -/
def Amount.ofArguments : List Text → Option (Amount × List Text)
  | ['-', 'n'] :: s :: files => (Amount.read? false s).map (·, files)
  | ['-', 'c'] :: s :: files => (Amount.read? true s).map (·, files)
  | ('-' :: 'n' :: s) :: files => (Amount.read? false s).map (·, files)
  | ('-' :: 'c' :: s) :: files => (Amount.read? true s).map (·, files)
  | ('-' :: c :: s) :: files => (Amount.read? false (c :: s)).map (·, files)
  | files => some ({}, files)

/-- Pieces of bytes: bytes or lines with their line feeds. -/
def Amount.pieces (a : Amount) (bytes : List UInt8) : List (List UInt8) :=
  if a.inBytes then bytes.map fun b => [b]
  else
    let ls := lines bytes
    if bytes.getLast? = some 10 then ls.map fun l => l ++ [10]
    else ls.dropLast.map (fun l => l ++ [10]) ++ ls.getLast?.toList

/-- The beginning of bytes. -/
def Amount.front (a : Amount) (bytes : List UInt8) : List UInt8 :=
  let pieces := a.pieces bytes
  (pieces.take (if a.sign = some '-' then pieces.length - a.count else a.count)).flatten

/-- The end of bytes. -/
def Amount.back (a : Amount) (bytes : List UInt8) : List UInt8 :=
  let pieces := a.pieces bytes
  (pieces.drop (if a.sign = some '+' then a.count - 1 else pieces.length - a.count)).flatten

/-- Shows a part of each file, under its name if there are several. -/
def part (name : Text) (supply : Supply) (arguments : List Text)
    (f : Amount → List UInt8 → List UInt8) : Effect :=
  match Amount.ofArguments arguments with
  | none => .misused name "invalid argument".toList 1
  | some (a, files) =>
      let (read, effect) := gather name supply files
      let shown := read.zipIdx.flatMap fun p =>
        let title := if p.1.1 = ['-'] then "standard input".toList else p.1.1
        let heading := (if p.2 = 0 then [] else ['\n']) ++ "==> ".toList ++ title ++ " <==\n".toList
        (if files.length ≤ 1 then [] else Utf8.encode heading) ++ f a p.1.2
      { effect with stdout := shown }

/-! ## Counting and ordering -/

/-- The counts of lines, words and bytes. -/
def counts (letters : List Char) (bytes : List UInt8) : List Nat :=
  let isBlank (b : UInt8) : Bool := b == 32 || (9 ≤ b && b ≤ 13)
  let starts := (bytes.zip (32 :: bytes)).countP fun p => !isBlank p.1 && isBlank p.2
  let wanted (c : Char) (n : Nat) : List Nat :=
    if letters.isEmpty || letters.contains c then [n] else []
  wanted 'l' (bytes.count 10) ++ wanted 'w' starts ++
    (if letters.contains 'm' then [(Utf8.decodeLossy bytes).length] else []) ++
    wanted 'c' bytes.length

/-- Counts what is read. -/
def countWords (supply : Supply) (arguments : List Text) : Effect :=
  let name := "wc".toList
  let (letters, files) := options arguments
  let (read, effect) := gather name supply files
  let rows := read.map fun p => (p.1, counts letters p.2)
  let total := (read.map fun p => counts letters p.2).foldl (List.zipWith (· + ·)) [0, 0, 0, 0, 0]
  let rows := if files.length ≤ 1 then rows else rows ++ [("total".toList, total)]
  let single := files.length ≤ 1 && (rows.head?.map (·.2.length)).getD 1 ≤ 1
  let width :=
    if single then 1
    else if files.isEmpty || files.contains ['-'] then 7
    else (Text.ofNat ((read.map (·.2.length)).foldr (· + ·) 0)).length
  let row (r : Text × List Nat) : Text :=
    Text.join [' '] (r.2.map fun n => Text.padLeft width (Text.ofNat n)) ++
      (if files.isEmpty then [] else ' ' :: r.1) ++ ['\n']
  { effect with stdout := Utf8.encode (rows.flatMap row) }

/-- The number at the beginning of a line. -/
def leadingNumber (line : List UInt8) : Int :=
  let s := (Utf8.decodeLossy line).dropWhile Arithmetic.isBlank
  let n := Int.ofNat (Arithmetic.digits 10 0 (if s.head? = some '-' then s.tail else s)).1
  if s.head? = some '-' then -n else n

/-- Lines of which equal neighbours have become one, with their numbers. -/
def runs : List (List UInt8) → List (List UInt8 × Nat)
  | [] => []
  | line :: rest =>
      match runs rest with
      | (next, n) :: others =>
          if next = line then (line, n + 1) :: others else (line, 1) :: (next, n) :: others
      | [] => [(line, 1)]

/-- Lines in order. -/
def sorted (letters : List Char) (ls : List (List UInt8)) : List (List UInt8) :=
  let fold (l : List UInt8) : List UInt8 :=
    if letters.contains 'f' then l.map fun b => if 97 ≤ b && b ≤ 122 then b - 32 else b else l
  let precedes (a b : List UInt8) : Bool :=
    if letters.contains 'n' && leadingNumber a != leadingNumber b then
      leadingNumber a < leadingNumber b
    else if fold a != fold b then before (fold a) (fold b)
    else before a b
  let ls := ls.mergeSort (if letters.contains 'r' then fun a b => precedes b a else precedes)
  if letters.contains 'u' then (runs ls).map Prod.fst else ls

/-- Neighbours that are equal become one line. -/
def unique (letters : List Char) (ls : List (List UInt8)) : List (List UInt8) :=
  let kept := (runs ls).filter fun r =>
    (!letters.contains 'd' || r.2 > 1) && (!letters.contains 'u' || r.2 == 1)
  kept.map fun r =>
    if letters.contains 'c' then
      Utf8.encode (Text.padLeft 7 (Text.ofNat r.2) ++ [' ']) ++ r.1
    else r.1

/-! ## Characters -/

/-- The bytes that a description stands for. -/
def byteSet : (fuel : Nat) → Text → List UInt8
  | 0, _ => []
  | _ + 1, [] => []
  | fuel + 1, '[' :: ':' :: rest =>
      let name := String.ofList (rest.takeWhile Char.isAlpha)
      let among (low high : Char) : List UInt8 :=
        (List.range 128).filterMap fun n =>
          if low.toNat ≤ n && n ≤ high.toNat then some n.toUInt8 else none
      let members :=
        match name with
        | "lower" => among 'a' 'z'
        | "upper" => among 'A' 'Z'
        | "digit" => among '0' '9'
        | "alpha" => among 'A' 'Z' ++ among 'a' 'z'
        | "alnum" => among '0' '9' ++ among 'A' 'Z' ++ among 'a' 'z'
        | "blank" => [9, 32]
        | "space" => [9, 10, 11, 12, 13, 32]
        | "punct" => among '!' '/' ++ among ':' '@' ++ among '[' '\x60' ++ among '\x7b' '~'
        | _ => []
      members ++ byteSet fuel (rest.drop (name.length + 2))
  | fuel + 1, s =>
      let one (s : Text) : List UInt8 × Text :=
        match s with
        | '\\' :: rest => Format.escape .shell rest
        | c :: rest => (Utf8.encodeChar c, rest)
        | [] => ([], [])
      let (low, behind) := one s
      let isPlain (t : Text) : Bool := t.head? != some '\\' || t.length ≤ 1
      let low := if isPlain s then low else low.drop (low.length - 1)
      match low, behind with
      | [a], '-' :: c :: rest =>
          let (high, behind) := one (c :: rest)
          let top := (high.getLast?.getD 0).toNat
          ((List.range 256).filter fun n => a.toNat ≤ n && n ≤ top).map Nat.toUInt8 ++
            byteSet fuel behind
      | low, behind => low ++ byteSet fuel behind

/-- The bytes that a description stands for. -/
def bytesOf (s : Text) : List UInt8 := byteSet (s.length + 1) s

/-- Replaces, removes or joins bytes. -/
def translate (supply : Supply) (arguments : List Text) : Effect :=
  let (letters, sets) := options arguments
  let first := bytesOf (sets.headD [])
  let second := bytesOf (sets.getD 1 [])
  let isComplement := letters.contains 'c' || letters.contains 'C'
  let matched (b : UInt8) : Bool := first.contains b != isComplement
  let squeeze (isOne : UInt8 → Bool) (bytes : List UInt8) : List UInt8 :=
    (bytes.zip (none :: bytes.map some)).filterMap fun p =>
      if isOne p.1 && p.2 = some p.1 then none else some p.1
  let replace (b : UInt8) : UInt8 :=
    if isComplement then (if matched b then second.getLast?.getD b else b)
    else
      match first.reverse.idxOf? b with
      | some i => second.getD (first.length - 1 - i) (second.getLast?.getD b)
      | none => b
  let output :=
    if letters.contains 'd' then
      let kept := supply.stdin.filter fun b => !matched b
      if letters.contains 's' then squeeze second.contains kept else kept
    else if sets.length ≤ 1 then squeeze matched supply.stdin
    else
      let replaced := supply.stdin.map replace
      if letters.contains 's' then squeeze second.contains replaced else replaced
  let needed := if letters.contains 'd' == letters.contains 's' then 2 else 1
  if sets.isEmpty then .misused "tr".toList "missing operand".toList 1
  else if sets.length < needed then
    let reason :=
      if letters.contains 'd' then "deleting and squeezing repeats" else "translating"
    .misused "tr".toList
      ("missing operand after '".toList ++ sets.headD [] ++
        "'\nTwo strings must be given when ".toList ++ reason.toList ++ ['.']) 1
  else { stdout := output, reads := true }

/-- The positions that a list of ranges holds. -/
def positions (s : Text) : Nat → Bool := fun n =>
  (Text.pieces ',' s).any fun range =>
    match Text.splitAt? '-' range with
    | some (low, high) =>
        (count? low).getD 1 ≤ n && (high.isEmpty || n ≤ (count? high).getD 0)
    | none => count? range = some n

/-- The fields of a line. -/
def cutLine (delimiter : Char) (wanted : Nat → Bool) (line : List UInt8) : List UInt8 :=
  let fields := Text.pieces delimiter (Utf8.decodeLossy line)
  if fields.length ≤ 1 then line
  else
    Utf8.encode <|
      Text.join [delimiter] ((fields.zipIdx.filter fun p => wanted (p.2 + 1)).map Prod.fst)

/-- Keeps some fields or bytes of each line. -/
def cut (supply : Supply) : (delimiter : Char) → List Text → Effect
  | _, ['-', 'd'] :: (d :: _) :: rest => cut supply d rest
  | _, ('-' :: 'd' :: d :: _) :: rest => cut supply d rest
  | delimiter, ['-', 'f'] :: fields :: rest => byFields delimiter fields rest
  | delimiter, ('-' :: 'f' :: c :: fields) :: rest => byFields delimiter (c :: fields) rest
  | _, ['-', 'c'] :: wanted :: rest => byBytes wanted rest
  | _, ['-', 'b'] :: wanted :: rest => byBytes wanted rest
  | _, ('-' :: 'c' :: c :: wanted) :: rest => byBytes (c :: wanted) rest
  | _, ('-' :: 'b' :: c :: wanted) :: rest => byBytes (c :: wanted) rest
  | _, _ =>
      .misused "cut".toList
        "you must specify a list of bytes, characters, or fields".toList 1
where
  /-- Keeps some fields; the delimiter may also stand behind them. -/
  byFields (delimiter : Char) (fields : Text) (rest : List Text) : Effect :=
    let (delimiter, rest) :=
      match rest with
      | ['-', 'd'] :: (d :: _) :: rest => (d, rest)
      | ('-' :: 'd' :: d :: _) :: rest => (d, rest)
      | rest => (delimiter, rest)
    onLines "cut".toList supply rest fun ls => ls.map (cutLine delimiter (positions fields))
  /-- Keeps some bytes. -/
  byBytes (wanted : Text) (rest : List Text) : Effect :=
    onLines "cut".toList supply rest fun ls =>
      ls.map fun l => (l.zipIdx.filter fun p => positions wanted (p.2 + 1)).map Prod.fst

/-! ## Printing -/

/-- Prints words. -/
def echo (options : List Text → Bool × Bool × List Text) (p : Format.Printer)
    (arguments : List Text) : Effect :=
  let (silent, escaped, ws) := options arguments
  let s := Text.join [' '] ws
  let w : Format.Written :=
    if escaped then Format.unescaped p s else { bytes := Utf8.encode s }
  .ofBytes (w.bytes ++ if silent || w.stopped then [] else [10])

/-- The options of the command of a shell that prints words: only one is known,
and escapes always count. -/
def echoOptions : List Text → Bool × Bool × List Text
  | ['-', 'n'] :: ws => (true, true, ws)
  | ws => (false, true, ws)

/-- The options of the program that prints words: whether the line feed is left
out and whether escapes count. -/
def programEchoOptions : List Text → Bool × Bool × List Text
  | ('-' :: c :: letters) :: ws =>
      if (c :: letters).all "neE".toList.contains then
        let (silent, escaped, ws) := programEchoOptions ws
        let last := (c :: letters).reverse.find? fun c => c == 'e' || c == 'E'
        (silent || (c :: letters).contains 'n', escaped || last == some 'e', ws)
      else (false, false, ('-' :: c :: letters) :: ws)
  | ws => (false, false, ws)

/-- Prints by a format. -/
def print (p : Format.Printer) (complain : Text → Text) : List Text → Effect
  | [] =>
      match p with
      | .shell => .failing (complain "usage: printf format [arg ...]".toList) 2
      | .program => .misused "printf".toList "missing operand".toList 1
  | ['-', '-'] :: format :: arguments => go format arguments
  | format :: arguments => go format arguments
where
  /-- Prints and complains. -/
  go (format : Text) (arguments : List Text) : Effect :=
    let (stdout, s) := Format.printed p format arguments
    let misfits := s.misfits.flatMap fun m => complain (m.message p) ++ ['\n']
    let effect : Effect :=
      { stdout, stderr := Utf8.encode misfits, code := if s.misfits.isEmpty then 0 else 1 }
    let extra := s.arguments.headD []
    match s.bad, p with
    | none, .program =>
        if s.arguments.isEmpty || s.stopped then effect
        else
          let warning := "warning: ignoring excess arguments, starting with '".toList
          effect.andThen { stderr := Utf8.encode (complain (warning ++ extra ++ "'\n".toList)) }
    | none, .shell => effect
    | some text, p =>
        let flags := text.tail.takeWhile ("-+ #0123456789.*".toList ++ p.lengthLetters).contains
        let field := text.take (flags.length + 2)
        let reason (s : String) : Text := complain (field ++ s.toList)
        match p with
        | .shell => effect.andThen (.failing (reason ": invalid directive") 2)
        | .program => effect.andThen (.failing (reason ": invalid conversion specification") 1)

/-- A decimal number: so many units of the decimal place that is counted from
the point. -/
structure Decimal where
  units : Int
  places : Nat
  deriving DecidableEq, Repr

/-- The decimal number that a text is. -/
def Decimal.ofText? (s : Text) : Option Decimal :=
  let (negative, s) := Format.unsign s
  let (front, back) := (Text.splitAt? '.' s).getD (s, [])
  if (front ++ back).isEmpty || !(front ++ back).all Char.isDigit then none
  else
    let n := Int.ofNat (Arithmetic.digits 10 0 (front ++ back)).1
    some ⟨if negative then -n else n, back.length⟩

/-- The text of units of a decimal place. -/
def Decimal.text (d : Decimal) : Text :=
  let digits := Text.ofNat d.units.natAbs
  let digits := List.replicate (d.places + 1 - digits.length) '0' ++ digits
  let front := digits.take (digits.length - d.places)
  (if d.units < 0 then ['-'] else []) ++ front ++
    if d.places = 0 then [] else '.' :: digits.drop front.length

/-- How a sequence is asked for. -/
structure SequenceOptions where
  separator : Text := ['\n']
  /-- Whether all numbers are equally wide. -/
  evenWidth : Bool := false

/-- The options of a sequence, and its bounds. -/
def SequenceOptions.read (o : SequenceOptions) : List Text → SequenceOptions × List Text
  | ['-', 's'] :: s :: rest => read { o with separator := s } rest
  | ['-', 'w'] :: rest => read { o with evenWidth := true } rest
  | ('-' :: 's' :: s) :: rest => read { o with separator := s } rest
  | rest => (o, rest)

/-- Prints a sequence of decimal numbers. -/
def sequence (arguments : List Text) : Effect :=
  let (o, bounds) := SequenceOptions.read {} arguments
  let show? (first step last : Decimal) : Effect :=
    let places := max first.places step.places
    let all := max places last.places
    let scaled (d : Decimal) : Int := d.units * Int.ofNat (Nat.pow 10 (all - d.places))
    let n :=
      if step.units = 0 then 0
      else ((scaled last - scaled first) / scaled step + 1).toNat
    let unit := Int.ofNat (Nat.pow 10 (all - places))
    let terms := (List.range n).map fun i =>
      (⟨(scaled first + scaled step * Int.ofNat i) / unit, places⟩ : Decimal).text
    let width := (terms.map List.length).foldl max 0
    let widened (s : Text) : Text :=
      let zeros := List.replicate (width - s.length) '0'
      if s.head? = some '-' then '-' :: zeros ++ s.tail else zeros ++ s
    let terms := if o.evenWidth then terms.map widened else terms
    if terms.isEmpty then {} else .ofText (Text.join o.separator terms ++ ['\n'])
  match bounds.mapM Decimal.ofText? with
  | none =>
      let wrong := (bounds.find? fun b => (Decimal.ofText? b).isNone).getD []
      .misused "seq".toList
        ("invalid floating point argument: '".toList ++ wrong ++ ['\'']) 1
  | some [last] => show? ⟨1, 0⟩ ⟨1, 0⟩ last
  | some [first, last] => show? first ⟨1, 0⟩ last
  | some [first, step, last] => show? first step last
  | some [] => .misused "seq".toList "missing operand".toList 1
  | some _ =>
      .misused "seq".toList ("extra operand '".toList ++ bounds.getD 3 [] ++ ['\'']) 1

/-- A path without the slashes at its end. -/
def trimSlashes (p : Text) : Text :=
  let trimmed := (p.reverse.dropWhile (· == '/')).reverse
  if trimmed.isEmpty && !p.isEmpty then ['/'] else trimmed

/-- The last name of a path. -/
def baseName (p : Text) : Text :=
  let p := trimSlashes p
  if p = ['/'] then p else (p.reverse.takeWhile (· != '/')).reverse

/-- A path without its last name. -/
def directoryName (p : Text) : Text :=
  let p := trimSlashes p
  let front := (p.reverse.dropWhile (· != '/')).reverse
  if front.isEmpty then ['.'] else trimSlashes front

/-- Prints the value of an expression, each part of which is an argument. -/
def compute (arguments : List Text) : Effect :=
  let say (s : Text) : Effect :=
    { Effect.ofText (s ++ ['\n']) with code := if s.isEmpty || s = ['0'] then 1 else 0 }
  match arguments with
  | [] => .misused "expr".toList "missing operand".toList 2
  | [a] => say a
  | [_, s] => say (Text.ofNat s.length)
  | arguments =>
      let equality? : Option Bool :=
        match arguments with
        | [a, ['='], b] => some (a == b)
        | [a, ['!', '='], b] => some (a != b)
        | _ => none
      match equality? with
      | some b => say (if b then ['1'] else ['0'])
      | none =>
          match Arithmetic.evaluate (fun s => s) (Text.join [' '] arguments) with
          | .ok (n, _) => say (Text.ofInt n)
          | .error .divisionByZero => .failing "expr: division by zero".toList 2
          | .error (.notNumber _) => .failing "expr: non-integer argument".toList 2
          | .error _ => .failing "expr: syntax error".toList 2

/-- Whether a text is a duration. -/
def isInterval (s : Text) : Bool :=
  let digits := if (s.getLast?.map "smhd".toList.contains).getD false then s.dropLast else s
  let (_, _, rest) := Format.decimal digits
  Format.beginsWithDigit digits && rest.isEmpty

/-- Waits, which takes no time here. -/
def wait (arguments : List Text) : Effect :=
  match arguments, arguments.find? fun a => !isInterval a with
  | [], _ => .misused "sleep".toList "missing operand".toList 1
  | _, some a => .misused "sleep".toList ("invalid time interval '".toList ++ a ++ ['\'']) 1
  | _, none => {}

/-- Whether an interval is longer than a limit; both are given in seconds, and
no limit is given by zero. -/
def exceeds (limit interval : Text) : Bool :=
  let (m, unit, _) := Format.decimal limit
  let (n, part, _) := Format.decimal interval
  0 < m && m * part < n * unit

/-- How often a line is repeated that would be repeated for ever. -/
def manyTimes : Nat := 20000

/-- Numbers lines. -/
def numbered (ls : List (List UInt8)) : List (List UInt8) :=
  ls.zipIdx.map fun p => Utf8.encode (Text.padLeft 6 (Text.ofNat (p.2 + 1)) ++ ['\t']) ++ p.1

/-- What a tool does, if there is one of that name. -/
def run? (supply : Supply) (name : Text) (arguments : List Text) : Option Effect :=
  let (letters, files) := options arguments
  match String.ofList name with
  | "true" => some {}
  | "false" => some { code := 1 }
  | "sleep" => some (wait arguments)
  | "echo" => some (echo programEchoOptions .program arguments)
  | "printf" => some (print .program ("printf: ".toList ++ ·) arguments)
  | "cat" =>
      if let some c := letters.find? fun c => !"AbeEnstTuv".toList.contains c then
        some (.misused name ("invalid option -- '".toList ++ [c, '\'']) 1)
      else if letters.contains 'n' then some (onLines name supply files numbered)
      else some (onAll name supply files fun bytes => bytes)
  | "head" => some (part name supply arguments Amount.front)
  | "tail" => some (part name supply arguments Amount.back)
  | "tac" => some (onLines name supply files List.reverse)
  | "rev" =>
      some <| onLines name supply files fun ls =>
        ls.map fun l => Utf8.encode (Utf8.decodeLossy l).reverse
  | "nl" =>
      some <| onLines name supply files fun ls => numbered ls
  | "wc" => some (countWords supply arguments)
  | "sort" => some (onLines name supply files (sorted letters))
  | "uniq" => some (onLines name supply files (unique letters))
  | "tr" => some (translate supply arguments)
  | "cut" => some (cut supply '\t' arguments)
  | "seq" => some (sequence arguments)
  | "yes" =>
      let line := Text.join [' '] (if arguments.isEmpty then [['y']] else arguments)
      some (.ofText (List.replicate manyTimes (line ++ ['\n'])).flatten)
  | "basename" =>
      match arguments with
      | [] => some (.misused name "missing operand".toList 1)
      | p :: endings =>
          let base := baseName p
          let ending := endings.headD []
          let cut := if ending.isSuffixOf base && ending != base then
              base.take (base.length - ending.length) else base
          some (.ofText (cut ++ ['\n']))
  | "dirname" =>
      if arguments.isEmpty then some (.misused name "missing operand".toList 1)
      else some (.ofText (arguments.flatMap fun p => directoryName p ++ ['\n']))
  | "expr" => some (compute arguments)
  | "test" => some (answering arguments)
  | "[" =>
      if arguments.getLast? = some [']'] then some (answering arguments.dropLast)
      else some (.failing "[: missing ']'".toList 2)
  | _ => none
where
  /-- Answers a condition by the code. -/
  answering (arguments : List Text) : Effect :=
    match Condition.answer supply.kindOf arguments with
    | .ok true => {}
    | .ok false => { code := 1 }
    | .error (.notNumber a) =>
        .failing (name ++ ": invalid integer '".toList ++ a ++ ['\'']) 2
    | .error fault => .failing (name ++ ": ".toList ++ fault.message) 2

end Tool

end Command
end TerminalDialogs
