import TerminalDialogs.Command.Word

/-!
# Whole-number expressions

Expressions are computed while they are read, in words of sixty-four bits that
wrap.  Operators bind in levels, and an operand that does not count because of a
choice or of a shortcut is read but not computed, so that it can neither fail
nor set anything.

Reading recurses on `fuel`: each operator and each operand takes at most one
round on every level, so a multiple of the length of the text is enough.
-/

namespace TerminalDialogs
namespace Command
namespace Arithmetic

/-- Why an expression has no value. -/
inductive Fault where
  | divisionByZero
  | noOperand
  | noClosing (mark : Char)
  | trailing
  /-- A parameter whose value is not a number. -/
  | notNumber (value : Text)
  deriving DecidableEq, Repr

/-- What is said about an expression that has no value. -/
def Fault.message (expression : Text) : Fault → Text
  | .notNumber value => "Illegal number: ".toList ++ value
  | fault =>
      let reason : Text :=
        match fault with
        | .divisionByZero => "division by zero".toList
        | .noOperand => "expecting primary".toList
        | .noClosing mark => "expecting '".toList ++ [mark, '\'']
        | _ => "expecting EOF".toList
      "arithmetic expression: ".toList ++ reason ++ ": \"".toList ++ expression ++ ['"']

/-- A number in sixty-four bits. -/
def wrap (n : Int) : Int := Int.bmod n (Nat.pow 2 64)

/-- The value of a digit in a base up to sixteen. -/
def digit? (base : Nat) (c : Char) : Option Nat :=
  let value? :=
    if c.isDigit then some (c.toNat - '0'.toNat)
    else if 'a' ≤ c && c ≤ 'f' then some (c.toNat - 'a'.toNat + 10)
    else if 'A' ≤ c && c ≤ 'F' then some (c.toNat - 'A'.toNat + 10)
    else none
  value?.filter (· < base)

/-- The digits of a base at the beginning of a text, as a number, and what
follows them. -/
def digits (base : Nat) : (value : Nat) → Text → Nat × Text
  | value, [] => (value, [])
  | value, c :: rest =>
      match digit? base c with
      | some d => digits base (base * value + d) rest
      | none => (value, c :: rest)

/-- The number at the beginning of a text, which may be octal or hexadecimal,
and what follows it. -/
def unsigned (s : Text) : Nat × Text :=
  match s with
  | '0' :: 'x' :: rest => digits 16 0 rest
  | '0' :: 'X' :: rest => digits 16 0 rest
  | '0' :: rest => digits 8 0 rest
  | s => digits 10 0 s

/-- Whether a character is a blank. -/
def isBlank (c : Char) : Bool := " \t\n\r\x0b\x0c".toList.contains c

/-- The number that a text with blanks around and a sign is. -/
def number? (s : Text) : Option Int :=
  let s := Text.trimBoth isBlank s
  let (negative, s) :=
    match s with
    | '-' :: rest => (true, rest)
    | '+' :: rest => (false, rest)
    | s => (false, s)
  match s with
  | [] => none
  | c :: _ =>
      let (value, rest) := unsigned s
      if !c.isDigit || !rest.isEmpty then none
      else some (if negative then -Int.ofNat value else Int.ofNat value)

/-- The operators with two operands, in levels; a later level binds tighter. -/
def levels : List (List String) :=
  [["||"], ["&&"], ["|"], ["^"], ["&"], ["==", "!="], ["<=", ">=", "<", ">"], ["<<", ">>"],
    ["+", "-"], ["*", "/", "%"]]

/-- The operators that set a parameter, with the operators that they apply. -/
def settingOperators : List (String × String) :=
  [("<<=", "<<"), (">>=", ">>"), ("+=", "+"), ("-=", "-"), ("*=", "*"), ("/=", "/"), ("%=", "%"),
    ("&=", "&"), ("^=", "^"), ("|=", "|"), ("=", "")]

/-- All operators with two operands, longer ones first. -/
def operators : List String :=
  ["<<=", ">>=", "||", "&&", "==", "!=", "<=", ">=", "<<", ">>", "+=", "-=", "*=", "/=", "%=",
    "&=", "^=", "|=", "|", "^", "&", "<", ">", "+", "-", "*", "/", "%", "="]

/-- The operator at the beginning of a text, and what follows it. -/
def operator? (s : Text) : Option (String × Text) :=
  operators.findSome? fun o => (Text.after? o.toList s).map fun rest => (o, rest)

/-- The number that stands for an answer. -/
def truth (b : Bool) : Int := if b then 1 else 0

/-- The value of an operator for its operands. -/
def apply (o : String) (a b : Int) : Except Fault Int :=
  let pattern (n : Int) : Nat := (n % Int.ofNat (Nat.pow 2 64)).toNat
  let amount := pattern b % 64
  match o with
  | "+" => .ok (wrap (a + b))
  | "-" => .ok (wrap (a - b))
  | "*" => .ok (wrap (a * b))
  | "/" => if b = 0 then .error .divisionByZero else .ok (wrap (Int.tdiv a b))
  | "%" => if b = 0 then .error .divisionByZero else .ok (Int.tmod a b)
  | "<<" => .ok (wrap (a * Int.ofNat (Nat.pow 2 amount)))
  | ">>" => .ok (Int.fdiv a (Int.ofNat (Nat.pow 2 amount)))
  | "<" => .ok (truth (a < b))
  | ">" => .ok (truth (a > b))
  | "<=" => .ok (truth (a ≤ b))
  | ">=" => .ok (truth (a ≥ b))
  | "==" => .ok (truth (a == b))
  | "!=" => .ok (truth (a != b))
  | "&" => .ok (wrap (Int.ofNat (pattern a &&& pattern b)))
  | "^" => .ok (wrap (Int.ofNat (pattern a ^^^ pattern b)))
  | "|" => .ok (wrap (Int.ofNat (pattern a ||| pattern b)))
  | "&&" => .ok (truth (a != 0 && b != 0))
  | "||" => .ok (truth (a != 0 || b != 0))
  | _ => .ok b

/-- What is left to read, and the parameters. -/
structure State where
  rest : Text
  /-- What has been set, the last setting first. -/
  settings : List (Text × Text) := []

/-- Computing while reading. -/
abbrev Computing := StateT State (Except Fault)

/-- What is left to read, without blanks in front. -/
def upcoming : Computing Text := do
  modify fun s => { s with rest := s.rest.dropWhile isBlank }
  return (← get).rest

/-- Goes on to a later part of the text. -/
def goTo (rest : Text) : Computing Unit := modify fun s => { s with rest }

/-- The number that a parameter stands for. -/
def parameter (values : Text → Text) (name : Text) : Computing Int := do
  let value := (((← get).settings.lookup name).getD (values name))
  if value.all isBlank then return 0
  match number? value with
  | some n => return wrap n
  | none => throw (.notNumber value)

mutual

/-- An expression, which may set a parameter. -/
def expression (values : Text → Text) : (fuel : Nat) → (counts : Bool) → Computing Int
  | 0, _ => throw .noOperand
  | fuel + 1, counts => do
      let s ← upcoming
      let name := s.takeWhile isNameChar
      let behind := (s.drop name.length).dropWhile isBlank
      match isName name, operator? behind with
      | true, some (o, rest) =>
          match settingOperators.lookup o with
          | some applied =>
              goTo rest
              let operand ← expression values fuel counts
              if !counts then return 0
              let before ← if applied.isEmpty then pure 0 else parameter values name
              let value ← (apply applied before operand : Except Fault Int)
              modify fun s => { s with settings := (name, Text.ofInt value) :: s.settings }
              return value
          | none => chosen values fuel counts
      | _, _ => chosen values fuel counts

/-- A choice between two expressions, or no choice. -/
def chosen (values : Text → Text) : (fuel : Nat) → (counts : Bool) → Computing Int
  | 0, _ => throw .noOperand
  | fuel + 1, counts => do
      let condition ← joined values fuel levels counts
      match ← upcoming with
      | '?' :: rest =>
          goTo rest
          let yes ← expression values fuel (counts && condition != 0)
          match ← upcoming with
          | ':' :: rest =>
              goTo rest
              let no ← expression values fuel (counts && condition == 0)
              return if condition != 0 then yes else no
          | _ => throw (.noClosing ':')
      | _ => return condition

/-- Operands joined by the operators of some levels. -/
def joined (values : Text → Text) :
    (fuel : Nat) → (levels : List (List String)) → (counts : Bool) → Computing Int
  | 0, _, _ => throw .noOperand
  | fuel + 1, [], counts => operand values fuel counts
  | fuel + 1, level :: tighter, counts => do
      joinedFrom values fuel level tighter counts (← joined values fuel tighter counts)

/-- Goes on behind the first of joined operands. -/
def joinedFrom (values : Text → Text) :
    (fuel : Nat) → (level : List String) → (tighter : List (List String)) → (counts : Bool) →
      Int → Computing Int
  | 0, _, _, _, _ => throw .noOperand
  | fuel + 1, level, tighter, counts, first => do
      match operator? (← upcoming) with
      | some (o, rest) =>
          if !level.contains o then return first
          goTo rest
          let skipped := (o == "&&" && first == 0) || (o == "||" && first != 0)
          let second ← joined values fuel tighter (counts && !skipped)
          let value ← if counts then (apply o first second : Except Fault Int) else pure 0
          joinedFrom values fuel level tighter counts value
      | none => return first

/-- An operand. -/
def operand (values : Text → Text) : (fuel : Nat) → (counts : Bool) → Computing Int
  | 0, _ => throw .noOperand
  | fuel + 1, counts => do
      match ← upcoming with
      | '-' :: rest =>
          goTo rest
          return wrap (-(← operand values fuel counts))
      | '+' :: rest =>
          goTo rest
          operand values fuel counts
      | '!' :: rest =>
          goTo rest
          return truth ((← operand values fuel counts) == 0)
      | '~' :: rest =>
          goTo rest
          return -(← operand values fuel counts) - 1
      | '(' :: rest =>
          goTo rest
          let value ← expression values fuel counts
          match ← upcoming with
          | ')' :: rest =>
              goTo rest
              return value
          | _ => throw (.noClosing ')')
      | c :: rest =>
          let s := c :: rest
          if c.isDigit then
            let (value, rest) := unsigned s
            goTo rest
            return wrap (Int.ofNat value)
          else if isNameChar c then
            goTo (s.dropWhile isNameChar)
            if counts then parameter values (s.takeWhile isNameChar) else return 0
          else throw .noOperand
      | [] => throw .noOperand

end

/-- The value of an expression, and what it sets, the last setting first.  The
parameters have the given values before. -/
def evaluate (values : Text → Text) (s : Text) : Except Fault (Int × List (Text × Text)) :=
  let whole : Computing Int := do
    let value ← expression values (16 * s.length + 16) true
    if (← upcoming).isEmpty then return value else throw .trailing
  match whole.run { rest := s } with
  | .ok (value, state) => .ok (value, state.settings)
  | .error fault => .error fault

end Arithmetic
end Command
end TerminalDialogs
