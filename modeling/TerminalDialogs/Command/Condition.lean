import TerminalDialogs.Command.Arithmetic

/-!
# Conditions

A condition compares texts and numbers and asks about files.  It is given as the
arguments of a command, so what is an operator and what is an operand depends on
where it stands: an operator with two operands wins over all else.
-/

namespace TerminalDialogs
namespace Command
namespace Condition

/-- What a path leads to. -/
inductive Kind where
  | nothing
  | file (isEmpty : Bool)
  | directory
  | device
  deriving DecidableEq, Repr

/-- Why a condition has no answer. -/
inductive Fault where
  | unexpected (argument : Text)
  | argumentExpected
  /-- An operator that lacks its second operand. -/
  | operandExpected (operator : Text)
  | noClosing
  | notNumber (argument : Text)
  deriving DecidableEq, Repr

/-- What is said about a condition that has no answer. -/
def Fault.message : Fault → Text
  | .unexpected a => a ++ ": unexpected operator".toList
  | .argumentExpected => "argument expected".toList
  | .operandExpected operator => operator ++ ": argument expected".toList
  | .noClosing => "closing paren expected".toList
  | .notNumber a => "Illegal number: ".toList ++ a

/-- The operators with two operands. -/
def binaryOperators : List String :=
  ["=", "!=", "<", ">", "-eq", "-ne", "-lt", "-le", "-gt", "-ge", "-nt", "-ot", "-ef"]

/-- The operators with one operand. -/
def unaryOperators : List String :=
  ["-n", "-z", "-e", "-f", "-d", "-r", "-w", "-x", "-s", "-L", "-h", "-t", "-p", "-S", "-b", "-c",
    "-u", "-g", "-k", "-O", "-G"]

/-- Whether an argument is one of some operators. -/
def isAmong (operators : List String) (argument : Text) : Bool :=
  operators.contains (String.ofList argument)

/-- The number that an argument is. -/
def number (argument : Text) : Except Fault Int :=
  let s := Text.trimBoth Arithmetic.isBlank argument
  let digits := if s.head? = some '-' || s.head? = some '+' then s.tail else s
  if digits.isEmpty || !digits.all Char.isDigit then .error (.notNumber argument)
  else
    let n := Int.ofNat (Arithmetic.digits 10 0 digits).1
    .ok (if s.head? = some '-' then -n else n)

/-- The answer of an operator with two operands. -/
def binary (operator : String) (a b : Text) : Except Fault Bool := do
  let compare (f : Int → Int → Bool) : Except Fault Bool := do
    return f (← number a) (← number b)
  match operator with
  | "=" => return a == b
  | "!=" => return a != b
  | "<" => return decide (a < b)
  | ">" => return decide (b < a)
  | "-eq" => compare (· == ·)
  | "-ne" => compare (· != ·)
  | "-lt" => compare (decide <| · < ·)
  | "-le" => compare (decide <| · ≤ ·)
  | "-gt" => compare (decide <| · > ·)
  | "-ge" => compare (decide <| · ≥ ·)
  | "-ef" => return a == b
  | _ => return false

/-- The answer of an operator with one operand. -/
def unary (kindOf : Text → Kind) (operator : String) (a : Text) : Bool :=
  match operator with
  | "-n" => !a.isEmpty
  | "-z" => a.isEmpty
  | "-e" | "-r" | "-w" => kindOf a != .nothing
  | "-f" => kindOf a == .file true || kindOf a == .file false
  | "-d" | "-x" => kindOf a == .directory
  | "-s" => kindOf a == .file false || kindOf a == .directory
  | "-c" => kindOf a == .device
  | _ => false

/-- Answering while reading arguments. -/
abbrev Answering := StateT (List Text) (Except Fault)

mutual

/-- Conditions of which one is to hold. -/
def anyOf (kindOf : Text → Kind) : (fuel : Nat) → Answering Bool
  | 0 => throw .argumentExpected
  | fuel + 1 => do
      let first ← allOf kindOf fuel
      match ← get with
      | ['-', 'o'] :: rest =>
          set rest
          let others ← anyOf kindOf fuel
          return first || others
      | _ => return first

/-- Conditions of which all are to hold. -/
def allOf (kindOf : Text → Kind) : (fuel : Nat) → Answering Bool
  | 0 => throw .argumentExpected
  | fuel + 1 => do
      let first ← single kindOf fuel
      match ← get with
      | ['-', 'a'] :: rest =>
          set rest
          let others ← allOf kindOf fuel
          return first && others
      | _ => return first

/-- One condition. -/
def single (kindOf : Text → Kind) : (fuel : Nat) → Answering Bool
  | 0 => throw .argumentExpected
  | fuel + 1 => do
      match ← get with
      | [] => throw .argumentExpected
      | a :: rest =>
          match rest with
          | o :: b :: behind =>
              if isAmong binaryOperators o then
                set behind
                return ← (binary (String.ofList o) a b : Except Fault Bool)
          | _ => pure ()
          if a = ['!'] && !rest.isEmpty then
            set rest
            return !(← single kindOf fuel)
          else if a = ['('] && !rest.isEmpty then
            set rest
            let answer ← anyOf kindOf fuel
            match ← get with
            | [')'] :: behind =>
                set behind
                return answer
            | _ => throw .noClosing
          else if isAmong unaryOperators a && !rest.isEmpty then
            set rest.tail
            return unary kindOf (String.ofList a) (rest.headD [])
          else if let some o := rest.head?.filter (isAmong binaryOperators) then
            throw (.operandExpected o)
          else
            set rest
            return !a.isEmpty

end

/-- The answer of a condition.  Without arguments it does not hold. -/
def answer (kindOf : Text → Kind) (arguments : List Text) : Except Fault Bool :=
  if arguments.isEmpty then .ok false
  else
    match (anyOf kindOf (4 * arguments.length + 4)).run arguments with
    | .ok (answer, []) => .ok answer
    | .ok (_, rest) => .error (.unexpected (arguments.getD (arguments.length - rest.length - 1) []))
    | .error fault => .error fault

end Condition
end Command
end TerminalDialogs
