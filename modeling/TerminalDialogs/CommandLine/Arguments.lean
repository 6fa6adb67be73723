import TerminalDialogs.Text

/-!
# Arguments of a program

Arguments are read from left to right.  One that starts with two dashes names an
option, which may take a value, either behind an equals sign or as the next
argument; a value on its own must not look like an option.  Two dashes alone end
the options, and everything else stands freely.  The first argument that makes
no sense, or that asks for help, ends the reading.
-/

namespace TerminalDialogs
namespace CommandLine

/-- An option of a program. -/
structure Switch where
  name : Text
  takesValue : Bool
  /-- Whether the value may be empty. -/
  mayBeEmpty : Bool := true
  deriving DecidableEq, Repr

/-- Why arguments make no sense. -/
inductive Misuse where
  | unexpected (argument : Text)
  | noValue (option : Text)
  | repeated (option : Text)
  | missing (argument : Text)
  | needs (option other : Text)
  deriving DecidableEq, Repr

/-- What is said about arguments that make no sense. -/
def Misuse.message : Misuse → Text
  | .unexpected argument => "unexpected argument '".toList ++ argument ++ "' found".toList
  | .noValue option =>
      "a value is required for '--".toList ++ option ++ "' but none was supplied".toList
  | .repeated option =>
      "the argument '--".toList ++ option ++ "' cannot be used multiple times".toList
  | .missing argument =>
      "the following required arguments were not provided: ".toList ++ argument
  | .needs option other =>
      "the argument '--".toList ++ option ++ "' needs '--".toList ++ other ++ "'".toList

/-- Why the reading of arguments ends early. -/
inductive Stop where
  | misuse (m : Misuse)
  | help
  | version
  deriving DecidableEq, Repr

/-- What a program accepts. -/
structure Grammar where
  options : List Switch
  /-- Whether the version can be asked for. -/
  hasVersion : Bool := false
  /-- How many arguments may stand freely. -/
  freeLimit : Nat
  /-- Whether the first free argument ends the reading. -/
  stopsAtFree : Bool := false

/-- Arguments that have been read. -/
structure Arguments where
  /-- The options that were given, with their values. -/
  given : List (Text × Text) := []
  free : List Text := []
  /-- What stands behind two dashes or behind the argument that ended the
  reading. -/
  rest : List Text := []
  deriving DecidableEq, Repr

namespace Arguments

/-- The value of an option, if it was given. -/
def value? (a : Arguments) (name : String) : Option Text := a.given.lookup name.toList

/-- Whether an option was given. -/
def has (a : Arguments) (name : String) : Bool := (a.value? name).isSome

end Arguments

/-- Whether an argument cannot be the value of an option. -/
def looksLikeOption : Text → Bool
  | '-' :: _ :: _ => true
  | _ => false

/-- Records an option with its value. -/
def Arguments.give (a : Arguments) (o : Switch) (value : Text) : Except Stop Arguments :=
  if (a.given.lookup o.name).isSome then .error (.misuse (.repeated o.name))
  else if value.isEmpty && o.takesValue && !o.mayBeEmpty then .error (.misuse (.noValue o.name))
  else .ok { a with given := a.given ++ [(o.name, value)] }

/-- What letters behind a single dash ask for. -/
def shortStop (g : Grammar) (argument : Text) : Stop :=
  match argument with
  | '-' :: 'h' :: _ => .help
  | '-' :: 'V' :: _ => if g.hasVersion then .version else .misuse (.unexpected argument)
  | _ => .misuse (.unexpected argument)

/-- How an argument with two dashes is meant: the option, and the value behind
an equals sign. -/
def namedOption (g : Grammar) (argument : Text) :
    Except Stop (Switch × Option Text) :=
  let body := argument.drop 2
  let (name, attached) :=
    match Text.splitAt? '=' body with
    | some cut => (cut.1, some cut.2)
    | none => (body, none)
  match g.options.find? fun o => o.name == name with
  | some o =>
      if attached.isSome && !o.takesValue then .error (.misuse (.unexpected argument))
      else .ok (o, attached)
  | none =>
      if body = "help".toList then .error .help
      else if g.hasVersion && body == "version".toList then .error .version
      else .error (.misuse (.unexpected argument))

/-- Reads arguments; `owed` is an option that waits for its value. -/
def readArguments (g : Grammar) (owed : Option Switch) (a : Arguments) :
    List Text → Except Stop Arguments
  | [] =>
      match owed with
      | some o => .error (.misuse (.noValue o.name))
      | none => .ok a
  | argument :: rest =>
      match owed with
      | some o =>
          if looksLikeOption argument then .error (.misuse (.noValue o.name))
          else do readArguments g none (← a.give o argument) rest
      | none =>
          if argument = ['-', '-'] then .ok { a with rest }
          else if ['-', '-'].isPrefixOf argument then
            match namedOption g argument with
            | .error stop => .error stop
            | .ok (o, attached) =>
                match o.takesValue, attached with
                | true, none =>
                    if a.has (String.ofList o.name) then .error (.misuse (.repeated o.name))
                    else readArguments g (some o) a rest
                | _, attached => do readArguments g none (← a.give o (attached.getD [])) rest
          else if looksLikeOption argument then .error (shortStop g argument)
          else if g.stopsAtFree then .ok { a with free := [argument], rest }
          else if a.free.length < g.freeLimit then
            readArguments g none { a with free := a.free ++ [argument] } rest
          else .error (.misuse (.unexpected argument))

/-- The arguments of a program. -/
def Grammar.read (g : Grammar) (arguments : List Text) : Except Stop Arguments :=
  readArguments g none {} arguments

end CommandLine
end TerminalDialogs
