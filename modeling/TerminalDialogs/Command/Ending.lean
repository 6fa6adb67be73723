import TerminalDialogs.Files.Tree
import TerminalDialogs.Widget.Protocol

/-!
# Commands that run and end

A command is a program with its arguments.  It gets an input and leaves behind
what it wrote, on two streams, and how it ended.  The programs at hand are given
by a function, so a widget or a session can be looked at with any of them.
-/

namespace TerminalDialogs
namespace Command

/-- How a program ended. -/
inductive Status where
  | exited (code : Nat)
  /-- The program was ended by a signal. -/
  | killed
  deriving DecidableEq, Repr

/-- The exit code of a program; one that was killed counts as failed. -/
def Status.code : Status → Nat
  | .exited code => code
  | .killed => 1

/-- What a program left behind. -/
structure Ending where
  stdout : List UInt8 := []
  stderr : List UInt8 := []
  status : Status := .exited 0
  deriving DecidableEq, Repr

/-- What a program is given. -/
structure Call where
  argv : List Text
  /-- Variables, the first of which counts if there are several of one name. -/
  environment : List (Text × Text) := []
  stdin : List UInt8 := []

/-- The number of bytes that an argument does not reach. -/
def argumentLimit : Nat := 131072

/-- Why a program cannot be started. -/
inductive StartProblem where
  | file (problem : Files.Problem)
  /-- An argument with a zero byte in it, which no program can be given. -/
  | zeroByte
  /-- An argument that is too long. -/
  | tooLong
  deriving DecidableEq, Repr

/-- What is said about a program that cannot be started. -/
def StartProblem.message : StartProblem → Text
  | .file problem => problem.message
  | .zeroByte => "nul byte found in provided data".toList
  | .tooLong => "Argument list too long (os error 7)".toList

/-- The programs at hand: what becomes of a call, or why it cannot be
started. -/
abbrev Programs := Call → Except StartProblem Ending

/-- Runs the command of a spinner, which has no input.  A command that cannot
be started counts as one that says so and fails; no command does nothing. -/
def capture (programs : Programs) (argv : List Text) : Widget.Output :=
  match argv with
  | [] => {}
  | program :: _ =>
      match programs { argv } with
      | .ok ending =>
          { stdout := Utf8.decodeLossy ending.stdout
            stderr := Utf8.decodeLossy ending.stderr
            exitCode := ending.status.code }
      | .error problem =>
          { stderr := "failed to start ".toList ++ program ++ ": ".toList ++ problem.message
            exitCode := 1 }

/-- The variable that tells a command that it runs in a session. -/
def sessionVariable : Text := "TUIBRIDGE_INTERACTIVE".toList

/-- Why a session has no command. -/
inductive StartError where
  /-- No command was given. -/
  | noCommand
  /-- The program cannot be started. -/
  | program (name : Text) (problem : StartProblem)
  deriving DecidableEq, Repr

/-- What is said about a command that cannot be started. -/
def StartError.message : StartError → Text
  | .noCommand => "no command given".toList
  | .program name problem => name ++ ": ".toList ++ problem.message

/-- Runs the command of a session. -/
def execute (programs : Programs) (argv : List Text) (stdin : List UInt8) :
    Except StartError Ending :=
  match argv with
  | [] => .error .noCommand
  | name :: _ =>
      match programs { argv, environment := [(sessionVariable, ['1'])], stdin } with
      | .ok ending => .ok ending
      | .error problem => .error (.program name problem)

/-- The messages by which a widget learns that what it asked for is done.
Delays do not end by themselves here. -/
def messages (programs : Programs) : Widget.Effect → List Widget.Message
  | .tick _ => []
  | .run argv => [.finished (capture programs argv)]
  | .batch effects => messagesOfAll programs effects
where
  /-- The messages for several effects. -/
  messagesOfAll (programs : Programs) : List Widget.Effect → List Widget.Message
    | [] => []
    | effect :: effects => messages programs effect ++ messagesOfAll programs effects

end Command
end TerminalDialogs
