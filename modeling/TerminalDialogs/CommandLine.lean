import TerminalDialogs.CommandLine.Help
import TerminalDialogs.Control.Client
import TerminalDialogs.Mode
import TerminalDialogs.Prompt
import TerminalDialogs.Session.Outcome
import TerminalDialogs.Settings

/-!
# The program

The program shows one widget and writes its result as JSON.  Inside of a session
it asks the session to show the widget; elsewhere it asks its questions line by
line.  A dismissed widget ends it with the exit code of an interrupted session,
and any other failure with exit code one.

What happens before the first line is read is a `Plan`; what follows on the
lines is a conversation.  Both are functions of the arguments and of what is
found around the program.
-/

namespace TerminalDialogs
namespace CommandLine

/-- What is found around the program. -/
structure Surroundings where
  /-- Variables by name. -/
  environment : List (Text × Text) := []
  disk : Files.Disk := {}
  programs : Command.Programs
  /-- What comes back for a request to a control server. -/
  deliver : Control.Http.Request → Control.Delivery

namespace Surroundings

/-- A variable, if it is set. -/
def find? (s : Surroundings) (name : Text) : Option Text := s.environment.lookup name

/-- Whether the program runs inside of a session. -/
def isNested (s : Surroundings) : Bool := (s.find? Command.sessionVariable).isSome

/-- How questions are asked where there is no terminal to read from. -/
def mode (s : Surroundings) : Mode :=
  Mode.ofFacts s.isNested (s.find? "ACCESSIBLE".toList).isSome false

/-- The client of the session around the program. -/
def client (s : Surroundings) : Option Control.Client :=
  Control.Client.ofVariables (s.find? Control.addressVariable)
    (s.find? Control.tokenVariable)

/-- The file for messages. -/
def logFile (s : Surroundings) (asked : Option Text) : Option Text :=
  TerminalDialogs.logFile asked (s.find? "TUIBRIDGE_LOG_FILE".toList)

end Surroundings

/-- What a run of the program leaves behind. -/
structure Report where
  code : Nat := 0
  stdout : Text := []
  stderr : Text := []
  deriving DecidableEq, Repr

namespace Report

/-- Writes to a stream before everything else. -/
def after (r : Report) (stream : OutputStream) (said : Text) : Report :=
  match stream with
  | .stdout => { r with stdout := said ++ r.stdout }
  | .stderr => { r with stderr := said ++ r.stderr }

/-- The exit code for arguments that make no sense. -/
def misuseCode : Nat := 2

/-- The program failed. -/
def ofFailure (f : Failure) : Report :=
  if f.isCancelled then { code := Session.Outcome.interruptedCode }
  else { code := 1, stderr := "Error: ".toList ++ f.message ++ ['\n'] }

/-- The program has a result. -/
def ofResult : Except Failure Json → Report
  | .ok result => { stdout := result.compact ++ ['\n'] }
  | .error f => ofFailure f

/-- The program has a value of a kind of widget. -/
def ofValue (kind : Widget.Kind) (value : Except Failure Widget.Value) : Report :=
  ofResult (value.map (Widget.wire kind))

end Report

/-- What the program does before it reads a line. -/
inductive Plan where
  | report (r : Report)
  /-- Questions are asked on a stream, starting with a turn. -/
  | ask (kind : Widget.Kind) (stream : OutputStream) (turn : Prompt.Turn)

/-- The options that are given as JSON. -/
def readOptions : Option Text → Except Failure Json
  | none => .ok .null
  | some text =>
      (Json.parse text).mapError fun fault =>
        (Failure.because fault.message).within "Failed to parse --options JSON".toList

/-- Kind and options of the widget that is to be shown. -/
def readWidget (kind : Text) (options : Option Text) : Except Failure (Widget.Kind × Json) := do
  let kind ← (Widget.Kind.parse kind).mapError Failure.ofWidget
  let options ← readOptions options
  pure (kind, options)

/-- Shows a widget. -/
def planShow (s : Surroundings) (kind : Text) (options : Option Text) : Plan :=
  match readWidget kind options with
  | .error f => .report (.ofFailure f)
  | .ok (kind, options) =>
      match s.client with
      | some client =>
          let request := client.ask { component := kind.name, options }
          .report (.ofResult (client.resultOf (s.deliver request)))
      | none =>
          match Prompt.start s.programs kind options with
          | .error e => .report (.ofFailure (.ofWidget e))
          | .ok turn => .ask kind s.mode.output turn

/-- A session needs a terminal, and there is none. -/
def noTerminal : Failure :=
  (Failure.because "No such device or address (os error 6)".toList).within
    "Failed to enable raw mode for terminal".toList

/-- Carries out a job. -/
def planJob (s : Surroundings) : Job → Plan
  | .run _ _ _ _ => .report (.ofFailure noTerminal)
  | .show kind options => planShow s kind options

/-- What arguments lead to, and the file for messages. -/
def plan (s : Surroundings) (arguments : List Text) : Plan × Option Text :=
  match Invocation.read arguments with
  | .job job asked => (planJob s job, s.logFile asked)
  | .help topic => (.report { stdout := help topic }, none)
  | .version => (.report { stdout := version }, none)
  | .misuse m => (.report { code := Report.misuseCode, stderr := usageError m }, none)

/-- What is said about a file for messages that cannot be made. -/
def logWarning (path : Text) (problem : Files.Problem) : Text :=
  "Warning: Failed to create log file: ".toList ++ path ++ ": ".toList ++ problem.message ++ ['\n']

/-- Makes the file for messages: what is found around the program afterwards, and
what is said about it. -/
def Surroundings.withLog (s : Surroundings) : Option Text → Surroundings × Text
  | none => (s, [])
  | some path =>
      match s.disk.write path [] with
      | .ok disk => ({ s with disk }, [])
      | .error problem => (s, logWarning path problem)

/-- Carries out a plan on a whole input. -/
def Plan.run (s : Surroundings) (input : List UInt8) : Plan → Report
  | .report r => r
  | .ask kind stream (.done said value) => (Report.ofValue kind (.ok value)).after stream said
  | .ask kind stream (.ask said p) =>
      let t := Prompt.converse s.disk.tree p (Prompt.inputLines input)
      (Report.ofValue kind t.result).after stream (said ++ t.said)

/-- Runs the program on a whole input. -/
def run (s : Surroundings) (arguments : List Text) (input : List UInt8) : Report :=
  let (plan, log) := plan s arguments
  let (s, warning) := s.withLog log
  (plan.run s input).after .stderr warning

end CommandLine
end TerminalDialogs
