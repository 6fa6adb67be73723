import TerminalDialogs.CommandLine.Arguments

/-!
# What the program is asked to do

The program runs a command in a session, or shows one widget.  Asked for help or
for its version, it says so and does nothing else.
-/

namespace TerminalDialogs
namespace CommandLine

/-- A part of the program that has help of its own. -/
inductive Topic where
  | program
  | run
  | tui
  | help
  deriving DecidableEq, Repr

/-- What is to be done. -/
inductive Job where
  /-- A command is run in a session. -/
  | run (pipes echo : Bool) (title : Text) (argv : List Text)
  /-- A widget is shown. -/
  | show (kind : Text) (options : Option Text)
  deriving DecidableEq, Repr

/-- What the program is asked for. -/
inductive Invocation where
  | job (job : Job) (logFile : Option Text)
  | help (topic : Topic)
  | version
  | misuse (m : Misuse)
  deriving DecidableEq, Repr

/-! ## Grammars -/

/-- The option for a log file. -/
def logSwitch : Switch := { name := "log-file".toList, takesValue := true, mayBeEmpty := false }

/-- What stands in front of the job. -/
def programGrammar : Grammar where
  options := [logSwitch]
  hasVersion := true
  freeLimit := 1
  stopsAtFree := true

/-- The arguments for running a command. -/
def runGrammar : Grammar where
  options := [logSwitch, ⟨"pipe".toList, false, true⟩, ⟨"no-echo".toList, false, true⟩,
    ⟨"title".toList, true, true⟩]
  freeLimit := 0

/-- The arguments for showing a widget. -/
def tuiGrammar : Grammar where
  options := [logSwitch, ⟨"options".toList, true, true⟩]
  freeLimit := 1

/-! ## Reading -/

/-- What an early end of the reading means. -/
def Stop.invocation (topic : Topic) : Stop → Invocation
  | .help => .help topic
  | .version => .version
  | .misuse m => .misuse m

/-- The title of a session that is given none. -/
def defaultTitle : Text := "Running Command".toList

/-- The job of running a command. -/
def runJob (a : Arguments) : Except Misuse Job :=
  if a.rest.isEmpty then .error (.missing "<CMD>...".toList)
  else if a.has "no-echo" && !a.has "pipe" then
    .error (.needs "no-echo".toList "pipe".toList)
  else
    .ok (.run (a.has "pipe") (!a.has "no-echo") ((a.value? "title").getD defaultTitle) a.rest)

/-- The job of showing a widget. -/
def tuiJob (a : Arguments) : Except Misuse Job :=
  match a.free ++ a.rest with
  | [] => .error (.missing "<KIND>".toList)
  | [kind] => .ok (.show kind (a.value? "options"))
  | _ :: extra :: _ => .error (.unexpected extra)

/-- The job that arguments describe. -/
def readJob (topic : Topic) (g : Grammar) (job : Arguments → Except Misuse Job)
    (logFile : Option Text) (arguments : List Text) : Invocation :=
  match g.read arguments with
  | .error stop => stop.invocation topic
  | .ok a =>
      match job a with
      | .error m => .misuse m
      | .ok t => .job t ((a.value? "log-file").orElse fun _ => logFile)

/-- The topic of a name. -/
def Topic.ofName? (name : Text) : Option Topic :=
  match String.ofList name with
  | "run" => some .run
  | "tui" => some .tui
  | "help" => some .help
  | _ => none

/-- The help that is asked for by name.  No topic has a part with help of its
own, so one name is enough. -/
def readHelp : List Text → Invocation
  | [] => .help .program
  | name :: others =>
      match Topic.ofName? name, others with
      | some topic, [] => .help topic
      | some _, other :: _ => .misuse (.unexpected other)
      | none, _ => .misuse (.unexpected name)

/-- What arguments ask for. -/
def Invocation.read (arguments : List Text) : Invocation :=
  match programGrammar.read arguments with
  | .error stop => stop.invocation .program
  | .ok a =>
      let logFile := a.value? "log-file"
      match a.free with
      | [name] =>
          if name = "run".toList then readJob .run runGrammar runJob logFile a.rest
          else if name = "tui".toList then readJob .tui tuiGrammar tuiJob logFile a.rest
          else if name = "help".toList then readHelp a.rest
          else .misuse (.unexpected name)
      | _ =>
          match a.rest with
          | argument :: _ => .misuse (.unexpected argument)
          | [] => .misuse (.missing "<COMMAND>".toList)

end CommandLine
end TerminalDialogs
