import TerminalDialogs.Command.Script
import TerminalDialogs.Command.Tool

/-!
# The state of a shell

A shell has settings of its own, which a subshell gets a copy of, and shares with
its subshells a world of pipes and files.  What is written goes to a stream, and
a stream leads to a pipe or to a file, so that redirecting is changing where
streams lead.

Commands run one after the other.  A pipe holds all that has been written to it
until it is read.
-/

namespace TerminalDialogs
namespace Command

/-- A pipe. -/
structure Pipe where
  /-- What can be read. -/
  unread : List UInt8 := []
  /-- What has been written since, the last piece first. -/
  written : List (List UInt8) := []
  deriving DecidableEq, Repr

/-- All that a pipe holds. -/
def Pipe.content (p : Pipe) : List UInt8 := p.unread ++ p.written.reverse.flatten

/-- Where a stream leads. -/
inductive Stream where
  | pipe (number : Nat)
  | file (path : Text)
  | nowhere
  deriving DecidableEq, Repr

/-- What shells share. -/
structure World where
  pipes : List Pipe := []
  /-- The files that have been written, with what they hold. -/
  files : List (Text × List UInt8) := []
  /-- The directories that have been made. -/
  directories : List Text := []
  deriving DecidableEq, Repr

/-- A setting of a parameter. -/
structure Setting where
  value : Text
  exported : Bool := false
  /-- Whether it is never set again. -/
  fixed : Bool := false
  deriving DecidableEq, Repr

/-- Why the commands that come next are not run. -/
inductive Leaving where
  | exit
  /-- A signal ended the shell. -/
  | killed (signal : Nat)
  /-- So many loops end. -/
  | loops (count : Nat)
  /-- So many loops end but for the last one, which goes on with its next
  round. -/
  | round (count : Nat)
  | function
  deriving DecidableEq, Repr

/-- The state of a shell. -/
structure Shell where
  world : World := {}
  /-- How the shell calls itself in complaints. -/
  name : Text := "sh".toList
  /-- The number by which the system knows the shell. -/
  number : Nat := 1000
  arguments : List Text := []
  settings : List (Text × Setting) := []
  functions : List (Text × Node) := []
  streams : List (Nat × Stream) := [(0, .pipe 0), (1, .pipe 1), (2, .pipe 2)]
  /-- What is done when a signal comes, or, for the number zero, at the end. -/
  traps : List (Nat × Text) := []
  /-- The number of the last command for which nobody waits. -/
  lastBackground : Option Nat := none
  /-- Commands for which nobody has waited yet, with their numbers. -/
  pending : List (Nat × Node) := []
  /-- The codes of such commands that have ended, with what is said about it. -/
  ended : List (Nat × Nat × Text) := []
  /-- The code of the last command. -/
  status : Nat := 0
  /-- The code of the last script whose output was used, if there was one. -/
  substituted : Option Nat := none
  line : Nat := 1
  leaving : Option Leaving := none
  /-- How many loops are being run. -/
  loops : Nat := 0
  /-- The settings that come back when functions end, for each of them. -/
  saved : List (List (Text × Option Setting)) := []
  /-- Whether a failure ends the shell. -/
  stopsOnFailure : Bool := false
  /-- Whether a parameter must have been set. -/
  isStrict : Bool := false
  /-- Whether commands are shown before they run. -/
  traces : Bool := false
  directory : Text := ['/']

/-- Running commands. -/
abbrev Running := StateM Shell

namespace Shell

/-! ## Streams -/

/-- Changes what shells share. -/
def changeWorld (f : World → World) : Running Unit :=
  modify fun s => { s with world := f s.world }

/-- Makes a pipe that holds some bytes. -/
def newPipe (bytes : List UInt8) : Running Nat :=
  modifyGet fun s =>
    (s.world.pipes.length,
      { s with world := { s.world with pipes := s.world.pipes ++ [{ unread := bytes }] } })

/-- Writes to a stream. -/
def write (stream : Nat) (bytes : List UInt8) : Running Unit := do
  if bytes.isEmpty then return ()
  match (← get).streams.lookup stream with
  | some (.pipe n) =>
      changeWorld fun w =>
        { w with pipes := w.pipes.modify n fun p => { p with written := bytes :: p.written } }
  | some (.file path) =>
      changeWorld fun w =>
        { w with
          files := w.files.map fun f => if f.1 = path then (f.1, f.2 ++ bytes) else f }
  | _ => return ()

/-- Writes a text to a stream. -/
def writeText (stream : Nat) (s : Text) : Running Unit := write stream (Utf8.encode s)

/-- What can be read from the first stream. -/
def available : Running (List UInt8) := do
  let s ← get
  match s.streams.lookup 0 with
  | some (.pipe n) => return (s.world.pipes[n]?.map Pipe.content).getD []
  | _ => return []

/-- Leaves only some of what can be read from the first stream. -/
def leave (rest : List UInt8) : Running Unit := do
  match (← get).streams.lookup 0 with
  | some (.pipe n) =>
      changeWorld fun w => { w with pipes := w.pipes.set n { unread := rest } }
  | _ => return ()

/-! ## Complaints -/

/-- Says what is wrong. -/
def complain (reason : Text) : Running Unit := do
  let s ← get
  writeText 2 (s.name ++ ": ".toList ++ Text.ofNat s.line ++ ": ".toList ++ reason ++ ['\n'])

/-- Sets the code of the last command. -/
def setStatus (code : Nat) : Running Unit := modify fun s => { s with status := code }

/-- Says what is wrong, and fails. -/
def fail (reason : Text) (code : Nat) : Running Unit := do
  complain reason
  setStatus code

/-- Leaves. -/
def goAway (l : Leaving) : Running Unit := modify fun s => { s with leaving := some l }

/-- Says what is wrong, and ends the shell. -/
def die (reason : Text) (code : Nat) : Running Unit := do
  fail reason code
  goAway .exit

/-- Whether the shell is leaving. -/
def isLeaving : Running Bool := return (← get).leaving.isSome

/-! ## Files -/

/-- The name under which a file is kept. -/
def pathName (p : Text) : Text := (Text.after? ['.', '/'] p).getD p

/-- The directories that are there from the beginning. -/
def knownDirectories : List Text :=
  ["/", ".", "..", "/tmp", "/dev", "/etc", "/usr", "/bin", "/var", "/root", "/home", "/proc",
    "/usr/bin", "/var/tmp"].map String.toList

/-- Whether a path leads to a directory. -/
def isDirectory (w : World) (p : Text) : Bool :=
  let trimmed := Tool.trimSlashes (pathName p)
  (trimmed.isEmpty && !p.isEmpty) || knownDirectories.contains trimmed ||
    w.directories.contains trimmed

/-- The files that are there from the beginning. -/
def knownFiles : List Text :=
  ["/etc/passwd", "/etc/hosts", "/bin/sh", "/usr/bin/env"].map String.toList

/-- How many zeros are read where there is no end of them. -/
def manyZeros : Nat := 200000

/-- The bytes of a file, or why it cannot be read. -/
def contents (w : World) (p : Text) : Except Text (List UInt8) :=
  match w.files.lookup (pathName p) with
  | some bytes => .ok bytes
  | none =>
      if p = "/dev/null".toList then .ok []
      else if p = "/dev/zero".toList then .ok (List.replicate manyZeros 0)
      else if isDirectory w p then .error "Is a directory".toList
      else .error "No such file or directory".toList

/-- What a path leads to. -/
def kindOf (w : World) (p : Text) : Condition.Kind :=
  match w.files.lookup (pathName p) with
  | some bytes => .file bytes.isEmpty
  | none =>
      if p = "/dev/null".toList || p = "/dev/zero".toList then .device
      else if knownFiles.contains p then .file false
      else if isDirectory w p then .directory
      else .nothing

/-- The names in a directory that are not hidden, in order. -/
def namesIn (w : World) (p : Text) : List Text :=
  let p := Tool.trimSlashes (pathName p)
  let front := if p = ['.'] || p.isEmpty then [] else p ++ ['/']
  let names := (w.files.map Prod.fst ++ w.directories).filterMap (Text.after? front)
  let shown := names.filter fun n => !n.isEmpty && !n.elem '/' && n.head? != some '.'
  shown.eraseDups.mergeSort fun a b => !decide (b < a)

/-- What can be read by a tool. -/
def supply : Running Supply := do
  let w := (← get).world
  return { stdin := ← available, file := contents w, kindOf := kindOf w }

/-- Makes a file empty, or makes it, and keeps what it holds if asked to. -/
def openFile (p : Text) (append : Bool) : Running Unit :=
  changeWorld fun w =>
    let p := pathName p
    let others := w.files.filter fun f => f.1 != p
    { w with files := others ++ [(p, if append then (w.files.lookup p).getD [] else [])] }

/-- Leads a stream elsewhere. -/
def lead (stream : Nat) (target : Stream) : Running Unit :=
  modify fun s =>
    { s with streams := (stream, target) :: s.streams.filter fun p => p.1 != stream }

/-! ## Parameters -/

/-- The value of a parameter, if it is set. -/
def value? (s : Shell) (name : Text) : Option Text :=
  match name with
  | ['?'] => some (Text.ofNat s.status)
  | ['$'] => some (Text.ofNat s.number)
  | ['#'] => some (Text.ofNat s.arguments.length)
  | ['0'] => some s.name
  | ['-'] =>
      some ((if s.stopsOnFailure then ['e'] else []) ++ (if s.isStrict then ['u'] else []) ++
        (if s.traces then ['x'] else []))
  | ['!'] => s.lastBackground.map Text.ofNat
  | name =>
      if name.all Char.isDigit then
        s.arguments[(Arithmetic.digits 10 0 name).1 - 1]?
      else
        match s.settings.lookup name with
        | some setting => some setting.value
        | none =>
            match String.ofList name with
            | "IFS" => some " \t\n".toList
            | "PWD" => some s.directory
            | "OPTIND" => some ['1']
            | "PPID" => some (Text.ofNat (s.number - 1))
            | "PS4" => some "+ ".toList
            | _ => none

/-- Sets a parameter, and tells whether that was allowed. -/
def assign (name value : Text) (exported : Bool) : Running Bool := do
  let s ← get
  let before := s.settings.lookup name
  if (before.map Setting.fixed).getD false then
    die (name ++ ": is read only".toList) 2
    return false
  let exported := exported || (before.map Setting.exported).getD false
  set { s with
    settings := (name, { value, exported }) :: s.settings.filter fun p => p.1 != name }
  return true

/-- Puts a setting back. -/
def restore (name : Text) (setting : Option Setting) : Running Unit :=
  modify fun s =>
    let others := s.settings.filter fun p => p.1 != name
    { s with
      settings :=
        match setting with
        | some old => (name, old) :: others
        | none => others }

/-! ## Signals -/

/-- The names of signals. -/
def signals : List (String × Nat) :=
  [("EXIT", 0), ("HUP", 1), ("INT", 2), ("QUIT", 3), ("ILL", 4), ("TRAP", 5), ("ABRT", 6),
    ("BUS", 7), ("FPE", 8), ("KILL", 9), ("USR1", 10), ("SEGV", 11), ("USR2", 12), ("PIPE", 13),
    ("ALRM", 14), ("TERM", 15), ("CHLD", 17), ("CONT", 18), ("URG", 23), ("WINCH", 28)]

/-- The number of a signal that is given by its number or its name. -/
def signal? (s : Text) : Option Nat :=
  match Tool.count? s with
  | some n => if n < 65 then some n else none
  | none => signals.lookup (String.ofList s)

/-- The signals that do nothing unless something is done about them. -/
def harmlessSignals : List Nat := [0, 17, 18, 23, 28]

/-- What is said about a command that a signal ended. -/
def deathNotice (signal : Nat) : Text :=
  match signal with
  | 1 => "Hangup\n".toList
  | 2 => []
  | 3 => "Quit\n".toList
  | 6 => "Aborted\n".toList
  | 9 => "Killed\n".toList
  | 10 => "User defined signal 1\n".toList
  | 11 => "Segmentation fault\n".toList
  | 12 => "User defined signal 2\n".toList
  | 13 => []
  | 14 => "Alarm clock\n".toList
  | 15 => "Terminated\n".toList
  | n => "Signal ".toList ++ Text.ofNat n ++ ['\n']

end Shell

end Command
end TerminalDialogs
