import TerminalDialogs.Command.Shell.Builtin
import TerminalDialogs.Command.Shell.Fields

/-!
# Running scripts

Words are expanded and commands are run in turn, each on the state that the one
before has left.  A command that is not part of the shell is a tool or another
shell, which gets a copy of the exported settings.

Everything here recurses on `fuel`, since a script may loop.  A shell that runs
out of it stops where it is.
-/

namespace TerminalDialogs
namespace Command
namespace Shell

/-- A shell that has been asked to run something. -/
structure Start where
  /-- The text of the script, unless it is read. -/
  script : Option Text := none
  /-- The file that holds the script. -/
  file : Option Text := none
  name : Text
  arguments : List Text := []
  letters : Text := []

/-- How the arguments of a shell ask for something. -/
def Start.ofArguments (name : Text) : (letters : Text) → List Text → Start
  | letters, ['-', '-'] :: rest => finish letters rest
  | letters, ('-' :: c :: more) :: rest => ofArguments name (letters ++ c :: more) rest
  | letters, rest => finish letters rest
where
  /-- What stands behind the options. -/
  finish (letters : Text) (rest : List Text) : Start :=
    if letters.elem 'c' then
      match rest with
      | script :: own :: arguments => { script := some script, name := own, arguments, letters }
      | [script] => { script := some script, name, letters }
      | [] => { name, letters }
    else if letters.elem 's' then { name, arguments := rest, letters }
    else
      match rest with
      | file :: arguments => { file := some file, name := file, arguments, letters }
      | [] => { name, letters }

/-- Puts settings back. -/
def restoreAll (settings : List (Text × Option Setting)) : Running Unit := do
  for (name, setting) in settings do
    restore name setting

/-- Leads all streams where they led before. -/
def restoreStreams (streams : List (Nat × Stream)) : Running Unit :=
  modify fun s => { s with streams }

/-- Whether a redirection to a file can be made, or a complaint. -/
def checkOutput (path : Text) : Running Bool := do
  let w := (← get).world
  if isDirectory w path then
    complain ("cannot create ".toList ++ path ++ ": Is a directory".toList)
    return false
  else if path.isEmpty || (path.elem '/' && !isDirectory w (Tool.directoryName path)) then
    complain ("cannot create ".toList ++ path ++ ": Directory nonexistent".toList)
    return false
  else return true

/-- Leads a stream to a file that is written. -/
def redirectOutput (stream : Nat) (path : Text) (append : Bool) : Running Bool := do
  let device := String.ofList path
  let copy (other : Nat) : Running Bool := do
    lead stream (((← get).streams.lookup other).getD .nowhere)
    return true
  if device = "/dev/null" then
    lead stream .nowhere
    return true
  else if device = "/dev/stdout" || device = "/dev/fd/1" then copy 1
  else if device = "/dev/stderr" || device = "/dev/fd/2" then copy 2
  else if ← checkOutput path then
    openFile path append
    lead stream (.file (pathName path))
    return true
  else return false

/-- Leads a stream to a file that is read. -/
def redirectInput (stream : Nat) (path : Text) : Running Bool := do
  if path = "/dev/stdin".toList then return true
  match contents (← get).world path with
  | .ok bytes =>
      lead stream (.pipe (← newPipe bytes))
      return true
  | .error _ =>
      complain ("cannot open ".toList ++ path ++ ": No such file".toList)
      return false

/-- Leads a stream to where another one leads, or nowhere. -/
def redirectStream (stream : Nat) (target : Text) : Running Bool := do
  if target = ['-'] then
    modify fun s => { s with streams := s.streams.filter fun p => p.1 != stream }
    return true
  match Tool.count? target with
  | none =>
      die "Syntax error: Bad fd number".toList 2
      return false
  | some n =>
      match (← get).streams.lookup n with
      | some other =>
          lead stream other
          return true
      | none =>
          complain (target ++ ": Bad file descriptor".toList)
          return false

/-- Shows a command with its settings, if commands are shown. -/
def trace (names : List Text) (fields : List Text) : Running Unit := do
  let s ← get
  let settings := names.map fun name => name ++ '=' :: (s.value? name).getD []
  if s.traces && !(settings ++ fields).isEmpty then
    writeText 2 ("+ ".toList ++ Text.join [' '] (settings ++ fields) ++ ['\n'])

mutual

/-- The pieces of what a word stands for. -/
def expand : (fuel : Nat) → Word → Running (List Piece)
  | 0, _ => return []
  | _ + 1, [] => return []
  | fuel + 1, part :: rest => do
      if ← isLeaving then return []
      let pieces ← expandPart fuel part
      let pieces :=
        match part, rest with
        | .mark, .parameter ['@'] _ _ true :: _ =>
            if rest.length ≤ 1 then [] else pieces
        | _, _ => pieces
      return pieces ++ (← expand fuel rest)

/-- The pieces of what a part of a word stands for. -/
def expandPart : (fuel : Nat) → Part → Running (List Piece)
  | 0, _ => return []
  | fuel + 1, part => do
      match part with
      | .char c quoted => return [.char c quoted false]
      | .mark => return [.mark]
      | .bad =>
          die "Bad substitution".toList 2
          return []
      | .output script quoted =>
          let bytes ← outputOf fuel script
          let text := (Utf8.decodeLossy bytes).filter (· != '\x00')
          return Piece.ofValue quoted ((text.reverse.dropWhile (· == '\n')).reverse)
      | .arithmetic expression quoted =>
          let expression := Piece.text (← expand fuel (wholeParts .document expression))
          let s ← get
          let values (name : Text) : Text := (s.value? name).getD []
          match Arithmetic.evaluate values expression with
          | .ok (value, settings) =>
              for (name, value) in settings.reverse do
                let _ ← assign name value false
              return Piece.ofValue quoted (Text.ofInt value)
          | .error fault =>
              die (fault.message expression) 2
              return []
      | .parameter name operator argument quoted =>
          expandParameter fuel name operator argument quoted

/-- The pieces of the value of a parameter. -/
def expandParameter : (fuel : Nat) → (name operator argument : Text) → (quoted : Bool) →
    Running (List Piece)
  | 0, _, _, _, _ => return []
  | fuel + 1, name, operator, argument, quoted => do
      let s ← get
      let isList := name = ['@'] || name = ['*']
      let value? : Option Text :=
        if isList then
          if s.arguments.isEmpty then none else some (Text.join [' '] s.arguments)
        else s.value? name
      let value : List Piece :=
        if name = ['@'] then Piece.ofValues quoted s.arguments
        else if name = ['*'] then
          if quoted then
            let separator := (((s.value? "IFS".toList).getD []).head?).toList
            Piece.ofValue true (Text.join separator s.arguments)
          else Piece.ofValues false s.arguments
        else Piece.ofValue quoted (value?.getD [])
      let place := if quoted then Place.quotedArgument else .argument
      let isThere :=
        match value? with
        | some v => operator.head? != some ':' || !v.isEmpty
        | none => false
      let shortened (front longest : Bool) : Running (List Piece) := do
        let pieces ← expand fuel (wholeParts .argument argument)
        let pattern := Pattern.ofChars (Piece.pattern pieces)
        let v := value?.getD []
        return Piece.ofValue quoted
          (if front then pattern.cutFront longest v else pattern.cutBack longest v)
      match String.ofList operator with
      | "" =>
          if value?.isNone && s.isStrict && !isList then
            die (name ++ ": parameter not set".toList) 2
            return []
          else return value
      | "length" =>
          return Piece.ofValue quoted (Text.ofNat (Utf8.size (value?.getD [])))
      | "%" => shortened false false
      | "%%" => shortened false true
      | "#" => shortened true false
      | "##" => shortened true true
      | "+" | ":+" =>
          if isThere then return Piece.loosened quoted (← expand fuel (wholeParts place argument))
          else return []
      | "-" | ":-" =>
          if isThere then return value
          else return Piece.loosened quoted (← expand fuel (wholeParts place argument))
      | "=" | ":=" =>
          if isThere then return value
          else if !isName name then
            die (name ++ ": bad variable name".toList) 2
            return []
          else
            let pieces ← expand fuel (wholeParts place argument)
            let _ ← assign name (Piece.text pieces) false
            return Piece.loosened quoted pieces
      | _ =>
          if isThere then return value
          else
            let reason := Piece.text (← expand fuel (wholeParts place argument))
            let missing := "parameter not set".toList ++
              if operator.head? = some ':' then " or null".toList else []
            die (name ++ ": ".toList ++ if argument.isEmpty then missing else reason) 2
            return []

/-- The text of what a word stands for. -/
def expandText : (fuel : Nat) → Word → Running Text
  | 0, _ => return []
  | fuel + 1, w => do
      let home := (← get).value? "HOME".toList
      return Piece.text (← expand fuel (atHome home w))

/-- The fields of what words stand for. -/
def expandFields : (fuel : Nat) → List Word → Running (List Text)
  | 0, _ => return []
  | _ + 1, [] => return []
  | fuel + 1, w :: rest => do
      let home := (← get).value? "HOME".toList
      let pieces ← expand fuel (atHome home w)
      let separators := ((← get).value? "IFS".toList).getD []
      return Piece.fields separators pieces ++ (← expandFields fuel rest)

/-- What a script writes. -/
def outputOf : (fuel : Nat) → Text → Running (List UInt8)
  | 0, _ => return []
  | fuel + 1, script => do
      let n ← newPipe []
      inSubshell fuel do
        lead 1 (.pipe n)
        runSource fuel false { text := script, line := (← get).line }
      modify fun s => { s with substituted := some s.status }
      return ((← get).world.pipes[n]?.map Pipe.content).getD []

/-- Runs something in a subshell. -/
def inSubshell : (fuel : Nat) → Running Unit → Running Unit
  | 0, _ => return ()
  | fuel + 1, act => do
      let outer ← get
      set { outer with traps := outer.traps.filter fun t => t.2.isEmpty, pending := [], loops := 0 }
      act
      finish fuel
      let inner ← get
      let leaving :=
        match inner.leaving with
        | some (.killed signal) => some (Leaving.killed signal)
        | _ => none
      set { outer with world := inner.world, status := inner.status, leaving }

/-- Runs what is still to be run at the end of a shell. -/
def finish : (fuel : Nat) → Running Unit
  | 0 => return ()
  | fuel + 1 => do
      let s ← get
      match s.leaving, s.traps.lookup 0 with
      | some (.killed _), _ => return ()
      | _, some action =>
          set { s with leaving := none, traps := s.traps.filter fun t => t.1 != 0 }
          runSource fuel false { text := action }
          if (← get).leaving.isNone then setStatus s.status
      | _, none => return ()
      waitForAll fuel

/-- Runs the commands for which nobody has waited yet. -/
def waitForAll : (fuel : Nat) → Running Unit
  | 0 => return ()
  | fuel + 1 => do
      let s ← get
      match s.pending with
      | [] => return ()
      | (number, first) :: others =>
          set { s with pending := others }
          inSubshell fuel (run fuel false first)
          modify fun t => { t with ended := (number, t.status, []) :: t.ended, status := s.status }
          waitForAll fuel

/-- Runs the lines of a script. -/
def runSource : (fuel : Nat) → (isTested : Bool) → Source → Running Unit
  | 0, _, _ => return ()
  | fuel + 1, isTested, source => do
      if ← isLeaving then return ()
      match source.line? with
      | .ok none => return ()
      | .ok (some (n, rest)) =>
          run fuel isTested n
          runSource fuel isTested rest
      | .error fault =>
          modify fun s => { s with line := fault.line }
          die ("Syntax error: ".toList ++ fault.reason) 2

/-- Does what is to be done about a signal. -/
def handle : (fuel : Nat) → (signal : Nat) → Running Unit
  | 0, _ => return ()
  | fuel + 1, signal => do
      let action ← receive signal
      let status := (← get).status
      runSource fuel false { text := action }
      if !(← isLeaving) then setStatus status

/-- Runs a command.  If it is tested then its failure does not end the shell. -/
def run : (fuel : Nat) → (isTested : Bool) → Node → Running Unit
  | 0, _, _ => return ()
  | fuel + 1, isTested, n => do
      if ← isLeaving then return ()
      let checked (act : Running Unit) : Running Unit := do
        act
        let s ← get
        if s.stopsOnFailure && s.status != 0 && !isTested && s.leaving.isNone then goAway .exit
      match n with
      | .nothing => return ()
      | .simple line settings words redirects =>
          checked (runSimple fuel isTested line settings words redirects)
      | .pipeline negated stages =>
          if negated then
            runStages fuel stages
            modify fun s => { s with status := if s.status = 0 then 1 else 0 }
          else checked (runStages fuel stages)
      | .both first second =>
          run fuel true first
          if (← get).status = 0 then run fuel isTested second
      | .either first second =>
          run fuel true first
          if (← get).status != 0 then run fuel isTested second
      | .sequence first second =>
          run fuel isTested first
          run fuel isTested second
      | .subshell body => checked (inSubshell fuel (run fuel isTested body))
      | .background body =>
          modify fun s =>
            let number := s.lastBackground.getD s.number + 1
            { s with
              lastBackground := some number, pending := s.pending ++ [(number, body)], status := 0 }
      | .choice condition yes no =>
          run fuel true condition
          if ← isLeaving then return ()
          if (← get).status = 0 then run fuel isTested yes
          else
            setStatus 0
            run fuel isTested no
      | .loop isUntil condition body =>
          modify fun s => { s with loops := s.loops + 1 }
          runLoop fuel isTested isUntil condition body 0
          modify fun s => { s with loops := s.loops - 1 }
      | .each name words body =>
          let values ←
            match words with
            | some ws => expandFields fuel ws
            | none => pure (← get).arguments
          if ← isLeaving then return ()
          modify fun s => { s with loops := s.loops + 1, status := 0 }
          runEach fuel isTested name body values
          modify fun s => { s with loops := s.loops - 1 }
      | .select subject branches =>
          let text ← expandText fuel subject
          setStatus 0
          runBranches fuel isTested text branches
      | .define name body =>
          modify fun s =>
            { s with
              functions := (name, body) :: s.functions.filter fun f => f.1 != name, status := 0 }
      | .redirected body redirects =>
          let streams := (← get).streams
          if ← redirectAll fuel redirects then run fuel isTested body else setStatus 2
          restoreStreams streams

/-- Whether a loop ends after a round, which may have been left. -/
def endsLoop : (fuel : Nat) → Running Bool
  | 0 => return true
  | _ + 1 => do
      let s ← get
      match s.leaving with
      | none => return false
      | some (.loops n) =>
          set { s with leaving := if n ≤ 1 then none else some (.loops (n - 1)) }
          return true
      | some (.round n) =>
          set { s with leaving := if n ≤ 1 then none else some (.round (n - 1)) }
          return 1 < n
      | some _ => return true

/-- Runs the rounds of a loop, whose code is that of the last body. -/
def runLoop : (fuel : Nat) → (isTested isUntil : Bool) → (condition body : Node) →
    (code : Nat) → Running Unit
  | 0, _, _, _, _, _ => return ()
  | fuel + 1, isTested, isUntil, condition, body, code => do
      run fuel true condition
      if ← endsLoop fuel then return ()
      if ((← get).status = 0) == isUntil then setStatus code
      else
        run fuel isTested body
        if ← endsLoop fuel then return ()
        runLoop fuel isTested isUntil condition body (← get).status

/-- Runs the rounds of a loop over values. -/
def runEach : (fuel : Nat) → (isTested : Bool) → (name : Text) → (body : Node) →
    List Text → Running Unit
  | 0, _, _, _, _ => return ()
  | _ + 1, _, _, _, [] => return ()
  | fuel + 1, isTested, name, body, value :: rest => do
      let _ ← assign name value false
      run fuel isTested body
      if ← endsLoop fuel then return ()
      runEach fuel isTested name body rest

/-- Runs the first branch that has a pattern which a text matches. -/
def runBranches : (fuel : Nat) → (isTested : Bool) → Text → List (List Word × Node) →
    Running Unit
  | 0, _, _, _ => return ()
  | _ + 1, _, _, [] => return ()
  | fuel + 1, isTested, text, (patterns, body) :: rest => do
      if ← matchesAny fuel text patterns then run fuel isTested body
      else runBranches fuel isTested text rest

/-- Whether a text matches one of some patterns. -/
def matchesAny : (fuel : Nat) → Text → List Word → Running Bool
  | 0, _, _ => return false
  | _ + 1, _, [] => return false
  | fuel + 1, text, w :: rest => do
      let pattern := Pattern.ofChars (Piece.pattern (← expand fuel w))
      if Pattern.accepts pattern text then return true else matchesAny fuel text rest

/-- Runs commands, each on the output of the one before. -/
def runStages : (fuel : Nat) → List Node → Running Unit
  | 0, _ => return ()
  | _ + 1, [] => return ()
  | fuel + 1, [last] => inSubshell fuel (run fuel false last)
  | fuel + 1, first :: others => do
      let streams := (← get).streams
      let n ← newPipe []
      inSubshell fuel do
        lead 1 (.pipe n)
        run fuel false first
      if ← isLeaving then return ()
      lead 0 (.pipe n)
      runStages fuel others
      restoreStreams streams

/-- Makes redirections, and tells whether all of them could be made. -/
def redirectAll : (fuel : Nat) → List Redirect → Running Bool
  | 0, _ => return false
  | _ + 1, [] => return true
  | fuel + 1, r :: rest => do
      let made ←
        match r.target with
        | .input file => do redirectInput r.stream (← expandText fuel file)
        | .output file append => do redirectOutput r.stream (← expandText fuel file) append
        | .stream number => do redirectStream r.stream (← expandText fuel number)
        | .document body => do
            let n ← newPipe (Utf8.encode (Piece.text (← expand fuel body)))
            lead r.stream (.pipe n)
            pure true
      if made && !(← isLeaving) then redirectAll fuel rest else return false

/-- Sets parameters, and gives what they were before. -/
def assignAll : (fuel : Nat) → (exported : Bool) → List (Text × Word) →
    Running (List (Text × Option Setting))
  | 0, _, _ => return []
  | _ + 1, _, [] => return []
  | fuel + 1, exported, (name, w) :: rest => do
      let value ← expandText fuel w
      if ← isLeaving then return []
      let before := (← get).settings.lookup name
      let _ ← assign name value exported
      return (name, before) :: (← assignAll fuel exported rest)

/-- Runs a simple command. -/
def runSimple : (fuel : Nat) → (isTested : Bool) → (line : Nat) → List (Text × Word) →
    List Word → List Redirect → Running Unit
  | 0, _, _, _, _, _ => return ()
  | fuel + 1, isTested, line, settings, words, redirects => do
      modify fun s => { s with line, substituted := none }
      let fields ← expandFields fuel words
      if ← isLeaving then return ()
      let streams := (← get).streams
      match fields with
      | [] =>
          let made ← redirectAll fuel redirects
          if made then
            let before ← assignAll fuel false settings
            trace (before.map Prod.fst) []
            if !(← isLeaving) then setStatus ((← get).substituted.getD 0)
          else setStatus 2
          restoreStreams streams
      | name :: arguments =>
          let isSpecial := specialCommands.contains (String.ofList name)
          if ← redirectAll fuel redirects then
            let before ← assignAll fuel true settings
            trace (before.map Prod.fst) fields
            if !(← isLeaving) then invoke fuel isTested name arguments
            if !isSpecial then restoreAll before
          else
            setStatus 2
            if isSpecial then goAway .exit
          if !(name = "exec".toList && arguments.isEmpty) then restoreStreams streams

/-- Runs a function, a command of the shell, or a program. -/
def invoke : (fuel : Nat) → (isTested : Bool) → (name : Text) → (arguments : List Text) →
    Running Unit
  | 0, _, _, _ => return ()
  | fuel + 1, isTested, name, arguments => do
      let s ← get
      let isSpecial := specialCommands.contains (String.ofList name)
      match (if isSpecial then none else s.functions.lookup name) with
      | some body =>
          set { s with arguments, saved := [] :: s.saved, loops := 0 }
          run fuel isTested body
          restoreAll ((← get).saved.headD [])
          modify fun t =>
            { t with
              arguments := s.arguments, saved := s.saved, loops := s.loops
              leaving := if t.leaving = some .function then none else t.leaving }
      | none =>
          if isSpecial || ownCommands.contains (String.ofList name) then
            runOwn fuel isTested name arguments
          else runProgram fuel name arguments

/-- Runs a command of the shell. -/
def runOwn : (fuel : Nat) → (isTested : Bool) → (name : Text) → (arguments : List Text) →
    Running Unit
  | 0, _, _, _ => return ()
  | fuel + 1, isTested, name, arguments => do
      let s ← get
      let about (reason : Text) : Text :=
        s.name ++ ": ".toList ++ Text.ofNat s.line ++ ": ".toList ++ name ++ ": ".toList ++ reason
      let answering (arguments : List Text) : Running Unit := do
        match Condition.answer (kindOf s.world) arguments with
        | .ok answer => setStatus (if answer then 0 else 1)
        | .error fault => fail (name ++ ": ".toList ++ fault.message) 2
      match String.ofList name with
      | ":" | "true" => setStatus 0
      | "false" => setStatus 1
      | "echo" => settle (Tool.echo Tool.echoOptions .shell arguments)
      | "printf" => settle (Tool.print .shell about arguments)
      | "test" => answering arguments
      | "[" =>
          if arguments.getLast? = some [']'] then answering arguments.dropLast
          else fail "[: missing ]".toList 2
      | "cd" => cdCommand arguments
      | "pwd" =>
          writeText 1 (s.directory ++ ['\n'])
          setStatus 0
      | "read" => readCommand arguments
      | "local" => localCommand arguments
      | "export" => declareCommand true false (arguments.filter (· != ['-', 'p']))
      | "readonly" => declareCommand false true (arguments.filter (· != ['-', 'p']))
      | "unset" => unsetCommand arguments
      | "set" => setCommand arguments
      | "shift" => shiftCommand arguments
      | "exit" => leaveCommand "exit" .exit arguments
      | "return" => leaveCommand "return" .function arguments
      | "break" => loopCommand "break" .loops arguments
      | "continue" => loopCommand "continue" .round arguments
      | "trap" => trapCommand arguments
      | "type" => describe true arguments
      | "eval" =>
          if arguments.all List.isEmpty then setStatus 0
          else runSource fuel isTested { text := Text.join [' '] arguments, line := s.line }
      | "exec" =>
          if let program :: others := arguments then
            if isProgram program then
              runProgram fuel program others
              if (← get).leaving.isNone then goAway .exit
            else die ("exec: ".toList ++ program ++ ": not found".toList) 127
          else setStatus 0
      | "." =>
          match arguments with
          | [] => setStatus 0
          | file :: _ =>
              match file.elem '/', contents s.world file with
              | false, _ => die (".: ".toList ++ file ++ ": not found".toList) 2
              | true, .ok bytes => runSource fuel isTested { text := Utf8.decodeLossy bytes }
              | true, .error _ =>
                  die (".: cannot open ".toList ++ file ++ ": No such file".toList) 2
      | "command" =>
          match arguments with
          | ['-', 'v'] :: names => describe false names
          | ['-', 'V'] :: names => describe true names
          | program :: others =>
              let n := String.ofList program
              if specialCommands.contains n || ownCommands.contains n then
                runOwn fuel isTested program others
              else runProgram fuel program others
          | [] => setStatus 0
      | "umask" =>
          settle (if arguments.isEmpty then .ofText "0022\n".toList else {})
      | "wait" =>
          waitForAll fuel
          setStatus 0
          for number in arguments do
            let ended := (← get).ended
            match (Tool.count? number).bind fun n => ended.lookup n with
            | some (code, notice) =>
                writeText 2 notice
                setStatus code
            | none => setStatus 127
      | "kill" =>
          match killTarget arguments with
          | none =>
              fail ("kill: Illegal option ".toList ++ (arguments.headD []).take 2) 2
          | some (_, []) =>
              fail
                ("kill: Usage: kill [-s sigspec | -signum | -sigspec] [pid | job]... or\n" ++
                  "kill -l [exitstatus]").toList 2
          | some (signal, numbers) =>
              setStatus 0
              for number in numbers do
                if number = Text.ofNat s.number then handle fuel signal
                else
                  match (Tool.count? number).filter fun n => (s.pending.lookup n).isSome with
                  | none => fail "kill: No such process\n".toList 1
                  | some n =>
                      if !harmlessSignals.contains signal then
                        modify fun t =>
                          { t with
                            pending := t.pending.filter fun p => p.1 != n
                            ended := (n, 128 + signal, deathNotice signal) :: t.ended }
      | _ => setStatus 0

/-- Runs a program from a shell. -/
def runProgram : (fuel : Nat) → (name : Text) → (arguments : List Text) → Running Unit
  | 0, _, _ => return ()
  | fuel + 1, name, arguments => do
      if isProgram name then
        match ← launch fuel name arguments with
        | some signal =>
            writeText 2 (deathNotice signal)
            setStatus (128 + signal)
        | none => return ()
      else if name.elem '/' && kindOf (← get).world name != .nothing then
        fail (name ++ ": Permission denied".toList) 126
      else fail (name ++ ": not found".toList) 127

/-- Runs a program that is there, and tells which signal ended it if one did. -/
def launch : (fuel : Nat) → (name : Text) → (arguments : List Text) → Running (Option Nat)
  | 0, _, _ => return none
  | fuel + 1, name, arguments => do
      let s ← get
      let passOn (argv : List Text) : Running (Option Nat) := do
        match argv with
        | program :: others =>
            if isProgram program then launch fuel program others
            else
              settle (.failing
                (programName name ++ ": ".toList ++
                  (if programName name = "env".toList then '\'' :: program ++ ['\'']
                  else "failed to run command '".toList ++ program ++ ['\'']) ++
                  ": No such file or directory".toList) 127)
              return none
        | [] => return none
      match String.ofList (programName name) with
      | "sh" | "dash" | "bash" => startShell fuel (.ofArguments name [] arguments)
      | "env" =>
          let isSetting (a : Text) : Bool := ((Text.splitAt? '=' a).map Prod.fst).any isName
          let isBare := arguments.head? = some ['-', 'i']
          if isBare then modify fun t => { t with settings := [] }
          let arguments := if isBare then arguments.tail else arguments
          for a in arguments.takeWhile isSetting do
            if let some (n, value) := Text.splitAt? '=' a then
              let _ ← assign n value true
          match arguments.dropWhile isSetting with
          | [] =>
              let shown := (exportedSettings (← get)).reverse.flatMap fun p =>
                p.1 ++ '=' :: p.2.value ++ ['\n']
              settle (.ofText shown)
              modify fun t => { t with settings := s.settings }
              return none
          | argv =>
              let ended ← passOn argv
              modify fun t => { t with settings := s.settings }
              return ended
      | "timeout" =>
          match arguments with
          | [limit, program, interval] =>
              if programName program = "sleep".toList && Tool.exceeds limit interval then
                setStatus 124
                return none
              else passOn [program, interval]
          | _ => passOn arguments.tail
      | "nohup" => passOn arguments
      | "nice" => passOn (if arguments.head? = some ['-', 'n'] then arguments.drop 2 else arguments)
      | "xargs" =>
          let words := Text.words Arithmetic.isBlank (Utf8.decodeLossy (← available))
          leave []
          passOn ((if arguments.isEmpty then ["echo".toList] else arguments) ++ words)
      | "tee" =>
          let bytes ← available
          leave []
          let appends := arguments.head? = some ['-', 'a']
          for file in arguments.filter (· != ['-', 'a']) do
            if ← redirectOutput 9 file appends then write 9 bytes
          restoreStreams s.streams
          settle (.ofBytes bytes)
          return none
      | "mkdir" =>
          changeWorld fun w =>
            let made := arguments.filter fun a => a.head? != some '-'
            { w with directories := w.directories ++ made.map (Tool.trimSlashes ∘ pathName) }
          setStatus 0
          return none
      | "touch" =>
          for file in arguments do
            openFile file true
          setStatus 0
          return none
      | "rm" =>
          let silent := arguments.any fun a => a.head? = some '-' && a.elem 'f'
          setStatus 0
          for file in arguments.filter fun a => a.head? != some '-' do
            let w := (← get).world
            let p := pathName file
            if (w.files.lookup p).isSome || w.directories.contains (Tool.trimSlashes p) then
              changeWorld fun w =>
                { w with
                  files := w.files.filter fun f => f.1 != p
                  directories := w.directories.filter (· != Tool.trimSlashes p) }
            else if !silent then
              settle (.failing
                ("rm: cannot remove '".toList ++ file ++ "': No such file or directory".toList) 1)
          return none
      | "pwd" =>
          settle (.ofText (s.directory ++ ['\n']))
          return none
      | "ls" =>
          settle (listNames s.world arguments)
          return none
      | _ =>
          match Tool.run? (← supply) (programName name) arguments with
          | some e => settle e
          | none => setStatus 127
          return none

/-- Runs another shell, and tells which signal ended it if one did. -/
def startShell : (fuel : Nat) → Start → Running (Option Nat)
  | 0, _ => return none
  | fuel + 1, start => do
      let outer ← get
      set
        { outer with
          name := start.name
          number := outer.number + 1
          arguments := start.arguments
          settings := exportedSettings outer
          functions := [], traps := [], pending := [], ended := [], saved := [], loops := 0
          status := 0
          stopsOnFailure := false, isStrict := false, traces := false, line := 1 }
      if start.letters.elem 'c' && start.script.isNone then
        modify fun s => { s with line := 0 }
        die "-c requires an argument".toList 2
      let _ ← setOption true (start.letters.filter fun c => c == 'e' || c == 'u' || c == 'x')
      match start.script, start.file with
      | some script, _ => runSource fuel false { text := script }
      | none, some file =>
          match contents outer.world file with
          | .ok script => runSource fuel false { text := Utf8.decodeLossy script }
          | .error _ =>
              modify fun s => { s with name := outer.name, line := 0 }
              die ("cannot open ".toList ++ file ++ ": No such file".toList) 2
      | none, none =>
          let script ← available
          leave []
          runSource fuel false { text := Utf8.decodeLossy script }
      finish fuel
      let inner ← get
      let signal? :=
        match inner.leaving with
        | some (.killed signal) => some signal
        | _ => none
      set { outer with world := inner.world, status := inner.status }
      return signal?

end

end Shell
end Command
end TerminalDialogs
