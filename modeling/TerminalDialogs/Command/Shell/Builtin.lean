import TerminalDialogs.Command.Shell.Fields
import TerminalDialogs.Command.Shell.State

/-!
# What a shell does by itself

Some commands are part of the shell, since they read or change its state.  Those
of them that run no further commands are defined here.
-/

namespace TerminalDialogs
namespace Command
namespace Shell

/-- The commands whose mistakes end a shell that runs them. -/
def specialCommands : List String :=
  [".", ":", "break", "continue", "eval", "exec", "exit", "export", "readonly", "return", "set",
    "shift", "times", "trap", "unset"]

/-- The other commands that are part of a shell. -/
def ownCommands : List String :=
  ["true", "false", "echo", "printf", "test", "[", "cd", "pwd", "read", "local", "command", "type",
    "wait", "kill", "umask", "alias", "unalias", "bg", "fg", "jobs", "hash", "getopts", "ulimit"]

/-- The programs that are there. -/
def programNames : List String :=
  ["true", "false", "sleep", "echo", "printf", "cat", "head", "tail", "tac", "rev", "nl", "wc",
    "sort", "uniq", "tr", "cut", "seq", "yes", "basename", "dirname", "expr", "test", "[", "sh",
    "dash", "bash", "env", "timeout", "nohup", "nice", "xargs", "tee", "mkdir", "rm", "touch",
    "pwd", "ls"]

/-- The name of a program without the directory in which programs lie. -/
def programName (name : Text) : Text :=
  ((Text.after? "/bin/".toList name).or (Text.after? "/usr/bin/".toList name)).getD name

/-- Whether a program is there. -/
def isProgram (name : Text) : Bool := programNames.contains (String.ofList (programName name))

/-- The settings that another program gets. -/
def exportedSettings (s : Shell) : List (Text × Setting) := s.settings.filter fun p => p.2.exported

/-- What a tool leaves behind. -/
def settle (e : Effect) : Running Unit := do
  write 2 e.stderr
  write 1 e.stdout
  if e.reads then leave []
  setStatus e.code

/-- Shows names: those of files, and then what directories hold, under a heading
if more than one thing is asked for. -/
def listNames (w : World) (arguments : List Text) : Effect :=
  let asked := (Tool.options arguments).2
  let asked := if asked.isEmpty then [['.']] else asked.mergeSort fun a b => !decide (b < a)
  let missing := asked.filter fun p => kindOf w p == .nothing
  let directories := asked.filter fun p => kindOf w p == .directory
  let others := asked.filter fun p => !missing.contains p && !directories.contains p
  let complaint (p : Text) : Text :=
    "ls: cannot access '".toList ++ p ++ "': No such file or directory\n".toList
  let names (p : Text) : Text :=
    (if asked.length ≤ 1 then [] else p ++ [':', '\n']) ++
      (namesIn w p).flatMap fun n => n ++ ['\n']
  let parts := (if others.isEmpty then [] else [others.flatMap fun p => p ++ ['\n']]) ++
    directories.map names
  { stdout := Utf8.encode (Text.join ['\n'] parts)
    stderr := Utf8.encode (missing.flatMap complaint)
    code := if missing.isEmpty then 0 else 2 }

/-- Reads a line: the characters, and whether each one stands for itself.  A
backslash takes the meaning of the next character, and joins lines. -/
def readLine (raw : Bool) : (fuel : Nat) → Text → List Piece × Text × Bool
  | 0, s => ([], s, false)
  | _ + 1, [] => ([], [], false)
  | _ + 1, '\n' :: rest => ([], rest, true)
  | fuel + 1, c :: rest =>
      if c = '\\' && !raw then
        match rest with
        | '\n' :: rest => readLine raw fuel rest
        | d :: rest =>
            let (line, behind, ended) := readLine raw fuel rest
            (.char d true false :: line, behind, ended)
        | [] => ([], [], false)
      else
        let (line, behind, ended) := readLine raw fuel rest
        (.char c false true :: line, behind, ended)

/-- Whether a piece is a blank that separates. -/
def isSeparatingBlank (separators : Text) : Piece → Bool
  | .char c _ splits => splits && separators.elem c && (c == ' ' || c == '\t' || c == '\n')
  | _ => false

/-- Whether a piece separates. -/
def isSeparator (separators : Text) : Piece → Bool
  | .char c _ splits => splits && separators.elem c
  | _ => false

/-- Gives each name a field of a line, and the last name all that is left. -/
def distribute (separators : Text) : List Text → List Piece → List (Text × Text)
  | [], _ => []
  | [name], line =>
      let blank := isSeparatingBlank separators
      [(name, Piece.text (((line.dropWhile blank).reverse.dropWhile blank).reverse))]
  | name :: names, line =>
      let line := line.dropWhile (isSeparatingBlank separators)
      let field := line.takeWhile fun p => !isSeparator separators p
      let rest := (line.drop field.length).dropWhile (isSeparatingBlank separators)
      let skipped := line.drop field.length
      let rest :=
        if (skipped.head?.map (isSeparatingBlank separators)).getD true then
          match rest with
          | p :: others => if isSeparator separators p then others else rest
          | [] => []
        else skipped.tail
      (name, Piece.text field) :: distribute separators names rest

/-- Reads a line and cuts it. -/
def readCommand (arguments : List Text) : Running Unit := do
  let raw := arguments.contains ['-', 'r']
  let names := arguments.filter fun a => a.head? != some '-'
  if names.isEmpty then
    fail "read: arg count".toList 2
    return ()
  let s ← get
  let bytes ← available
  let text := Utf8.decodeLossy bytes
  let (line, rest, ended) := readLine raw (text.length + 1) text
  leave (bytes.drop (bytes.length - (Utf8.encode rest).length))
  let separators := (s.value? "IFS".toList).getD []
  for (name, value) in distribute separators names line do
    let _ ← assign name value false
  setStatus (if ended then 0 else 1)

/-- Gets a signal, and gives what is to be done about it. -/
def receive (signal : Nat) : Running Text := do
  match (← get).traps.lookup signal with
  | some action =>
      if signal = 9 then goAway (.killed 9)
      return if signal = 9 then [] else action
  | none =>
      if !harmlessSignals.contains signal then goAway (.killed signal)
      return []

/-- The signal that arguments ask for, and the shells that are to get it. -/
def killTarget : List Text → Option (Nat × List Text)
  | ['-', 's'] :: name :: numbers => (signal? name).map (·, numbers)
  | ['-', '-'] :: numbers => some (15, numbers)
  | ('-' :: name) :: numbers => (signal? name).map (·, numbers)
  | numbers => some (15, numbers)

/-- Changes how a shell runs by the letters of an option. -/
def setOption (on : Bool) (letters : Text) : Running Bool := do
  let known := "euxhmnvfaCb".toList
  match letters.find? fun c => !known.contains c with
  | some c =>
      die ("set: Illegal option ".toList ++ [if on then '-' else '+', c]) 2
      return false
  | none =>
      modify fun s =>
        { s with
          stopsOnFailure := if letters.elem 'e' then on else s.stopsOnFailure
          isStrict := if letters.elem 'u' then on else s.isStrict
          traces := if letters.elem 'x' then on else s.traces }
      return true

/-- Changes how a shell runs, or its arguments. -/
def setCommand : List Text → Running Unit
  | [] => setStatus 0
  | ['-', '-'] :: arguments => do
      modify fun s => { s with arguments }
      setStatus 0
  | (sign :: c :: letters) :: rest => do
      if sign = '-' || sign = '+' then
        if c = 'o' && letters.isEmpty then
          let named := [("errexit", 'e'), ("nounset", 'u'), ("xtrace", 'x')]
          match named.lookup (String.ofList (rest.headD [])) with
          | some c =>
              if ← setOption (sign == '-') [c] then setCommand rest.tail
          | none => die ("set: Illegal option ".toList ++ [sign, 'o', ' '] ++ rest.headD []) 2
        else if ← setOption (sign == '-') (c :: letters) then setCommand rest
      else
        modify fun s => { s with arguments := (sign :: c :: letters) :: rest }
        setStatus 0
  | arguments => do
      modify fun s => { s with arguments }
      setStatus 0
termination_by arguments => arguments.length
decreasing_by all_goals (simp_wf; try omega)

/-- Sets what is done about signals. -/
def trapCommand (arguments : List Text) : Running Unit := do
  setStatus 0
  let (action, names) :=
    match arguments with
    | ['-', '-'] :: action :: names => (action, names)
    | [name] => (['-'], [name])
    | action :: names => (action, names)
    | [] => ([], [])
  for name in names do
    match signal? name with
    | some n =>
        modify fun s =>
          let others := s.traps.filter fun t => t.1 != n
          { s with traps := if action = ['-'] then others else (n, action) :: others }
    | none => fail ("trap: ".toList ++ name ++ ": bad trap".toList) 1

/-- The number that an argument of a command is, or a complaint. -/
def numeral? (command : String) (argument : Text) : Running (Option Nat) := do
  match Tool.count? argument with
  | some n => return some n
  | none =>
      die (command.toList ++ ": Illegal number: ".toList ++ argument) 2
      return none

/-- Goes to the next arguments. -/
def shiftCommand (arguments : List Text) : Running Unit := do
  match ← numeral? "shift" (arguments.headD ['1']) with
  | none => return ()
  | some n =>
      let s ← get
      if s.arguments.length < n then die "shift: can't shift that many".toList 2
      else
        set { s with arguments := s.arguments.drop n }
        setStatus 0

/-- Leaves with a code, which is that of the last command unless it is given. -/
def leaveCommand (command : String) (l : Leaving) (arguments : List Text) : Running Unit := do
  match arguments with
  | [] => goAway l
  | a :: _ =>
      match ← numeral? command a with
      | none => return ()
      | some n =>
          setStatus (n % 256)
          goAway l

/-- Leaves loops. -/
def loopCommand (command : String) (l : Nat → Leaving) (arguments : List Text) :
    Running Unit := do
  match ← numeral? command (arguments.headD ['1']) with
  | none => return ()
  | some 0 => die (command.toList ++ ": Illegal number: 0".toList) 2
  | some n =>
      setStatus 0
      let loops := (← get).loops
      if 0 < loops then goAway (l (min n loops))

/-- Sets parameters, with or without exporting or fixing them. -/
def declareCommand (exported fixed : Bool) (arguments : List Text) : Running Unit := do
  setStatus 0
  for a in arguments do
    let (name, value?) :=
      match Text.splitAt? '=' a with
      | some (name, value) => (name, some value)
      | none => (a, none)
    if !isName name then
      die ((if exported then "export: ".toList else "readonly: ".toList) ++ name ++
        ": bad variable name".toList) 2
      return ()
    let before := (← get).settings.lookup name
    let allowed ←
      match value? with
      | some value => assign name value exported
      | none => pure true
    if !allowed then return ()
    let now := ((← get).settings.lookup name).or (if fixed then some { value := [] } else none)
    if let some setting := now then
      if value?.isSome || before.isSome || fixed then
        restore name (some
          { setting with
            exported := setting.exported || exported, fixed := setting.fixed || fixed })

/-- Removes parameters or functions. -/
def unsetCommand (arguments : List Text) : Running Unit := do
  setStatus 0
  let functions := arguments.head? = some ['-', 'f']
  for name in arguments.filter fun a => a.head? != some '-' do
    if functions then
      modify fun s => { s with functions := s.functions.filter fun f => f.1 != name }
    else if (((← get).settings.lookup name).map Setting.fixed).getD false then
      die ("unset: ".toList ++ name ++ ": is read only".toList) 2
      return ()
    else restore name none

/-- Sets parameters that get their settings back when the function ends. -/
def localCommand (arguments : List Text) : Running Unit := do
  setStatus 0
  if (← get).saved.isEmpty then
    die "local: not in a function".toList 2
    return ()
  for a in arguments do
    let (name, value?) :=
      match Text.splitAt? '=' a with
      | some (name, value) => (name, some value)
      | none => (a, none)
    let before := (← get).settings.lookup name
    modify fun s =>
      { s with
        saved :=
          match s.saved with
          | frame :: others => ((name, before) :: frame) :: others
          | [] => [] }
    if let some value := value? then
      let _ ← assign name value false

/-- Goes to another directory. -/
def cdCommand (arguments : List Text) : Running Unit := do
  let s ← get
  let target := arguments.headD ((s.value? "HOME".toList).getD ['/'])
  if isDirectory s.world target then
    let path :=
      if target = ['.'] then s.directory
      else if target = ['.', '.'] then Tool.directoryName s.directory
      else if target.head? = some '/' then Tool.trimSlashes target
      else (if s.directory = ['/'] then [] else s.directory) ++ '/' :: Tool.trimSlashes target
    set { s with directory := path }
    setStatus 0
  else fail ("cd: can't cd to ".toList ++ target) 2

/-- Tells what commands are. -/
def describe (verbose : Bool) (arguments : List Text) : Running Unit := do
  let s ← get
  setStatus 0
  for name in if verbose then arguments else arguments.take 1 do
    let n := String.ofList name
    let line? : Option Text :=
      if (s.functions.lookup name).isSome then
        some (name ++ if verbose then " is a shell function".toList else [])
      else if specialCommands.contains n then
        some (name ++ if verbose then " is a special shell builtin".toList else [])
      else if ownCommands.contains n then
        some (name ++ if verbose then " is a shell builtin".toList else [])
      else if (Source.closingWords ++ Source.openingWords).contains name then
        some (name ++ if verbose then " is a shell keyword".toList else [])
      else if isProgram name then
        let path := "/usr/bin/".toList ++ programName name
        some (if verbose then name ++ " is ".toList ++ path else path)
      else none
    match line? with
    | some line => writeText 1 (line ++ ['
'])
    | none =>
        if verbose then writeText 1 (name ++ ": not found
".toList)
        setStatus 127

end Shell
end Command
end TerminalDialogs
