import TerminalDialogs.Command.Word

/-!
# Scripts

A script is read line by line.  A line is made of commands, which are joined by
operators and nested by reserved words; and a command is made of words and
redirections.  A line that cannot be read is a fault of the script, but only
when its turn comes: the lines before it have run by then.

Reading recurses on `fuel`, for which a small multiple of the length of the text
is enough, since no command is empty.
-/

namespace TerminalDialogs
namespace Command

/-- What a stream is redirected to. -/
inductive Target where
  /-- A file that is read. -/
  | input (file : Word)
  /-- A file that is written, from its start or from its end. -/
  | output (file : Word) (append : Bool)
  /-- What another stream goes to. -/
  | stream (number : Word)
  /-- A text that is read. -/
  | document (body : Word)
  deriving DecidableEq, Repr

/-- A redirection of a stream. -/
structure Redirect where
  stream : Nat
  target : Target
  deriving DecidableEq, Repr

/-- A command. -/
inductive Node where
  | nothing
  | simple (line : Nat) (settings : List (Text × Word)) (words : List Word)
      (redirects : List Redirect)
  | pipeline (negated : Bool) (commands : List Node)
  /-- The second one runs if the first one succeeds. -/
  | both (first second : Node)
  /-- The second one runs if the first one fails. -/
  | either (first second : Node)
  | sequence (first second : Node)
  | subshell (body : Node)
  /-- A command for which nobody waits. -/
  | background (body : Node)
  | choice (condition yes no : Node)
  | loop (isUntil : Bool) (condition body : Node)
  | each (name : Text) (words : Option (List Word)) (body : Node)
  | select (subject : Word) (branches : List (List Word × Node))
  | define (name : Text) (body : Node)
  | redirected (body : Node) (redirects : List Redirect)
  deriving Inhabited

/-- A text that is being read. -/
structure Source where
  text : Text
  line : Nat := 1
  deriving DecidableEq, Repr

/-- Why a script cannot be read. -/
structure SyntaxFault where
  reason : Text
  line : Nat
  deriving DecidableEq, Repr

/-! ## Sources -/

namespace Source

/-- The source behind some characters. -/
def drop (s : Source) (n : Nat) : Source :=
  { text := s.text.drop n, line := s.line + (s.text.take n).count '\n' }

/-- Goes past blanks, comments and joined lines. -/
def skipBlanks : (fuel : Nat) → Source → Source
  | 0, s => s
  | fuel + 1, s =>
      match s.text with
      | ' ' :: rest => skipBlanks fuel { s with text := rest }
      | '\t' :: rest => skipBlanks fuel { s with text := rest }
      | '\\' :: '\n' :: rest => skipBlanks fuel { text := rest, line := s.line + 1 }
      | '#' :: rest => { s with text := rest.dropWhile (· != '\n') }
      | _ => s

/-- Goes past blanks. -/
def blanks (s : Source) : Source := skipBlanks (s.text.length + 1) s

/-- Goes past blanks and line feeds. -/
def skipLines : (fuel : Nat) → Source → Source
  | 0, s => s
  | fuel + 1, s =>
      let s := s.blanks
      match s.text with
      | '\n' :: rest => skipLines fuel { text := rest, line := s.line + 1 }
      | _ => s

/-- Goes past blanks and line feeds. -/
def lines (s : Source) : Source := skipLines (s.text.length + 1) s

/-- Whether the text goes on in a given way. -/
def startsWith (s : Source) (front : String) : Bool := front.toList.isPrefixOf s.text

/-- The next word, if it is made of plain characters only. -/
def nextPlain (s : Source) : Text :=
  let word := s.text.takeWhile fun c => !isMeta c
  if word.any "'\"\\$\x60".toList.contains then [] else word

/-- The words that end a list of commands. -/
def closingWords : List Text :=
  ["then", "else", "elif", "fi", "do", "done", "esac", "\x7d"].map String.toList

/-- The words that begin or join commands. -/
def openingWords : List Text :=
  ["if", "while", "until", "for", "case", "in", "!", "\x7b"].map String.toList

/-- How the next lexeme is called in a complaint. -/
def nextName (s : Source) : Text :=
  let mark (t : Text) : Text := ['"'] ++ t ++ ['"']
  match s.text with
  | [] => "end of file".toList
  | '\n' :: _ => "newline".toList
  | c :: rest =>
      if "&|;".toList.contains c && rest.head? = some c then mark [c, c]
      else if c = '<' || c = '>' then "redirection".toList
      else if isMeta c then mark [c]
      else if (closingWords ++ openingWords).contains s.nextPlain then mark s.nextPlain
      else "word".toList

/-- Whether a list of commands ends here. -/
def atEnd (s : Source) : Bool :=
  match s.text with
  | [] => true
  | ')' :: _ => true
  | ';' :: ';' :: _ => true
  | _ => closingWords.contains s.nextPlain

end Source

/-! ## Reading -/

/-- Reading from a source. -/
abbrev Reading := StateT Source (Except SyntaxFault)

namespace Reading

/-- Goes past some characters. -/
def skip (n : Nat) : Reading Unit := modify (·.drop n)

/-- Goes past blanks. -/
def blanks : Reading Unit := modify Source.blanks

/-- Goes past blanks and line feeds. -/
def lines : Reading Unit := modify Source.lines

/-- Whether the text goes on in a given way. -/
def nextIs (front : String) : Reading Bool := return (← get).startsWith front

/-- A fault at this place. -/
def fault {α : Type} (reason : Text) : Reading α := do
  throw ⟨reason, (← get).line⟩

/-- The fault of a lexeme that nobody expects. -/
def unexpected {α : Type} (expecting : String) : Reading α := do
  let hint :=
    if expecting.isEmpty then []
    else " (expecting \"".toList ++ expecting.toList ++ "\")".toList
  fault ((← get).nextName ++ " unexpected".toList ++ hint)

/-- Goes past something that must come next. -/
def expect (front : String) : Reading Unit := do
  if ← nextIs front then skip front.length else unexpected front

/-- Goes past something that may come next, and tells whether it did. -/
def accept (front : String) : Reading Bool := do
  if ← nextIs front then
    skip front.length
    return true
  return false

/-- Goes past a reserved word. -/
def reserved (name : String) : Reading Unit := do
  lines
  if (← get).nextPlain = name.toList then skip name.length else unexpected name

/-- Reads a word, which is empty if none comes next. -/
def word : Reading Word := do
  blanks
  let s ← get
  match readParts .word (s.text.length + 1) false [] s.text with
  | .ok (parts, rest) =>
      skip (s.text.length - rest.length)
      return parts
  | .error unclosed => fault unclosed.message

/-- Reads words. -/
def words : (fuel : Nat) → Reading (List Word)
  | 0 => return []
  | fuel + 1 => do
      let w ← word
      if w.isEmpty then return []
      return w :: (← words fuel)

/-! ## Redirections -/

/-- The lines of a document up to its delimiter, and the lines behind it.  All
but a last line without its delimiter end with a line feed. -/
def cutDocument (delimiter : Text) (stripTabs : Bool) : List Text → Text × List Text
  | [] => ([], [])
  | line :: lines =>
      let line := if stripTabs then line.dropWhile (· == '\t') else line
      if line = delimiter then ([], lines)
      else
        let (body, rest) := cutDocument delimiter stripTabs lines
        (line ++ (if lines.isEmpty then [] else ['\n']) ++ body, rest)

/-- Takes a document out of the text.  Its body stands behind the present
line. -/
def document (delimiter : Word) (stripTabs : Bool) : Reading Word := do
  let s ← get
  let here := s.text.takeWhile (· != '\n')
  let behind := s.text.drop (here.length + 1)
  let (text, rest) := cutDocument (wordText delimiter) stripTabs (Text.rows behind)
  set { s with text := here ++ if rest.isEmpty then [] else '\n' :: Text.unrows rest }
  if (plainWord? delimiter).isSome then return wholeParts .document text
  return text.map fun c => Part.char c true

/-- Reads the redirection of a stream whose number has been read, if a number
was there. -/
def redirect (number : Option Nat) : Reading Redirect := do
  let target : Reading Word := do
    let w ← word
    if w.isEmpty then unexpected "" else return w
  let writing (append : Bool) : Reading Redirect := do
    return ⟨number.getD 1, .output (← target) append⟩
  if ← accept ">>" then writing true
  else if ← accept ">&" then return ⟨number.getD 1, .stream (← target)⟩
  else if ← accept ">|" then writing false
  else if ← accept ">" then writing false
  else if ← accept "<<" then
    let stripTabs ← accept "-"
    return ⟨number.getD 0, .document (← document (← target) stripTabs)⟩
  else if ← accept "<&" then return ⟨number.getD 0, .stream (← target)⟩
  else
    skip 1
    return ⟨number.getD 0, .input (← target)⟩

/-- Reads the redirection that comes next, if one does. -/
def redirect? : Reading (Option Redirect) := do
  blanks
  let isArrow (c : Char) : Bool := c == '<' || c == '>'
  match (← get).text with
  | c :: rest =>
      if isArrow c then return some (← redirect none)
      else if c.isDigit && (rest.head?.map isArrow).getD false then
        skip 1
        return some (← redirect (some (c.toNat - '0'.toNat)))
      else return none
  | [] => return none

/-- Reads redirections. -/
def redirects : (fuel : Nat) → Reading (List Redirect)
  | 0 => return []
  | fuel + 1 => do
      match ← redirect? with
      | some r => return r :: (← redirects fuel)
      | none => return []

/-! ## Commands -/

/-- The setting that a word is, if it is one. -/
def setting? (w : Word) : Option (Text × Word) :=
  let front := w.takeWhile fun part => part != .char '=' false
  match plainWord? front with
  | some name =>
      if isName name && front.length < w.length then some (name, w.drop (front.length + 1))
      else none
  | none => none

/-- Reads the rest of a simple command. -/
def simple (line : Nat) : (fuel : Nat) → List (Text × Word) → List Word → List Redirect →
    Reading Node
  | 0, settings, words, redirects => return .simple line settings words redirects
  | fuel + 1, settings, words, redirects => do
      match ← redirect? with
      | some r => simple line fuel settings words (redirects ++ [r])
      | none =>
          let w ← word
          if w.isEmpty then return .simple line settings words redirects
          match setting? w, words with
          | some setting, [] => simple line fuel (settings ++ [setting]) words redirects
          | _, _ => simple line fuel settings (words ++ [w]) redirects

/-- Reads the patterns of a branch. -/
def patterns : (fuel : Nat) → Reading (List Word)
  | 0 => return []
  | fuel + 1 => do
      let w ← word
      blanks
      if ← accept "|" then return w :: (← patterns fuel)
      expect ")"
      return [w]

/-- How far a list of commands goes. -/
inductive Extent where
  /-- Up to the end of the line. -/
  | line
  /-- Up to a closing word, with at least one command. -/
  | body
  /-- Up to a closing word. -/
  | branch
  deriving DecidableEq, Repr

mutual

/-- Reads a list of commands. -/
def list : (fuel : Nat) → Extent → Reading Node
  | 0, _ => return .nothing
  | fuel + 1, extent => do
      if extent = .line then blanks else lines
      let s ← get
      if s.atEnd || (extent = .line && s.startsWith "\n") then
        if extent = .body && !s.text.isEmpty then unexpected "" else return .nothing
      else
        let first ← joined fuel
        blanks
        let others := if extent = .line then Extent.line else .branch
        if ← nextIs ";;" then return first
        else if ← accept ";" then return .sequence first (← list fuel others)
        else if ← accept "&" then return .sequence (.background first) (← list fuel others)
        else if extent != .line && (← nextIs "\n") then
          return .sequence first (← list fuel others)
        else return first

/-- Reads commands that are joined by success and failure. -/
def joined : (fuel : Nat) → Reading Node
  | 0 => return .nothing
  | fuel + 1 => do joinedFrom fuel (← pipeline fuel)

/-- Goes on behind the first of joined commands. -/
def joinedFrom : (fuel : Nat) → Node → Reading Node
  | 0, first => return first
  | fuel + 1, first => do
      blanks
      if ← accept "&&" then
        lines
        joinedFrom fuel (.both first (← pipeline fuel))
      else if ← accept "||" then
        lines
        joinedFrom fuel (.either first (← pipeline fuel))
      else return first

/-- Reads a pipeline. -/
def pipeline : (fuel : Nat) → Reading Node
  | 0 => return .nothing
  | fuel + 1 => do
      blanks
      if (← get).nextPlain = ['!'] then
        skip 1
        return .pipeline true (← stages fuel)
      match ← stages fuel with
      | [one] => return one
      | several => return .pipeline false several

/-- Reads the commands of a pipeline. -/
def stages : (fuel : Nat) → Reading (List Node)
  | 0 => return []
  | fuel + 1 => do
      let first ← command fuel
      blanks
      if ← nextIs "||" then return [first]
      else if ← accept "|" then
        lines
        return first :: (← stages fuel)
      else return [first]

/-- Reads a command. -/
def command : (fuel : Nat) → Reading Node
  | 0 => return .nothing
  | fuel + 1 => do
      blanks
      let s ← get
      let compound (body : Reading Node) : Reading Node := do
        let n ← body
        match ← redirects (s.text.length + 1) with
        | [] => return n
        | rs => return .redirected n rs
      if ← accept "(" then
        compound do
          let body ← list fuel .body
          expect ")"
          return .subshell body
      else
        let name := s.nextPlain
        match String.ofList name with
        | "\x7b" =>
            compound do
              skip 1
              let body ← list fuel .body
              reserved "\x7d"
              return body
        | "if" => compound do skip 2; choice fuel
        | "while" => compound do skip 5; loop fuel false
        | "until" => compound do skip 5; loop fuel true
        | "for" => compound do skip 3; each fuel
        | "case" => compound do skip 4; select fuel
        | _ =>
            if Source.closingWords.contains name then unexpected ""
            else
              let behind := (s.drop name.length).blanks
              if isName name && behind.startsWith "(" then
                set (behind.drop 1)
                blanks
                if !(← get).nextPlain.isEmpty then
                  fault "word unexpected (expecting \")\")".toList
                else
                  expect ")"
                  lines
                  return .define name (← command fuel)
              else
                match ← simple s.line (s.text.length + 1) [] [] [] with
                | .simple _ [] [] [] => unexpected ""
                | n => if ← nextIs "(" then unexpected "" else return n

/-- Reads a choice behind its first word. -/
def choice : (fuel : Nat) → Reading Node
  | 0 => return .nothing
  | fuel + 1 => do
      let condition ← list fuel .body
      reserved "then"
      let yes ← list fuel .body
      match String.ofList (← get).nextPlain with
      | "elif" =>
          skip 4
          return .choice condition yes (← choice fuel)
      | "else" =>
          skip 4
          let no ← list fuel .body
          reserved "fi"
          return .choice condition yes no
      | _ =>
          reserved "fi"
          return .choice condition yes .nothing

/-- Reads a loop behind its first word. -/
def loop : (fuel : Nat) → (isUntil : Bool) → Reading Node
  | 0, _ => return .nothing
  | fuel + 1, isUntil => do
      let condition ← list fuel .body
      return .loop isUntil condition (← body fuel)

/-- Reads the body of a loop. -/
def body : (fuel : Nat) → Reading Node
  | 0 => return .nothing
  | fuel + 1 => do
      reserved "do"
      let n ← list fuel .body
      reserved "done"
      return n

/-- Reads a loop over words behind its first word. -/
def each : (fuel : Nat) → Reading Node
  | 0 => return .nothing
  | fuel + 1 => do
      blanks
      let name := (← get).nextPlain
      if !isName name then fault "Bad for loop variable".toList
      else
        skip name.length
        lines
        if (← get).nextPlain = "in".toList then
          skip 2
          let ws ← words ((← get).text.length + 1)
          blanks
          if !(← accept ";") && !(← nextIs "\n") then unexpected ""
          else return .each name (some ws) (← body fuel)
        else
          let _ ← accept ";"
          return .each name none (← body fuel)

/-- Reads a choice among patterns behind its first word. -/
def select : (fuel : Nat) → Reading Node
  | 0 => return .nothing
  | fuel + 1 => do
      let subject ← word
      if subject.isEmpty then unexpected ""
      else
        reserved "in"
        return .select subject (← branches fuel)

/-- Reads branches up to the word that ends them. -/
def branches : (fuel : Nat) → Reading (List (List Word × Node))
  | 0 => return []
  | fuel + 1 => do
      lines
      if (← get).nextPlain = "esac".toList then
        skip 4
        return []
      else
        let _ ← accept "("
        let ps ← patterns ((← get).text.length + 1)
        let n ← list fuel .branch
        if ← accept ";;" then return (ps, n) :: (← branches fuel)
        else if (← get).nextPlain = "esac".toList then
          skip 4
          return [(ps, n)]
        else unexpected ";;"

end

/-- Reads the next line that has commands, if there is one. -/
def line? : Reading (Option Node) := do
  lines
  let s ← get
  if s.text.isEmpty then return none
  let n ← list (4 * s.text.length + 8) .line
  blanks
  if (← get).text.isEmpty || (← nextIs "\n") then return some n
  unexpected ""

end Reading

/-- The commands of the next line of a source and what is behind it, or nothing
if there are no more. -/
def Source.line? (s : Source) : Except SyntaxFault (Option (Node × Source)) :=
  match Reading.line?.run s with
  | .ok (some n, rest) => .ok (some (n, rest))
  | .ok (none, _) => .ok none
  | .error e => .error e

end Command
end TerminalDialogs
