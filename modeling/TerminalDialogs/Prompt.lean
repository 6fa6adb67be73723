import TerminalDialogs.Command.Ending
import TerminalDialogs.Failure
import TerminalDialogs.Text.Lower
import TerminalDialogs.Widget

/-!
# Asking line by line

Where a widget cannot have the whole screen, its question is asked in lines of
text.  A prompt writes something, reads a line, and goes on like that until it
has its value.  An answer that will not do is complained about, and the question
is asked again; when there are no more lines, the prompt counts as dismissed.

A prompt between two lines is a value of its own, so asking is a function from
a prompt and a line to what is written and the next prompt.  As every step uses
up a line, it ends with the lines at the latest.
-/

namespace TerminalDialogs

open Widget (Value)

/-- A question that waits for a line. -/
inductive Prompt where
  | input (options : Options.Input)
  /-- A text of several lines, of which some have been entered, the last one
  first. -/
  | write (options : Options.Write) (lines : List Text)
  | confirm (options : Options.Confirm)
  | choose (options : Options.Choose)
  /-- A query for a list. -/
  | filter (options : Options.Filter)
  /-- A choice from the items that match a query. -/
  | filtered (options : Options.Filter) (items : List Text)
  | file (options : Options.File)
  | table (options : Options.Table)
  deriving DecidableEq, Repr

namespace Prompt

/-! ## Text -/

/-- A line of text. -/
def say (line : Text) : Text := line ++ ['\n']

/-- Title and description, as far as there are any. -/
def heading (title description : Text) : Text :=
  (if title.isEmpty then [] else say title) ++
    (if description.isEmpty then [] else say description)

/-- Items with numbers from one on. -/
def numbered (items : List Text) : Text :=
  items.zipIdx.flatMap fun item =>
    say (Text.padLeft 3 (Text.ofNat (item.2 + 1)) ++ ") ".toList ++ item.1)

/-- The label in front of the numbers that are asked for. -/
def numbersLabel (isMulti : Bool) : Text :=
  if isMulti then "Numbers, separated by commas: ".toList else "Number: ".toList

/-- What stands in front of the line that is read. -/
def label : Prompt → Text
  | .input o => if o.value.isEmpty then "> ".toList else ['['] ++ o.value ++ "] > ".toList
  | .write _ _ => []
  | .confirm o => if o.initial then "[Y/n] ".toList else "[y/N] ".toList
  | .choose o => numbersLabel o.isMulti
  | .filter _ => "Filter: ".toList
  | .filtered o _ => numbersLabel o.isMulti
  | .file _ => "Path: ".toList
  | .table _ => "Row number: ".toList

/-! ## Numbers -/

/-- The numbers up to this one can be typed at all. -/
def numberLimit : Nat := Nat.pow 2 64

/-- The number that digits spell, if it is not too large. -/
def digits? (s : Text) : Option Nat :=
  if s.isEmpty then none
  else
    s.foldl
      (fun n c => n.bind fun n =>
        let next := 10 * n + (c.toNat - '0'.toNat)
        if c.isDigit && next < numberLimit then some next else none)
      (some 0)

/-- The number that a text spells; a plus sign may stand in front. -/
def number? (s : Text) : Option Nat :=
  match s with
  | '+' :: rest => digits? rest
  | s => digits? s

/-- The position that a text spells, counting from one, if it is one of
`count`. -/
def position? (count : Nat) (s : Text) : Option Nat :=
  match number? s with
  | some (n + 1) => if n < count then some n else none
  | _ => none

/-- Adds positions to a list that has none twice; `none` if a text does not
spell one. -/
def collect (count : Nat) : (found : List Nat) → List Text → Option (List Nat)
  | found, [] => some found
  | found, part :: parts =>
      match position? count part with
      | none => none
      | some i => collect count (if found.contains i then found else found ++ [i]) parts

/-- The positions that an answer names, in its order and each once; there is at
least one. -/
def positions? (count : Nat) (answer : Text) : Option (List Nat) :=
  match collect count [] (Text.words (fun c => c == ',' || c == ' ') answer) with
  | none | some [] => none
  | some found => some found

/-- The positions that an answer chooses, or a complaint. -/
def pick (count : Nat) (isMulti : Bool) (limit : Nat) (answer : Text) :
    Except Text (List Nat) :=
  match positions? count answer with
  | none => .error ("Enter numbers between 1 and ".toList ++ Text.ofNat count ++ ['.'])
  | some found =>
      if !isMulti && 1 < found.length then .error "Pick one number.".toList
      else if 0 < limit ∧ limit < found.length then
        .error ("Pick at most ".toList ++ Text.ofNat limit ++ ['.'])
      else .ok found

/-- The items at some positions. -/
def itemsAt (items : List Text) (found : List Nat) : List Text :=
  found.filterMap fun i => items[i]?

/-- Items in the order in which they first occur in a list. -/
def inListOrder (items found : List Text) : List Text :=
  found.mergeSort fun a b => items.idxOf a ≤ items.idxOf b

/-! ## Turns -/

/-- What follows on a line: something is written, and then the next question
is asked or there is a value. -/
inductive Turn where
  | ask (said : Text) (prompt : Prompt)
  | done (said : Text) (value : Value)
  deriving DecidableEq, Repr

/-- Asks again after a complaint. -/
def again (p : Prompt) (complaint : Text) : Turn := .ask (say complaint) p

/-- The text that was entered line by line, cut at the limit.  The last line comes
first. -/
def writtenText (o : Options.Write) (lines : List Text) : Value :=
  let text := Text.unrows lines.reverse
  .text (if 0 < o.charLimit then text.take o.charLimit else text)

/-- What follows on a line for a text. -/
def answerInput (o : Options.Input) (line : Text) : Turn :=
  let text := if line.isEmpty then o.value else line
  if 0 < o.charLimit ∧ o.charLimit < text.length then
    again (.input o)
      ("At most ".toList ++ Text.ofNat o.charLimit ++ " characters, got ".toList ++
        Text.ofNat text.length ++ ['.'])
  else .done [] (.text text)

/-- What follows on a line for a yes or no. -/
def answerConfirm (o : Options.Confirm) (line : Text) : Turn :=
  let answer := Text.lower (Text.trim line)
  if answer.isEmpty then .done [] (.bool o.initial)
  else if answer = "y".toList ∨ answer = "yes".toList then .done [] (.bool true)
  else if answer = "n".toList ∨ answer = "no".toList then .done [] (.bool false)
  else again (.confirm o) "Please answer y or n.".toList

/-- What follows on a line for a choice from a list. -/
def answerChoose (o : Options.Choose) (line : Text) : Turn :=
  match pick o.items.length o.isMulti o.itemLimit line with
  | .error complaint => again (.choose o) complaint
  | .ok found =>
      let items := itemsAt o.items found
      .done [] (.list (if o.ordered then inListOrder o.items items else items))

/-- What follows on a query. -/
def answerFilter (o : Options.Filter) (query : Text) : Turn :=
  let items := (Fuzzy.rank .rounded o.items query o.fuzzy o.sort).filterMap fun m =>
    o.items[m.index]?
  if items.isEmpty then
    if !o.strict && !query.isEmpty then .done [] (.list [query])
    else again (.filter o) "No matches.".toList
  else .ask (numbered items) (.filtered o items)

/-- What follows on a line for a choice from the items that match. -/
def answerFiltered (o : Options.Filter) (items : List Text) (line : Text) : Turn :=
  match pick items.length o.isMulti o.itemLimit line with
  | .error complaint => again (.filtered o items) complaint
  | .ok found => .done [] (.list (itemsAt items found))

/-- Whether a path leads to something that may be picked. -/
def isSelectable (tree : Files.Tree) (o : Options.File) (path : Text) : Bool :=
  match tree.lookUp path with
  | .ok (.file _) => o.fileAllowed || !o.dirAllowed
  | .ok .directory => o.dirAllowed
  | _ => false

/-- What follows on a line for a path. -/
def answerFile (tree : Files.Tree) (o : Options.File) (line : Text) : Turn :=
  let path := Path.child o.path (Text.trim line)
  if isSelectable tree o path then .done [] (.text path)
  else again (.file o) ("Not a selectable path: ".toList ++ path)

/-- What follows on a line for a row. -/
def answerTable (o : Options.Table) (line : Text) : Turn :=
  match positions? o.rows.length line with
  | some [i] => .done [] (.row ⟨Int.ofNat i, (o.rows[i]?).getD []⟩)
  | _ =>
      again (.table o)
        ("Enter a number between 1 and ".toList ++ Text.ofNat o.rows.length ++ ['.'])

/-- What follows on a line. -/
def answer (tree : Files.Tree) (p : Prompt) (line : Text) : Turn :=
  match p with
  | .input o => answerInput o line
  | .write o lines =>
      if line = ['.'] then .done [] (writtenText o lines) else .ask [] (.write o (line :: lines))
  | .confirm o => answerConfirm o line
  | .choose o => answerChoose o line
  | .filter o => answerFilter o line
  | .filtered o items => answerFiltered o items line
  | .file o => answerFile tree o line
  | .table o => answerTable o line

/-- What follows when there are no more lines: the prompt is dismissed, unless
lines of a text have been entered. -/
def close : Prompt → Except Widget.Error Value
  | .write o (line :: lines) => .ok (writtenText o (line :: lines))
  | _ => .error .cancelled

/-! ## The first turn -/

/-- The first turn of a choice from a list. -/
def startChoose (o : Options.Choose) : Turn :=
  if o.items.isEmpty then .done (heading o.title o.description) (.list [])
  else .ask (heading o.title o.description ++ numbered o.items) (.choose o)

/-- The first turn of a list with a query. -/
def startFilter (o : Options.Filter) : Turn :=
  if o.items.isEmpty then .done (heading o.title o.description) (.list [])
  else .ask (heading o.title o.description) (.filter o)

/-- What separates the cells of a row. -/
def cellSeparator : Text := " | ".toList

/-- The first turn of a table. -/
def startTable (o : Options.Table) : Turn :=
  let o := Table.load o
  let titles := o.columns.map Options.Column.title
  let head :=
    if titles.all List.isEmpty then []
    else say (Text.blanks 5 ++ Text.join cellSeparator titles)
  if o.rows.isEmpty then .done (heading o.title []) (.row .nothing)
  else
    .ask (heading o.title [] ++ head ++ numbered (o.rows.map (Text.join cellSeparator)))
      (.table o)

/-- What a pager writes. -/
def pages (o : Options.Pager) : Text :=
  let line (numbered : Text × Nat) : Text :=
    if o.showLineNumbers then
      say (Text.padLeft 4 (Text.ofNat (numbered.2 + 1)) ++ [' '] ++ numbered.1)
    else say numbered.1
  heading o.title [] ++ (Text.lines o.content).zipIdx.flatMap line

/-- The line above a text of several lines. -/
def writeHint : Text := "Enter text. Finish with a line containing only \".\".".toList

/-- The first turn for a kind of widget. -/
def start (programs : Command.Programs) (kind : Widget.Kind) (options : Json) :
    Except Widget.Error Turn :=
  match kind with
  | .input => do
      let o ← Widget.readOptions kind "InputOptions" Options.Input.fields {} options
      pure (.ask (heading o.title o.description) (.input o))
  | .write => do
      let o ← Widget.readOptions kind "WriteOptions" Options.Write.fields {} options
      pure (.ask (heading o.title o.description ++ say writeHint) (.write o []))
  | .confirm => do
      let o ← Widget.readOptions kind "ConfirmOptions" Options.Confirm.fields {} options
      pure (.ask (heading o.title o.description) (.confirm o))
  | .choose => do
      pure (startChoose
        (← Widget.readOptions kind "ChooseOptions" Options.Choose.fields {} options))
  | .filter => do
      pure (startFilter
        (← Widget.readOptions kind "FilterOptions" Options.Filter.fields {} options))
  | .file => do
      let o ← Widget.readOptions kind "FileOptions" Options.File.fields {} options
      pure (.ask (heading o.title o.description) (.file o))
  | .table => do
      pure (startTable
        (← Widget.readOptions kind "TableOptions" Options.Table.fields {} options))
  | .pager => do
      let o ← Widget.readOptions kind "PagerOptions" Options.Pager.fields {} options
      pure (.done (pages o) .nothing)
  | .spin => do
      let o ← Widget.readOptions kind "SpinOptions" Options.Spin.fields {} options
      pure (.done (if o.title.isEmpty then [] else say (o.title ++ "...".toList))
        (.output (Command.capture programs o.command)))

/-! ## Reading lines -/

/-- The lines of an input, each with its line feed; only the last may have
none. -/
def inputLines : List UInt8 → List (List UInt8)
  | [] => []
  | b :: rest =>
      if b = 10 then [b] :: inputLines rest
      else
        match inputLines rest with
        | [] => [[b]]
        | line :: others => (b :: line) :: others

/-- The answer that a line gives, without what ends the line; `none` if the
line is not text. -/
def lineText? (line : List UInt8) : Option Text :=
  (Utf8.decode? none line).map fun text =>
    (text.reverse.dropWhile fun c => c == '\n' || c == '\r').reverse

/-- What came of a conversation: what was written, how many bytes were read,
and the value. -/
structure Transcript where
  said : Text := []
  read : Nat := 0
  result : Except Failure Value

/-- A conversation that starts with something written. -/
def Transcript.after (said : Text) (read : Nat) (t : Transcript) : Transcript :=
  { t with said := said ++ t.said, read := read + t.read }

/-- What is said about a line that is not text. -/
def unreadable : Failure :=
  (Failure.because "stream did not contain valid UTF-8".toList).within
    "Failed to read answer".toList

/-- Goes on with a prompt on the lines that are left. -/
def converse (tree : Files.Tree) (p : Prompt) : List (List UInt8) → Transcript
  | [] => { said := p.label, result := p.close.mapError Failure.ofWidget }
  | line :: lines =>
      match lineText? line with
      | none => { said := p.label, read := line.length, result := .error unreadable }
      | some text =>
          match p.answer tree text with
          | .done said value =>
              { said := p.label ++ said, read := line.length, result := .ok value }
          | .ask said next => (converse tree next lines).after (p.label ++ said) line.length

/-- Asks for the value of a widget on a whole input. -/
def run (programs : Command.Programs) (tree : Files.Tree) (kind : Widget.Kind) (options : Json)
    (input : List UInt8) : Transcript :=
  match start programs kind options with
  | .error e => { result := .error (.ofWidget e) }
  | .ok (.done said value) => { said, result := .ok value }
  | .ok (.ask said p) => (converse tree p (inputLines input)).after said 0

end Prompt

end TerminalDialogs
