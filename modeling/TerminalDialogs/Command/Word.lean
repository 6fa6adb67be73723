import TerminalDialogs.Text

/-!
# Words of a script

A word is made of characters and of parts that stand for something else:
parameters, the output of other scripts, and the values of sums.

A part keeps what stands inside of it as text, which is read when the word is
expanded.  So words are flat.  Quotation marks vanish when a word is read: every
part knows whether it stood in quotes, and a mark is left behind, by which even
an empty word is there.

Reading recurses on `fuel`, for which the length of the text is enough, since
every round reads at least one character.
-/

namespace TerminalDialogs
namespace Command

/-- A part of a word. -/
inductive Part where
  | char (c : Char) (quoted : Bool)
  /-- A quotation mark. -/
  | mark
  /-- A parameter, with an operator and the text behind the operator. -/
  | parameter (name operator argument : Text) (quoted : Bool)
  /-- What a script writes. -/
  | output (script : Text) (quoted : Bool)
  /-- The value of an expression. -/
  | arithmetic (expression : Text) (quoted : Bool)
  /-- A substitution that is written wrongly. -/
  | bad
  deriving DecidableEq, Repr

/-- A word. -/
abbrev Word := List Part

/-- What a quotation or substitution lacks that does not end. -/
inductive Unclosed where
  | quote
  | brace
  | expression
  | output
  | backquote
  deriving DecidableEq, Repr

/-- What is said about something that does not end. -/
def Unclosed.message : Unclosed → Text
  | .quote => "Unterminated quoted string".toList
  | .brace => "Missing '\x7d'".toList
  | .expression => "Missing '))'".toList
  | .output => "end of file unexpected (expecting \")\")".toList
  | .backquote => "EOF in backquote substitution".toList

/-! ## Text inside of marks -/

/-- The text up to the mark that closes all the marks of the stack, and the text
behind it.  Other marks are skipped in pairs on the way. -/
def balanced : (stack : List Char) → (seen : Text) → Text → Option (Text × Text)
  | [], seen, rest => some (seen.reverse, rest)
  | _, _, [] => none
  | '\'' :: stack, seen, c :: rest =>
      if c = '\'' then
        if stack.isEmpty then some (seen.reverse, rest) else balanced stack (c :: seen) rest
      else balanced ('\'' :: stack) (c :: seen) rest
  | stack, seen, '\\' :: c :: rest => balanced stack (c :: '\\' :: seen) rest
  | stack, seen, '$' :: '(' :: rest => balanced (')' :: stack) ('(' :: '$' :: seen) rest
  | stack, seen, '$' :: '\x7b' :: rest => balanced ('\x7d' :: stack) ('\x7b' :: '$' :: seen) rest
  | top :: stack, seen, c :: rest =>
      if c = top then
        if stack.isEmpty then some (seen.reverse, rest) else balanced stack (c :: seen) rest
      else
        let opened :=
          if c = '"' || c = '\x60' then [c]
          else if top = '"' || top = '\x60' then []
          else if c = '\'' then [c]
          else if c = '(' && top = ')' then [')']
          else []
        balanced (opened ++ top :: stack) (c :: seen) rest

/-- A text in back quotes, without the backslashes that belong to the quotes. -/
def unquoteBack (quoted : Bool) : Text → Text
  | '\\' :: c :: rest =>
      if c = '\x60' || c = '\\' || c = '$' || (c = '"' && quoted) then
        c :: unquoteBack quoted rest
      else '\\' :: c :: unquoteBack quoted rest
  | c :: rest => c :: unquoteBack quoted rest
  | [] => []

/-! ## Parameters -/

/-- Whether a character can stand in a name. -/
def isNameChar (c : Char) : Bool := c.isAlphanum || c == '_'

/-- Whether a text is a name. -/
def isName : Text → Bool
  | [] => false
  | c :: rest => !c.isDigit && isNameChar c && rest.all isNameChar

/-- Whether a character is the name of a special parameter. -/
def isSpecialName (c : Char) : Bool := c.isDigit || "@*#?-$!".toList.contains c

/-- Whether a character ends a word. -/
def isMeta (c : Char) : Bool := " \t\n;&|<>()".toList.contains c

/-- The operators behind the name of a parameter, longer ones first. -/
def parameterOperators : List Text :=
  [":-", ":=", ":?", ":+", "%%", "##", "-", "=", "?", "+", "%", "#"].map String.toList

/-- The operator that stands for the length of a value. -/
def lengthOperator : Text := "length".toList

/-- The name at the beginning of a text, and what follows. -/
def splitName (s : Text) : Text × Text :=
  match s with
  | c :: rest =>
      if c.isDigit then (s.takeWhile Char.isDigit, s.dropWhile Char.isDigit)
      else if isNameChar c then (s.takeWhile isNameChar, s.dropWhile isNameChar)
      else if isSpecialName c then ([c], rest)
      else ([], s)
  | [] => ([], [])

/-- The parameter that a text in braces stands for. -/
def bracedParameter (quoted : Bool) (s : Text) : Part :=
  let (measured, end?) := splitName s.tail
  if s.head? = some '#' && !measured.isEmpty && end?.isEmpty then
    .parameter measured lengthOperator [] quoted
  else
    let (name, more) := splitName s
    if name.isEmpty then .bad
    else if more.isEmpty then .parameter name [] [] quoted
    else
      match parameterOperators.find? fun o => o.isPrefixOf more with
      | some o => .parameter name o (more.drop o.length) quoted
      | none => .bad

/-- What follows a dollar sign: the part it stands for, and the text behind
it. -/
def readDollar (quoted : Bool) (s : Text) : Except Unclosed (Part × Text) :=
  match s with
  | '(' :: '(' :: rest =>
      match balanced [')', ')'] [] rest with
      | none => .error .expression
      | some (inside, behind) =>
          if inside.getLast? = some ')' then .ok (.arithmetic inside.dropLast quoted, behind)
          else .ok (.output ('(' :: inside) quoted, behind)
  | '(' :: rest =>
      match balanced [')'] [] rest with
      | none => .error .output
      | some (inside, behind) => .ok (.output inside quoted, behind)
  | '\x7b' :: rest =>
      match balanced ['\x7d'] [] rest with
      | none => .error (if quoted then .quote else .brace)
      | some (inside, behind) => .ok (bracedParameter quoted inside, behind)
  | c :: rest =>
      if isNameChar c && !c.isDigit then
        .ok (.parameter (s.takeWhile isNameChar) [] [] quoted, s.dropWhile isNameChar)
      else if isSpecialName c then .ok (.parameter [c] [] [] quoted, rest)
      else .ok (.char '$' quoted, s)
  | [] => .ok (.char '$' quoted, [])

/-! ## Reading -/

/-- What the text is in which words are read. -/
inductive Place where
  /-- A word, which ends where a character says so. -/
  | word
  /-- The argument of a parameter, which ends where the text does. -/
  | argument
  /-- The argument of a parameter in quotes. -/
  | quotedArgument
  /-- A document, in which quotation marks mean nothing. -/
  | document
  deriving DecidableEq, Repr

/-- Whether everything at a place counts as quoted. -/
def Place.isQuoted : Place → Bool
  | .word | .argument => false
  | .quotedArgument | .document => true

/-- Reads parts, `seen` being those before, the last one first. -/
def readParts (p : Place) : (fuel : Nat) → (inQuotes : Bool) → (seen : List Part) → Text →
    Except Unclosed (Word × Text)
  | 0, _, seen, s => .ok (seen.reverse, s)
  | fuel + 1, inQuotes, seen, s =>
      let quoted := inQuotes || p.isQuoted
      match s with
      | [] => if inQuotes then .error .quote else .ok (seen.reverse, [])
      | '\\' :: '\n' :: rest => readParts p fuel inQuotes seen rest
      | '\\' :: c :: rest =>
          if !quoted || c = '$' || c = '\x60' || c = '\\' || (c = '"' && p ≠ .document) then
            readParts p fuel inQuotes (.char c true :: seen) rest
          else readParts p fuel inQuotes (.char c true :: .char '\\' true :: seen) rest
      | '$' :: rest =>
          match readDollar quoted rest with
          | .error e => .error e
          | .ok (part, rest) => readParts p fuel inQuotes (part :: seen) rest
      | '\x60' :: rest =>
          match balanced ['\x60'] [] rest with
          | none => .error .backquote
          | some (inside, rest) =>
              readParts p fuel inQuotes (.output (unquoteBack quoted inside) quoted :: seen) rest
      | c :: rest =>
          if c = '"' && p ≠ .document then
            if p = .quotedArgument then readParts p fuel inQuotes seen rest
            else if inQuotes then readParts p fuel false seen rest
            else readParts p fuel true (.mark :: seen) rest
          else if c = '\'' && !quoted then
            match balanced ['\''] [] rest with
            | none => .error .quote
            | some (inside, rest) =>
                let plain := inside.map fun c => Part.char c true
                readParts p fuel inQuotes (plain.reverse ++ .mark :: seen) rest
          else if isMeta c && p = .word && !inQuotes then .ok (seen.reverse, s)
          else readParts p fuel inQuotes (.char c quoted :: seen) rest

/-- The parts of a text that ends only where it ends. -/
def wholeParts (p : Place) (s : Text) : Word :=
  match readParts p (s.length + 1) false [] s with
  | .ok (parts, _) => parts
  | .error _ => [.bad]

/-- The text of a word that is nothing but plain characters. -/
def plainWord? (w : Word) : Option Text :=
  w.mapM fun part =>
    match part with
    | .char c false => some c
    | _ => none

/-- The characters of a word. -/
def wordText (w : Word) : Text :=
  w.filterMap fun part =>
    match part with
    | .char c _ => some c
    | _ => none

/-- A word in which a tilde that stands alone at the beginning, or in front of a
slash, is the home directory, if there is one. -/
def atHome (home : Option Text) (w : Word) : Word :=
  let expanded (rest : Word) : Word :=
    match home with
    | some directory => directory.map (fun c => Part.char c true) ++ rest
    | none => w
  match w with
  | [.char '~' false] => expanded []
  | .char '~' false :: .char '/' false :: rest => expanded (.char '/' false :: rest)
  | w => w

end Command
end TerminalDialogs
