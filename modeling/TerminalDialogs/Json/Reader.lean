import TerminalDialogs.Json.Lexeme

/-!
# Reading JSON values

A value is read from the lexemes of a text in one pass.  The reader keeps the
arrays and objects that are still open on a stack, and an expectation: what the
next lexeme may be.  The recursion is on the list of lexemes, so reading ends
with the text.

Values that nobody looks at are read too, since the text behind them has to be
found, but with less care: numbers may be too large and nesting may be as deep
as the text goes.
-/

namespace TerminalDialogs
namespace Json

/-- An array or an object that is still open. -/
inductive Open where
  /-- The elements so far, the last one first. -/
  | array (elements : List Json)
  /-- The members so far, sorted, and the key of the member being read. -/
  | object (members : List (Text × Json)) (key : Text)

/-- What the next lexeme may be. -/
inductive Expect where
  /-- A value. -/
  | value
  /-- The first element of an array, or its end. -/
  | firstElement
  /-- An element after a comma. -/
  | element
  /-- The first key of an object, or its end. -/
  | firstKey
  /-- A key after a comma. -/
  | key
  /-- The colon after a key. -/
  | colon
  /-- A comma or the end of what is open. -/
  | comma
  deriving DecidableEq, Repr

/-- How carefully a value is read. -/
inductive Care where
  /-- The value is wanted; so many levels may be open at once. -/
  | wanted (depth : Nat)
  /-- Nobody looks at the value. -/
  | ignored
  deriving DecidableEq, Repr

/-- The number of levels a text may have. -/
def depthLimit : Nat := 127

/-- Whether one more level may be opened. -/
def Care.mayOpen : Care → Nat → Bool
  | .wanted depth, openNow => openNow < depth
  | .ignored, _ => true

/-- What is missing when the text ends. -/
def faultAtEnd (care : Care) (opened : List Open) : Expect → Fault
  | .value => .endInValue
  | .firstElement => .endInArray
  | .element => .endInValue
  | .firstKey => .endInObject
  | .key => if care = .ignored then .endInObject else .endInValue
  | .colon => .endInObject
  | .comma =>
      match opened with
      | .object _ _ :: _ => .endInObject
      | _ => .endInArray

/-- What a complete value leads to: the whole value, or an open container that
has grown. -/
def settle (value : Json) : List Open → Json ⊕ List Open
  | [] => .inl value
  | .array elements :: opened => .inr (.array (value :: elements) :: opened)
  | .object members key :: opened => .inr (.object (setMember key value members) key :: opened)

/-- A lexeme that is a value by itself.  What is wrong with a value that nobody
looks at does not matter. -/
def scalar? (care : Care) : Lexeme → Option (Except PlacedFault Json)
  | .string s => some (if care = .ignored then .ok .null else s.map Json.string)
  | .atom value => some (if care = .ignored then .ok .null else value)
  | .broken _ wanted skipped => some (.error (if care = .ignored then skipped else wanted))
  | _ => none

/-- A lexeme that is a key. -/
def key? (care : Care) : Lexeme → Option (Except PlacedFault Text)
  | .string s => some (if care = .ignored then .ok [] else s)
  | .broken true wanted skipped => some (.error (if care = .ignored then skipped else wanted))
  | _ => none

/-- What one lexeme does to the reader: it goes on with other open containers
and another expectation, or a value is complete. -/
inductive Move where
  | goOn (opened : List Open) (expect : Expect)
  | complete (value : Json) (opened : List Open)
  | fail (fault : PlacedFault)

/-- A fault of the lexeme itself, or the given one at its first character. -/
def complain (l : Placed) (fault : Fault) : Move :=
  .fail ⟨fault, ⟨l.start.line, l.start.column + 1⟩⟩

/-- A lexeme where a value is expected. -/
def moveValue (care : Care) (opened : List Open) (l : Placed) : Move :=
  match scalar? care l.lexeme with
  | some (.ok value) => .complete value opened
  | some (.error fault) => .fail fault
  | none =>
      match l.lexeme with
      | .openArray =>
          if care.mayOpen opened.length then .goOn (.array [] :: opened) .firstElement
          else complain l .tooDeep
      | .openObject =>
          if care.mayOpen opened.length then .goOn (.object [] [] :: opened) .firstKey
          else complain l .tooDeep
      | _ => complain l .expectedValue

/-- A lexeme where a key is expected. -/
def moveKey (care : Care) (opened : List Open) (l : Placed) : Move :=
  match key? care l.lexeme, opened with
  | some (.ok key), .object members _ :: opened => .goOn (.object members key :: opened) .colon
  | some (.error fault), _ => .fail fault
  | _, _ => complain l .keyNotString

/-- What the next lexeme does. -/
def move (care : Care) (opened : List Open) (expect : Expect) (l : Placed) : Move :=
  match expect with
  | .value => moveValue care opened l
  | .firstElement =>
      match l.lexeme, opened with
      | .closeArray, _ :: opened => .complete (.array []) opened
      | _, _ => moveValue care opened l
  | .element =>
      match l.lexeme with
      | .closeArray =>
          complain l (if care = .ignored then .expectedValue else .trailingComma)
      | _ => moveValue care opened l
  | .firstKey =>
      match l.lexeme, opened with
      | .closeObject, _ :: opened => .complete (.object []) opened
      | _, _ => moveKey care opened l
  | .key =>
      match l.lexeme with
      | .closeObject =>
          complain l (if care = .ignored then .keyNotString else .trailingComma)
      | _ => moveKey care opened l
  | .colon =>
      match l.lexeme with
      | .colon => .goOn opened .value
      | _ => complain l .expectedColon
  | .comma =>
      match opened, l.lexeme with
      | .array elements :: opened, .closeArray => .complete (.array elements.reverse) opened
      | .array elements :: opened, .comma => .goOn (.array elements :: opened) .element
      | .object members _ :: opened, .closeObject => .complete (.object members) opened
      | .object members key :: opened, .comma => .goOn (.object members key :: opened) .key
      | .object _ _ :: _, _ => complain l .expectedCommaInObject
      | _, _ => complain l .expectedCommaInArray

/-- Reads one value: the value and the lexemes behind it. -/
def readFrom (care : Care) (stop : Position) :
    List Open → Expect → List Placed → Except PlacedFault (Json × List Placed)
  | opened, expect, [] => .error ⟨faultAtEnd care opened expect, stop⟩
  | opened, expect, l :: rest =>
      match move care opened expect l with
      | .fail fault => .error fault
      | .goOn opened expect => readFrom care stop opened expect rest
      | .complete value opened =>
          match settle value opened with
          | .inl value => .ok (value, rest)
          | .inr opened => readFrom care stop opened .comma rest

/-- Reads one value at the beginning of lexemes. -/
def readValue (care : Care) (stop : Position) (ls : List Placed) :
    Except PlacedFault (Json × List Placed) :=
  readFrom care stop [] .value ls

/-- The value that a text is. -/
def parse (s : Text) : Except PlacedFault Json := do
  let (ls, stop) := lexemes s
  let (value, rest) ← readValue (.wanted depthLimit) stop ls
  match rest with
  | [] => pure value
  | l :: _ => .error ⟨.trailingCharacters, ⟨l.start.line, l.start.column + 1⟩⟩

/-- Words that say where a fault is reported. -/
def Position.words (p : Position) : Text :=
  " at line ".toList ++ Text.ofNat p.line ++ " column ".toList ++ Text.ofNat p.column

/-- What is said about a fault in a text. -/
def PlacedFault.message (f : PlacedFault) : Text := f.fault.message ++ f.place.words

end Json
end TerminalDialogs
