import TerminalDialogs.Json.Mismatch
import TerminalDialogs.Json.Reader

/-!
# Reading flat records from JSON texts

Requests, replies and settings are records of a few fields.  They are read
straight from the text, as an object or as an array in the order of the fields,
so that each complaint can name the place where reading stopped:

* behind a value of the wrong type, or in front of it if it is an array or an
  object;
* behind the name of an unknown or repeated field;
* behind the record when a field is missing.
-/

namespace TerminalDialogs
namespace Json

/-- What a field may hold. -/
inductive Shape where
  | string
  | boolean
  | any
  deriving DecidableEq, Repr

/-- A field of a record. -/
structure Field where
  name : Text
  shape : Shape
  required : Bool := false

/-- A record: its name, its fields, and whether others are refused. -/
structure RecordShape where
  name : Text
  fields : List Field
  closed : Bool := false

/-- What can be wrong with a text that should be a record. -/
inductive RecordError where
  | syntaxFault (fault : PlacedFault)
  | mismatch (mismatch : Mismatch) (place : Position)

/-- What is said about a text that is no such record. -/
def RecordError.message : RecordError → Text
  | .syntaxFault fault => fault.message
  | .mismatch m place => m.message ++ place.words

/-- The values that were given to fields. -/
abbrev Given := List (Text × Json)

/-- The value given to a field. -/
def Given.get? (given : Given) (name : Text) : Option Json :=
  (given.find? fun g => g.1 == name).map Prod.snd

/-- Turns a fault into an error. -/
def lift {α : Type} : Except PlacedFault α → Except RecordError α
  | .ok a => .ok a
  | .error fault => .error (.syntaxFault fault)

/-- A complaint at the first character of a lexeme. -/
def faultAt {α : Type} (l : Placed) (fault : Fault) : Except RecordError α :=
  .error (.syntaxFault ⟨fault, ⟨l.start.line, l.start.column + 1⟩⟩)

/-- A complaint that a lexeme is not of the expected type. -/
def wrongType {α : Type} (l : Placed) (expected : Text) : Except RecordError α :=
  let wrong (found : Json) (place : Position) : Except RecordError α :=
    .error (.mismatch (.type found expected) place)
  match l.lexeme with
  | .string (.ok s) => wrong (.string s) l.stop
  | .atom (.ok value) => wrong value l.stop
  | .string (.error fault) => .error (.syntaxFault fault)
  | .atom (.error fault) => .error (.syntaxFault fault)
  | .openArray => wrong (.array []) l.start
  | .openObject => wrong (.object []) l.start
  | .broken _ fault _ => .error (.syntaxFault fault)
  | _ => faultAt l .expectedValue

/-- Reads a value of the given shape inside a record. -/
def readShape (stop : Position) (shape : Shape) (ls : List Placed) :
    Except RecordError (Json × List Placed) :=
  match shape, ls with
  | .any, ls => lift (readValue (.wanted (depthLimit - 1)) stop ls)
  | _, [] => .error (.syntaxFault ⟨.endInValue, stop⟩)
  | .string, l :: rest =>
      match l.lexeme with
      | .string (.ok s) => .ok (.string s, rest)
      | _ => wrongType l "a string".toList
  | .boolean, l :: rest =>
      match l.lexeme with
      | .atom (.ok (.bool b)) => .ok (.bool b, rest)
      | _ => wrongType l "a boolean".toList

/-- Where a complaint about a record is reported whose next lexemes are `ls`:
behind its end if that comes next. -/
def behind (stop : Position) : List Placed → Position
  | [] => stop
  | l :: _ =>
      match l.lexeme with
      | .closeObject => l.stop
      | _ => l.start

/-- The colon after the name of a field. -/
def readColon (stop : Position) : List Placed → Except RecordError (List Placed)
  | [] => .error (.syntaxFault ⟨.endInObject, stop⟩)
  | l :: rest =>
      match l.lexeme with
      | .colon => .ok rest
      | _ => faultAt l .expectedColon

/-- Reads one member of a record after its name. -/
def readMember (shape : RecordShape) (stop : Position) (name : Text) (given : Given)
    (ls : List Placed) : Except RecordError (Given × List Placed) :=
  match shape.fields.find? fun f => f.name == name with
  | some field =>
      if (given.get? name).isSome then
        .error (.mismatch (.duplicateField name) (behind stop ls))
      else do
        let ls ← readColon stop ls
        let (value, ls) ← readShape stop field.shape ls
        pure ((name, value) :: given, ls)
  | none =>
      if shape.closed then
        .error (.mismatch (.unknownField name (shape.fields.map Field.name)) (behind stop ls))
      else do
        let ls ← readColon stop ls
        let (_, ls) ← lift (readValue .ignored stop ls)
        pure (given, ls)

/-- The name of the next field, or `none` at the end of the object. -/
def readName (stop : Position) (isFirst : Bool) :
    List Placed → Except RecordError (Option Text × List Placed)
  | [] => .error (.syntaxFault ⟨.endInObject, stop⟩)
  | l :: rest =>
      let key (l : Placed) (rest : List Placed) : Except RecordError (Option Text × List Placed) :=
        match key? (.wanted depthLimit) l.lexeme with
        | some (.ok name) => .ok (some name, rest)
        | some (.error fault) => .error (.syntaxFault fault)
        | none => faultAt l .keyNotString
      match l.lexeme with
      | .closeObject => .ok (none, rest)
      | .comma =>
          if isFirst then faultAt l .keyNotString
          else
            match rest with
            | [] => .error (.syntaxFault ⟨.endInValue, stop⟩)
            | l :: rest =>
                match l.lexeme with
                | .closeObject => faultAt l .trailingComma
                | _ => key l rest
      | _ => if isFirst then key l rest else faultAt l .expectedCommaInObject

/-- Reads the members of an object one after the other.  Every round uses up at
least one lexeme, so as many rounds as there are lexemes are enough. -/
def readMembers (shape : RecordShape) (stop : Position) :
    (rounds : Nat) → (isFirst : Bool) → Given → List Placed →
      Except RecordError (Given × List Placed)
  | 0, _, _, _ => .error (.syntaxFault ⟨.endInObject, stop⟩)
  | rounds + 1, isFirst, given, ls => do
      match ← readName stop isFirst ls with
      | (none, ls) => pure (given, ls)
      | (some name, ls) =>
          let (given, ls) ← readMember shape stop name given ls
          readMembers shape stop rounds false given ls

/-- Moves to the next element of an array; `none` at its end. -/
def readSeparator (stop : Position) (isFirst : Bool) :
    List Placed → Except RecordError (Option (List Placed))
  | [] => .error (.syntaxFault ⟨.endInArray, stop⟩)
  | l :: rest =>
      match l.lexeme with
      | .closeArray => .ok none
      | .comma =>
          if isFirst then .ok (some (l :: rest))
          else
            match rest with
            | [] => .error (.syntaxFault ⟨.endInValue, stop⟩)
            | l :: rest =>
                match l.lexeme with
                | .closeArray => faultAt l .trailingComma
                | _ => .ok (some (l :: rest))
      | _ => if isFirst then .ok (some (l :: rest)) else faultAt l .expectedCommaInArray

/-- Reads the elements of an array as the fields in their order. -/
def readElements (stop : Position) :
    (isFirst : Bool) → List Field → Given → List Placed → Except RecordError (Given × List Placed)
  | _, [], given, ls => .ok (given, ls)
  | isFirst, field :: fields, given, ls => do
      match ← readSeparator stop isFirst ls with
      | none => pure (given, ls)
      | some ls =>
          let (value, ls) ← readShape stop field.shape ls
          readElements stop false fields ((field.name, value) :: given) ls

/-- The end of an array after its last element. -/
def readArrayEnd (stop : Position) : List Placed → Except RecordError (Position × List Placed)
  | [] => .error (.syntaxFault ⟨.endInArray, stop⟩)
  | l :: rest =>
      match l.lexeme with
      | .closeArray => .ok (l.stop, rest)
      | .comma =>
          match rest with
          | [] => .error (.syntaxFault ⟨.trailingCharacters, stop⟩)
          | l :: _ =>
              match l.lexeme with
              | .closeArray => faultAt l .trailingComma
              | _ => faultAt l .trailingCharacters
      | _ => faultAt l .trailingCharacters

/-- The first field that has to be given and is not. -/
def missing? (fields : List Field) (given : Given) : Option Field :=
  fields.find? fun f => f.required && (given.get? f.name).isNone

/-- The place behind the lexemes that were used up between two lists. -/
def behindUsed (stop : Position) (before after : List Placed) : Position :=
  match before.drop (before.length - after.length - 1) with
  | l :: _ => l.stop
  | [] => stop

/-- Reads a record at the beginning of lexemes. -/
def readRecord (shape : RecordShape) (stop : Position) (ls : List Placed) :
    Except RecordError (Given × List Placed) :=
  match ls with
  | [] => .error (.syntaxFault ⟨.endInValue, stop⟩)
  | l :: inside =>
      match l.lexeme with
      | .openObject => do
          let (given, rest) ← readMembers shape stop (inside.length + 1) true [] inside
          match missing? shape.fields given with
          | some field =>
              .error (.mismatch (.missingField field.name) (behindUsed stop inside rest))
          | none => pure (given, rest)
      | .openArray => do
          let (given, rest) ← readElements stop true shape.fields [] inside
          match missing? shape.fields given with
          | some _ =>
              let expected := "struct ".toList ++ shape.name ++ " with ".toList ++
                Text.ofNat shape.fields.length ++ " elements".toList
              let place :=
                match readArrayEnd stop rest with
                | .ok (place, _) => place
                | .error _ => stop
              .error (.mismatch (.length given.length expected) place)
          | none =>
              let (_, rest) ← readArrayEnd stop rest
              pure (given, rest)
      | _ => wrongType l ("struct ".toList ++ shape.name)

/-- The fields of the record that a text is. -/
def parseRecord (shape : RecordShape) (s : Text) : Except RecordError Given := do
  let (ls, stop) := lexemes s
  let (given, rest) ← readRecord shape stop ls
  match rest with
  | [] => pure given
  | l :: _ => faultAt l .trailingCharacters

end Json
end TerminalDialogs
