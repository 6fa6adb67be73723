import TerminalDialogs.Json.Mismatch

/-!
# Reading options

The options of a widget are a record.  They are given as an object, by the
names of the fields, or as an array, in the order of the fields; what is not
given keeps its default.  A field may have several names.

An object is read in the order of its keys, and the first complaint counts.
Keys that name no field are passed over.  In an array, fields may be missing at
the end, but there must not be more elements than fields.
-/

namespace TerminalDialogs
namespace Options

open Json (Mismatch)

/-- A field of a record of options: its names, the first of which is used in
complaints, and how a value is put into the record. -/
structure Field (σ : Type) where
  names : List Text
  read : Json → σ → Except Mismatch σ

/-- The name of a field. -/
def Field.name {σ : Type} (f : Field σ) : Text := f.names.headD []

/-! ## Values -/

/-- A string. -/
def readText : Json → Except Mismatch Text
  | .string s => .ok s
  | j => .error (.type j "a string".toList)

/-- A truth value. -/
def readBool : Json → Except Mismatch Bool
  | .bool b => .ok b
  | j => .error (.type j "a boolean".toList)

/-- A number of things. -/
def readCount : Json → Except Mismatch Nat
  | .number (.natural n) => .ok n
  | .number (.negative n) => .error (.range (.number (.negative n)) "usize".toList)
  | j => .error (.type j "usize".toList)

/-- The number of different columns or rows that a screen can have. -/
def extentLimit : Nat := Nat.pow 2 16

/-- A number of columns or rows. -/
def readExtent : Json → Except Mismatch Nat
  | .number (.natural n) =>
      if n < extentLimit then .ok n
      else .error (.range (.number (.natural n)) "u16".toList)
  | .number (.negative n) => .error (.range (.number (.negative n)) "u16".toList)
  | j => .error (.type j "u16".toList)

/-- A list. -/
def readList {α : Type} (read : Json → Except Mismatch α) : Json → Except Mismatch (List α)
  | .array elements => elements.mapM read
  | j => .error (.type j "a sequence".toList)

/-! ## Fields -/

/-- A field whose values are read by `read`. -/
def Field.of {σ α : Type} (read : Json → Except Mismatch α) (set : α → σ → σ)
    (names : List String) : Field σ :=
  { names := names.map String.toList
    read := fun j s => (read j).map fun a => set a s }

/-! ## Records -/

/-- Reads the members of an object; `seen` holds the names of the fields that
were given already. -/
def readMembers {σ : Type} (fields : List (Field σ)) :
    (seen : List Text) → List (Text × Json) → σ → Except Mismatch σ
  | _, [], s => .ok s
  | seen, (key, value) :: members, s =>
      match fields.find? fun f => f.names.contains key with
      | none => readMembers fields seen members s
      | some f =>
          if seen.contains f.name then .error (.duplicateField f.name)
          else
            match f.read value s with
            | .ok s => readMembers fields (f.name :: seen) members s
            | .error m => .error m

/-- Reads the elements of an array, `total` in number. -/
def readElements {σ : Type} (total : Nat) :
    List (Field σ) → List Json → σ → Except Mismatch σ
  | _, [], s => .ok s
  | [], _ :: _, _ => .error (.length total "fewer elements in array".toList)
  | f :: fields, value :: values, s =>
      match f.read value s with
      | .ok s => readElements total fields values s
      | .error m => .error m

/-- Reads a record of the given name over its defaults.  No options at all are
the same as an empty object. -/
def readRecord {σ : Type} (name : String) (fields : List (Field σ)) (defaults : σ) :
    Json → Except Mismatch σ
  | .null => .ok defaults
  | .object members => readMembers fields [] members defaults
  | .array elements => readElements elements.length fields elements defaults
  | j => .error (.type j ("struct ".toList ++ name.toList))

end Options
end TerminalDialogs
