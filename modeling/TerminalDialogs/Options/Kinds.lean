import TerminalDialogs.Options.Field

/-!
# The options of each kind of widget

Every record has defaults for all of its fields.  Where an empty text or a zero
stands for a default of its own, the widget says so.
-/

namespace TerminalDialogs
namespace Options

open Json (Mismatch)

/-- Options of a one-line field. -/
structure Input where
  title : Text := []
  description : Text := []
  /-- Shown while the field is empty. -/
  placeholder : Text := []
  /-- What the field holds at first. -/
  value : Text := []
  /-- The greatest number of characters; zero for any number. -/
  charLimit : Nat := 0
  /-- The width of the field; zero for all there is. -/
  width : Nat := 0
  /-- Whether what is typed is hidden. -/
  password : Bool := false
  /-- What stands in front of the field. -/
  prompt : Text := []
  deriving DecidableEq, Repr

/-- The fields of `Input`. -/
def Input.fields : List (Field Input) :=
  [.of readText (fun a s => { s with title := a }) ["title"],
    .of readText (fun a s => { s with description := a }) ["description"],
    .of readText (fun a s => { s with placeholder := a }) ["placeholder"],
    .of readText (fun a s => { s with value := a }) ["value"],
    .of readCount (fun a s => { s with charLimit := a }) ["char_limit"],
    .of readExtent (fun a s => { s with width := a }) ["width"],
    .of readBool (fun a s => { s with password := a }) ["password"],
    .of readText (fun a s => { s with prompt := a }) ["prompt"]]

/-- Options of a question. -/
structure Confirm where
  title : Text := []
  description : Text := []
  /-- The label of the positive button. -/
  affirmative : Text := []
  /-- The label of the negative button. -/
  negative : Text := []
  /-- The answer that is selected at first. -/
  initial : Bool := false
  deriving DecidableEq, Repr

/-- The fields of `Confirm`. -/
def Confirm.fields : List (Field Confirm) :=
  [.of readText (fun a s => { s with title := a }) ["title"],
    .of readText (fun a s => { s with description := a }) ["description"],
    .of readText (fun a s => { s with affirmative := a }) ["affirmative"],
    .of readText (fun a s => { s with negative := a }) ["negative"],
    .of readBool (fun a s => { s with initial := a }) ["default"]]

/-- Options of a choice from a list. -/
structure Choose where
  title : Text := []
  description : Text := []
  /-- What can be chosen. -/
  items : List Text := []
  /-- The item where the cursor stands at first. -/
  selected : Text := []
  /-- The greatest number of items; more than one allows several. -/
  limit : Nat := 0
  /-- Whether any number of items may be chosen. -/
  noLimit : Bool := false
  /-- Whether the result follows the list instead of the choices. -/
  ordered : Bool := false
  /-- The greatest number of rows of the list; zero for all there are. -/
  height : Nat := 0
  /-- What stands in front of the item under the cursor. -/
  cursor : Text := []
  deriving DecidableEq, Repr

/-- The fields of `Choose`. -/
def Choose.fields : List (Field Choose) :=
  [.of readText (fun a s => { s with title := a }) ["title"],
    .of readText (fun a s => { s with description := a }) ["description"],
    .of (readList readText) (fun a s => { s with items := a }) ["options"],
    .of readText (fun a s => { s with selected := a }) ["selected"],
    .of readCount (fun a s => { s with limit := a }) ["limit"],
    .of readBool (fun a s => { s with noLimit := a }) ["no_limit"],
    .of readBool (fun a s => { s with ordered := a }) ["ordered"],
    .of readExtent (fun a s => { s with height := a }) ["height"],
    .of readText (fun a s => { s with cursor := a }) ["cursor"]]

/-- Whether several items may be chosen. -/
def Choose.isMulti (o : Choose) : Bool := o.noLimit || 1 < o.limit

/-- The greatest number of items; zero for any number. -/
def Choose.itemLimit (o : Choose) : Nat := if o.noLimit then 0 else o.limit

/-- Options of a list that is narrowed down by typing. -/
structure Filter where
  title : Text := []
  description : Text := []
  /-- What can be chosen. -/
  items : List Text := []
  /-- The greatest number of items; more than one allows several. -/
  limit : Nat := 0
  /-- Whether any number of items may be chosen. -/
  noLimit : Bool := false
  /-- The positions that are selected at first. -/
  selected : List Nat := []
  /-- Shown while nothing is typed. -/
  placeholder : Text := []
  /-- What stands in front of the query. -/
  prompt : Text := []
  /-- What is typed at first. -/
  value : Text := []
  /-- The width of the query; zero for all there is. -/
  width : Nat := 0
  /-- The greatest number of rows of the list; zero for all there are. -/
  height : Nat := 0
  /-- Whether the list is drawn from the bottom. -/
  reverse : Bool := false
  /-- Whether characters may be missing between those of the query. -/
  fuzzy : Bool := true
  /-- Whether better matches come first. -/
  sort : Bool := true
  /-- Whether only items of the list may be returned. -/
  strict : Bool := true
  deriving DecidableEq, Repr

/-- The fields of `Filter`. -/
def Filter.fields : List (Field Filter) :=
  [.of readText (fun a s => { s with title := a }) ["title"],
    .of readText (fun a s => { s with description := a }) ["description"],
    .of (readList readText) (fun a s => { s with items := a }) ["options"],
    .of readCount (fun a s => { s with limit := a }) ["limit"],
    .of readBool (fun a s => { s with noLimit := a }) ["no_limit"],
    .of (readList readCount) (fun a s => { s with selected := a }) ["selected"],
    .of readText (fun a s => { s with placeholder := a }) ["placeholder"],
    .of readText (fun a s => { s with prompt := a }) ["prompt"],
    .of readText (fun a s => { s with value := a }) ["value"],
    .of readExtent (fun a s => { s with width := a }) ["width"],
    .of readExtent (fun a s => { s with height := a }) ["height"],
    .of readBool (fun a s => { s with reverse := a }) ["reverse"],
    .of readBool (fun a s => { s with fuzzy := a }) ["fuzzy"],
    .of readBool (fun a s => { s with sort := a }) ["sort"],
    .of readBool (fun a s => { s with strict := a }) ["strict"]]

/-- Whether several items may be chosen. -/
def Filter.isMulti (o : Filter) : Bool := o.noLimit || 1 < o.limit

/-- The greatest number of items; zero for any number. -/
def Filter.itemLimit (o : Filter) : Nat := if o.noLimit then 0 else o.limit

/-- Options of a file picker. -/
structure File where
  title : Text := []
  description : Text := []
  /-- The directory where it starts; the working directory if empty. -/
  path : Text := []
  /-- Endings that may be picked; any if there are none. -/
  extensions : List Text := []
  showHidden : Bool := false
  showSize : Bool := false
  /-- Whether files may be picked. -/
  fileAllowed : Bool := false
  /-- Whether directories may be picked. -/
  dirAllowed : Bool := false
  /-- The greatest number of rows of the list; zero for all there are. -/
  height : Nat := 0
  deriving DecidableEq, Repr

/-- The fields of `File`. -/
def File.fields : List (Field File) :=
  [.of readText (fun a s => { s with title := a }) ["title"],
    .of readText (fun a s => { s with description := a }) ["description"],
    .of readText (fun a s => { s with path := a }) ["path", "current_directory"],
    .of (readList readText) (fun a s => { s with extensions := a })
      ["allowed_exts", "allowed_extensions"],
    .of readBool (fun a s => { s with showHidden := a }) ["show_hidden"],
    .of readBool (fun a s => { s with showSize := a }) ["show_size"],
    .of readBool (fun a s => { s with fileAllowed := a }) ["file_allowed"],
    .of readBool (fun a s => { s with dirAllowed := a }) ["dir_allowed"],
    .of readExtent (fun a s => { s with height := a }) ["height"]]

/-- Options of an editor. -/
structure Write where
  title : Text := []
  description : Text := []
  /-- Shown while the text is empty. -/
  placeholder : Text := []
  /-- The text at first. -/
  value : Text := []
  /-- The greatest number of characters, line breaks counted; zero for any
  number. -/
  charLimit : Nat := 0
  /-- The width of the text; zero for all there is. -/
  width : Nat := 0
  /-- The number of rows of the text. -/
  height : Nat := 0
  showLineNumbers : Bool := false
  deriving DecidableEq, Repr

/-- The fields of `Write`. -/
def Write.fields : List (Field Write) :=
  [.of readText (fun a s => { s with title := a }) ["title"],
    .of readText (fun a s => { s with description := a }) ["description"],
    .of readText (fun a s => { s with placeholder := a }) ["placeholder"],
    .of readText (fun a s => { s with value := a }) ["value"],
    .of readCount (fun a s => { s with charLimit := a }) ["char_limit"],
    .of readExtent (fun a s => { s with width := a }) ["width"],
    .of readExtent (fun a s => { s with height := a }) ["height"],
    .of readBool (fun a s => { s with showLineNumbers := a }) ["show_line_numbers"]]

/-- Options of a spinner. -/
structure Spin where
  title : Text := []
  /-- The name of the animation. -/
  spinner : Text := []
  /-- The program to run and its arguments. -/
  command : List Text := []
  deriving DecidableEq, Repr

/-- The fields of `Spin`. -/
def Spin.fields : List (Field Spin) :=
  [.of readText (fun a s => { s with title := a }) ["title"],
    .of readText (fun a s => { s with spinner := a }) ["spinner", "type"],
    .of (readList readText) (fun a s => { s with command := a }) ["command"]]

/-- Options of a pager. -/
structure Pager where
  title : Text := []
  content : Text := []
  showLineNumbers : Bool := false
  /-- Whether long lines go on in the next row. -/
  softWrap : Bool := false
  deriving DecidableEq, Repr

/-- The fields of `Pager`. -/
def Pager.fields : List (Field Pager) :=
  [.of readText (fun a s => { s with title := a }) ["title"],
    .of readText (fun a s => { s with content := a }) ["content"],
    .of readBool (fun a s => { s with showLineNumbers := a })
      ["show_line_numbers", "show_line_num"],
    .of readBool (fun a s => { s with softWrap := a }) ["soft_wrap"]]

/-- The head of a column: its title and its width, zero for as much as is
needed. -/
structure Column where
  title : Text
  width : Nat := 0
  deriving DecidableEq, Repr

/-- Options of a table. -/
structure Table where
  title : Text := []
  columns : List Column := []
  rows : List (List Text) := []
  /-- The rows as delimited text, used if there are no rows. -/
  csv : Text := []
  /-- What separates the cells of delimited text. -/
  separator : Text := []
  /-- Whether delimited text starts with the titles of the columns. -/
  hasHeader : Bool := false
  /-- The greatest number of rows shown; zero for all there are. -/
  height : Nat := 0
  /-- The row where the cursor stands at first. -/
  selectedIndex : Nat := 0
  border : Bool := false
  deriving DecidableEq, Repr

/-- The width of a column, if it is one. -/
def columnWidth? : Json → Option Nat
  | .number (.natural n) => if n < extentLimit then some n else none
  | _ => none

/-- The head of a column: a title, or an object with title and width. -/
def column? : Json → Option Column
  | .string title => some ⟨title, 0⟩
  | .object members =>
      let j := Json.object members
      match j.member? "title".toList, j.member? "width".toList with
      | some (.string title), none => some ⟨title, 0⟩
      | some (.string title), some width => (columnWidth? width).map fun w => ⟨title, w⟩
      | _, _ => none
  | _ => none

/-- Reads the head of a column. -/
def readColumn (j : Json) : Except Mismatch Column :=
  match column? j with
  | some c => .ok c
  | none => .error (.noVariant "ColumnSpec".toList)

/-- The fields of `Table`. -/
def Table.fields : List (Field Table) :=
  [.of readText (fun a s => { s with title := a }) ["title"],
    .of (readList readColumn) (fun a s => { s with columns := a }) ["columns"],
    .of (readList (readList readText)) (fun a s => { s with rows := a }) ["rows"],
    .of readText (fun a s => { s with csv := a }) ["csv"],
    .of readText (fun a s => { s with separator := a }) ["separator"],
    .of readBool (fun a s => { s with hasHeader := a }) ["has_header"],
    .of readExtent (fun a s => { s with height := a }) ["height"],
    .of readCount (fun a s => { s with selectedIndex := a }) ["selected_index"],
    .of readBool (fun a s => { s with border := a }) ["border"]]

end Options
end TerminalDialogs
