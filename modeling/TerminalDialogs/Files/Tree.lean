import TerminalDialogs.Files.Path
import TerminalDialogs.Text.Utf8

/-!
# File trees

A file tree is given by what lies at each place, where a place is the list of
names from the root.  Paths are followed from the working directory, through
symbolic links, whose targets are followed from the directory that holds the
link.  A chain of links that is too long is taken for a loop.

Two things that a disk can have are left out.  A tree knows no permissions: every
directory can be listed and every file looked at, and a permission is refused
only to who wants to run what is no command.  And names are texts, so there is
none whose bytes are not UTF-8.
-/

namespace TerminalDialogs
namespace Files

/-- What can lie at a place. -/
inductive Entry where
  | file (size : Nat)
  | directory
  | link (target : Text)
  deriving DecidableEq, Repr

/-- The names from the root down to a place. -/
abbrev Place := List Text

/-- A file tree. -/
structure Tree where
  /-- What lies where; directories above are implied. -/
  entries : List (Place × Entry) := []
  /-- The working directory. -/
  working : Place := []
  deriving DecidableEq, Repr

/-- Why a path leads nowhere. -/
inductive Problem where
  | notFound
  | notDirectory
  | tooManyLinks
  | isDirectory
  | exists
  | nameTooLong
  | notPermitted
  /-- A path with a zero byte in it, which no system call takes. -/
  | zeroByte
  deriving DecidableEq, Repr

/-- What is said about a problem. -/
def Problem.message : Problem → Text
  | .notFound => "No such file or directory (os error 2)".toList
  | .notDirectory => "Not a directory (os error 20)".toList
  | .tooManyLinks => "Too many levels of symbolic links (os error 40)".toList
  | .isDirectory => "Is a directory (os error 21)".toList
  | .exists => "File exists (os error 17)".toList
  | .nameTooLong => "File name too long (os error 36)".toList
  | .notPermitted => "Permission denied (os error 13)".toList
  | .zeroByte => "file name contained an unexpected NUL byte".toList

namespace Tree

/-- What lies at a place.  A place with something below it is a directory. -/
def at? (t : Tree) (place : Place) : Option Entry :=
  match t.entries.find? fun e => e.1 == place with
  | some e => some e.2
  | none =>
      if place.isEmpty || place.isPrefixOf t.working ||
          t.entries.any fun e => place.isPrefixOf e.1 then
        some .directory
      else none

/-- The names in a directory. -/
def namesIn (t : Tree) (place : Place) : List Text :=
  let below (p : Place) : Option Text :=
    if place.isPrefixOf p then (p.drop place.length).head? else none
  ((t.working :: t.entries.map Prod.fst).filterMap below).eraseDups

/-- The steps along a path.  A slash at its end asks for a directory, just as a
single dot does, and is read as one. -/
def steps (p : Text) : List Text :=
  let pieces := Text.pieces '/' p
  pieces.filter (· != []) ++ if pieces.getLast? == some [] then [['.']] else []

/-- The names along a path. -/
def names (p : Text) : List Text := (steps p).filter (· != ['.'])

/-- The greatest number of links along a path. -/
def linkLimit : Nat := 40

/-- The greatest number of bytes in a name. -/
def nameLimit : Nat := 255

/-- The number of bytes that a path does not reach. -/
def pathLimit : Nat := 4096

/-- The place from which a path is followed that is met at a place. -/
def startOf (place : Place) (p : Text) : Place := if Path.isAbsolute p then [] else place

/-- Follows steps from a place, and links on the way; `links` more links may be
met. -/
def follow (t : Tree) : (links : Nat) → Place → List Text → Except Problem Place
  | _, place, [] => .ok place
  | links, place, name :: rest =>
      if t.at? place ≠ some .directory then .error .notDirectory
      else if name = ['.'] then follow t links place rest
      else if name = ['.', '.'] then follow t links place.dropLast rest
      else if nameLimit < Utf8.size name then .error .nameTooLong
      else
        match t.at? (place ++ [name]) with
        | none => .error .notFound
        | some (.link target) =>
            match links with
            | 0 => .error .tooManyLinks
            | links + 1 => follow t links (startOf place target) (steps target ++ rest)
        | some _ => follow t links (place ++ [name]) rest
termination_by links _ rest => (links, rest.length)

/-- What is wrong with a path, whatever lies where. -/
def pathProblem? (p : Text) : Option Problem :=
  if p.any (· == '\x00') then some .zeroByte
  else if p.isEmpty then some .notFound
  else if pathLimit ≤ Utf8.size p then some .nameTooLong
  else none

/-- The place that a path leads to. -/
def resolve (t : Tree) (p : Text) : Except Problem Place :=
  match pathProblem? p with
  | some problem => .error problem
  | none => t.follow linkLimit (startOf t.working p) (steps p)

/-- What a path leads to, links followed. -/
def lookUp (t : Tree) (p : Text) : Except Problem Entry := do
  let place ← t.resolve p
  match t.at? place with
  | some entry => pure entry
  | none => .error .notFound

/-- Whether a path leads to a directory, links followed. -/
def isDirectory (t : Tree) (p : Text) : Bool :=
  match t.lookUp p with
  | .ok .directory => true
  | _ => false

/-- Whether a path leads anywhere, links followed. -/
def isThere (t : Tree) (p : Text) : Bool :=
  match t.lookUp p with
  | .ok _ => true
  | .error _ => false

end Tree

/-- What a directory shows of an entry. -/
structure Listed where
  name : Text
  /-- Whether it is a directory or a link to one. -/
  isDirectory : Bool
  /-- The number of bytes of a file or of the target of a link. -/
  size : Nat
  deriving DecidableEq, Repr

/-- Whether one listed entry comes before another: directories come first, and
otherwise names decide. -/
def Listed.before (a b : Listed) : Bool :=
  if a.isDirectory != b.isDirectory then a.isDirectory
  else !(decide (b.name < a.name))

/-- Why a directory cannot be listed. -/
structure ListError where
  path : Text
  problem : Problem
  deriving DecidableEq, Repr

/-- What is said about a directory that cannot be listed. -/
def ListError.message (e : ListError) : Text :=
  "IO error for operation on ".toList ++ e.path ++ ": ".toList ++ e.problem.message

/-- Whether a name is hidden unless asked for. -/
def isHidden (name : Text) : Bool := name.head? == some '.'

namespace Tree

/-- The size that is shown of what a path leads to; nothing can be asked with a path that no system
call takes. -/
def shownSize (path : Text) (size : Nat) : Nat := if (pathProblem? path).isSome then 0 else size

/-- What is shown of the entry with the given name in a directory. -/
def listed (t : Tree) (directory : Text) (place : Place) (name : Text) : Listed :=
  let path := Path.child directory name
  match t.at? (place ++ [name]) with
  | some (.file size) => ⟨name, false, shownSize path size⟩
  | some (.link target) =>
      if t.isDirectory path then ⟨name, true, 0⟩
      else ⟨name, false, shownSize path (Utf8.size target)⟩
  | _ => ⟨name, true, 0⟩

/-- What a directory holds, directories first.  A path to a file holds
nothing. -/
def list (t : Tree) (showHidden : Bool) (directory : Text) : Except ListError (List Listed) :=
  match t.resolve directory with
  | .error problem => .error ⟨directory, problem⟩
  | .ok place =>
      if t.at? place = some .directory then
        let names := (t.namesIn place).filter fun name => showHidden || !isHidden name
        .ok ((names.map (t.listed directory place)).mergeSort Listed.before)
      else .ok []

end Tree

end Files
end TerminalDialogs
