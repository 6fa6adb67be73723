import TerminalDialogs.Files.Tree

/-!
# Files with contents

A disk is a file tree together with what is in its files.  Files are read and
written as a whole, and directories are made with all that lie above them.
-/

namespace TerminalDialogs
namespace Files

/-- A file tree with contents. -/
structure Disk where
  tree : Tree := {}
  /-- What is in the files; the latest comes first. -/
  contents : List (Place × List UInt8) := []
  deriving DecidableEq, Repr

namespace Disk

/-- What is in a file of which only the size is known. -/
def unknown (size : Nat) : List UInt8 := List.replicate size 0

/-- What is in the file at a place. -/
def contentsAt (d : Disk) (place : Place) (size : Nat) : List UInt8 :=
  (d.contents.lookup place).getD (unknown size)

/-- Reads a file. -/
def read (d : Disk) (path : Text) : Except Problem (List UInt8) := do
  let place ← d.tree.resolve path
  match d.tree.at? place with
  | some (.file size) => pure (d.contentsAt place size)
  | some _ => .error .isDirectory
  | none => .error .notFound

/-- Puts an entry at a place. -/
def put (d : Disk) (place : Place) (entry : Entry) : Disk :=
  { d with
    tree := { d.tree with
      entries := (place, entry) :: d.tree.entries.filter fun e => e.1 != place } }

/-- What a path ends in. -/
inductive PathEnd where
  /-- A name, behind the steps that lead to its directory.  The flag says whether
  a slash follows the name. -/
  | name (above : List Text) (name : Text) (slash : Bool)
  /-- Dots, behind other steps. -/
  | dots (above : List Text)
  /-- Nothing but slashes. -/
  | root
  deriving DecidableEq, Repr

/-- What a path ends in. -/
def PathEnd.of (p : Text) : PathEnd :=
  let body := (Text.pieces '/' p).filter (· != [])
  match body.getLast? with
  | none => .root
  | some last =>
      if last = ['.'] || last = ['.', '.'] then .dots body.dropLast
      else .name body.dropLast last (p.getLast? == some '/')

/-- The directory to which steps lead. -/
def directoryAt (d : Disk) (links : Nat) (start : Place) (above : List Text) :
    Except Problem Place := do
  let place ← d.tree.follow links start above
  if d.tree.at? place = some .directory then pure place else .error .notDirectory

/-- The place where a path that is met at `start` puts a file.  A link at its end
leads on, also if nothing lies where it leads. -/
def filePlace (d : Disk) : (links : Nat) → (start : Place) → Text → Except Problem Place
  | links, start, p =>
      match PathEnd.of p with
      | .root => .error .isDirectory
      | .dots above => do
          let _ ← d.directoryAt links (Tree.startOf start p) above
          .error .isDirectory
      | .name above name slash => do
          let directory ← d.directoryAt links (Tree.startOf start p) above
          if slash then .error .isDirectory
          else if Tree.nameLimit < Utf8.size name then .error .nameTooLong
          else
            match d.tree.at? (directory ++ [name]) with
            | some .directory => .error .isDirectory
            | some (.link target) =>
                match links with
                | 0 => .error .tooManyLinks
                | links + 1 => filePlace d links directory target
            | _ => pure (directory ++ [name])

/-- The place where a path puts a directory or a link: nothing may be there. -/
def newPlace (d : Disk) (p : Text) : Except Problem Place :=
  let start := Tree.startOf d.tree.working p
  match Tree.pathProblem? p, PathEnd.of p with
  | some problem, _ => .error problem
  | none, .root => .error .exists
  | none, .dots above => do
      let _ ← d.directoryAt Tree.linkLimit start above
      .error .exists
  | none, .name above name _ => do
      let directory ← d.directoryAt Tree.linkLimit start above
      if Tree.nameLimit < Utf8.size name then .error .nameTooLong
      else if (d.tree.at? (directory ++ [name])).isSome then .error .exists
      else pure (directory ++ [name])

/-- Makes a directory. -/
def makeDirectory (d : Disk) (path : Text) : Except Problem Disk := do
  pure (d.put (← d.newPlace path) .directory)

/-- Makes a link. -/
def makeLink (d : Disk) (path target : Text) : Except Problem Disk := do
  pure (d.put (← d.newPlace path) (.link target))

/-- Makes a directory that may be there already. -/
def ensureDirectory (d : Disk) (path : Text) : Except Problem Disk :=
  match d.makeDirectory path with
  | .ok made => .ok made
  | .error problem => if d.tree.isDirectory path then .ok d else .error problem

/-- Makes a directory, given with all those above it, the innermost first.
Those above are made only if one of them is missing. -/
def makeAll (d : Disk) : List Text → Except Problem Disk
  | [] => .ok d
  | path :: above =>
      match d.ensureDirectory path with
      | .error .notFound => do (← d.makeAll above).ensureDirectory path
      | result => result

/-- Makes a directory and all those above it that are missing. -/
def makeDirectories (d : Disk) (path : Text) : Except Problem Disk :=
  d.makeAll (Path.ancestors path)

/-- Makes the directories above a path that are missing. -/
def makeParents (d : Disk) (path : Text) : Except Problem Disk :=
  d.makeDirectories ((Path.parent? path).getD [])

/-- The place where a path puts a file. -/
def placeOf (d : Disk) (path : Text) : Except Problem Place :=
  match Tree.pathProblem? path with
  | some problem => .error problem
  | none => d.filePlace Tree.linkLimit d.tree.working path

/-- Writes a file, replacing what was in it. -/
def write (d : Disk) (path : Text) (bytes : List UInt8) : Except Problem Disk := do
  let place ← d.placeOf path
  let d := d.put place (.file bytes.length)
  pure { d with contents := (place, bytes) :: d.contents }

/-- Makes an entry and the directories above it. -/
def plant (d : Disk) (path : Text) : Entry → Except Problem Disk
  | .directory => d.makeDirectories path
  | .file size => do
      let d ← d.makeParents path
      pure (d.put (← d.placeOf path) (.file size))
  | .link target => do (← d.makeParents path).makeLink path target

/-- A disk on which entries were made one after the other.  What cannot be made
is left out. -/
def ofEntries (working : Place) (entries : List (Text × Entry)) : Disk :=
  entries.foldl (fun d e => (d.plant e.1 e.2).toOption.getD d) { tree := { working } }

end Disk

end Files
end TerminalDialogs
