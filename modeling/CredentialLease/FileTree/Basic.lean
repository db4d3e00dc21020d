import CredentialLease.Bytes
import CredentialLease.Error
import CredentialLease.FileTree.Path
import CredentialLease.Text.Utf8

/-!
# Files and directories, and the operations on them

A tree holds a node at every place that exists: a directory, or a file with its contents. A place
is the list of names that leads to it from the root, which always exists. One directory is the
working directory, where relative paths begin. There are no links and no permissions.

Operations resolve their paths one segment after the other, so that a missing directory, a file in
the place of a directory and a name that is too long are each found where they are met.

Main statements: `get_set_self`, `get_set_of_ne`, `get_erase_self` and `get_erase_of_ne`, which
say what stands where after a change.
-/

namespace CredentialLease

/-- The names that lead from the root to a place. -/
abbrev Location := List String

/-- What stands at a place. -/
inductive Node where
  | directory
  | file (contents : Bytes)
deriving DecidableEq, Inhabited

/-- Files and directories. -/
structure FileTree where
  nodes : List (Location × Node)
  /-- Where relative paths begin. -/
  workingDirectory : Location

namespace FileTree

/-! ### Places -/

/-- What stands at a place, if anything does. -/
def get (tree : FileTree) (place : Location) : Option Node :=
  if place = [] then some .directory else tree.nodes.lookup place

/-- The tree with nothing at a place. -/
def erase (tree : FileTree) (place : Location) : FileTree :=
  { tree with nodes := tree.nodes.filter fun entry => entry.1 ≠ place }

/-- The tree with a node at a place. -/
def set (tree : FileTree) (place : Location) (node : Node) : FileTree :=
  { tree with nodes := (place, node) :: (tree.erase place).nodes }

/-- A tree with nothing but its working directory. -/
def fresh (workingDirectory : Location) : FileTree :=
  ⟨(List.range workingDirectory.length).map fun depth =>
    (workingDirectory.take (depth + 1), .directory), workingDirectory⟩

theorem lookup_filter_ne (nodes : List (Location × Node)) {place other : Location}
    (h : other ≠ place) :
    (nodes.filter fun entry => entry.1 ≠ place).lookup other = nodes.lookup other := by
  induction nodes with
  | nil => rfl
  | cons entry rest ih =>
    obtain ⟨spot, node⟩ := entry
    by_cases hKept : spot = place
    · subst hKept
      have hOther : (other == spot) = false := beq_eq_false_iff_ne.2 h
      rw [List.filter_cons_of_neg (by simp), ih, List.lookup_cons, hOther]
    · rw [List.filter_cons_of_pos (by simpa using hKept), List.lookup_cons, List.lookup_cons, ih]

theorem lookup_filter_self (nodes : List (Location × Node)) (place : Location) :
    (nodes.filter fun entry => entry.1 ≠ place).lookup place = none := by
  induction nodes with
  | nil => rfl
  | cons entry rest ih =>
    obtain ⟨spot, node⟩ := entry
    by_cases hKept : spot = place
    · rw [List.filter_cons_of_neg (by simpa using hKept), ih]
    · have hOther : (place == spot) = false := beq_eq_false_iff_ne.2 (Ne.symm hKept)
      rw [List.filter_cons_of_pos (by simpa using hKept), List.lookup_cons, hOther, ih]

theorem get_set_self (tree : FileTree) {place : Location} (node : Node) (h : place ≠ []) :
    (tree.set place node).get place = some node := by
  simp [get, set, h]

theorem get_set_of_ne (tree : FileTree) {place other : Location} (node : Node)
    (h : other ≠ place) : (tree.set place node).get other = tree.get other := by
  have hOther : (other == place) = false := beq_eq_false_iff_ne.2 h
  simp only [get, set, erase, List.lookup_cons, hOther, lookup_filter_ne tree.nodes h]

theorem get_erase_self (tree : FileTree) {place : Location} (h : place ≠ []) :
    (tree.erase place).get place = none := by
  simp only [get, erase, h, if_false, lookup_filter_self]

theorem get_erase_of_ne (tree : FileTree) {place other : Location} (h : other ≠ place) :
    (tree.erase place).get other = tree.get other := by
  simp only [get, erase, lookup_filter_ne tree.nodes h]

/-! ### Resolving paths -/

/-- The greatest length of a name in bytes. -/
def maxNameLength : Nat := 255

/-- The length in bytes from which on a path is too long. -/
def pathLimit : Nat := 4096

/-- The place that segments lead to from a place that exists. -/
def walk (tree : FileTree) (start : Location) : List String → Except FileError Location
  | [] => .ok start
  | segment :: rest =>
    if tree.get start ≠ some .directory then .error .notDirectory
    else if segment = "." then tree.walk start rest
    else if segment = ".." then tree.walk start.dropLast rest
    else if maxNameLength < (utf8 segment).length then .error .nameTooLong
    else if tree.get (start ++ [segment]) = none then .error .notFound
    else tree.walk (start ++ [segment]) rest

/-- Refuses texts that are not paths. -/
def checkPath (path : String) : Except FileError Unit :=
  if path.toList.contains (Char.ofNat 0) then .error .nulInPath
  else if path = "" then .error .notFound
  else if pathLimit ≤ (utf8 path).length then .error .nameTooLong
  else .ok ()

/-- Where a path begins. -/
def origin (tree : FileTree) (path : String) : Location :=
  if Path.isAbsolute path then [] else tree.workingDirectory

/-- The place of a path that exists. A slash at the end asks for a directory. -/
def locate (tree : FileTree) (path : String) : Except FileError Location := do
  checkPath path
  tree.walk (tree.origin path)
    (Path.segments path ++ if Path.endsInSlash path then ["."] else [])

/-- Where a path would put something: a directory that exists, and a name in it unless the path
ends in one that cannot be given. -/
def parentOf (tree : FileTree) (path : String) : Except FileError (Location × Option String) := do
  checkPath path
  let segments := Path.segments path
  let directory ← tree.walk (tree.origin path) (segments.dropLast ++ ["."])
  return (directory, segments.getLast?.filter fun name => name ≠ "." ∧ name ≠ "..")

/-! ### Operations -/

/-- Whether there is a directory at a path. -/
def isDirectory (tree : FileTree) (path : String) : Bool :=
  match tree.locate path with
  | .ok place => tree.get place = some .directory
  | .error _ => false

/-- The contents of the file at a path. -/
def read (tree : FileTree) (path : String) : Except FileError Bytes := do
  let place ← tree.locate path
  match tree.get place with
  | some (.file contents) => return contents
  | some .directory => throw .isDirectory
  | none => throw .notFound

/-- Makes a directory in one that exists. -/
def makeDirectory (tree : FileTree) (path : String) : Except FileError FileTree := do
  match ← tree.parentOf path with
  | (_, none) => throw .alreadyExists
  | (directory, some name) =>
    if maxNameLength < (utf8 name).length then throw .nameTooLong
    else if (tree.get (directory ++ [name])).isSome then throw .alreadyExists
    else return tree.set (directory ++ [name]) .directory

/-- Makes the directory at the first of these paths, each of which is in the one after it, and those
at the others that are missing. It is fine if the directory is there already. What was made stays when
the rest fails. -/
def makeDirectories : List String → FileTree → Except FileError Unit × FileTree
  | [], tree => (.ok (), tree)
  | path :: above, tree =>
    let make (tree : FileTree) : Except FileError Unit × FileTree :=
      match tree.makeDirectory path with
      | .ok after => (.ok (), after)
      | .error error => (if tree.isDirectory path then .ok () else .error error, tree)
    match tree.makeDirectory path with
    | .error .notFound =>
      match makeDirectories above tree with
      | (.ok (), after) => make after
      | failed => failed
    | _ => make tree

/-- Makes a directory and those above it that are missing. -/
def makeDirectoryPath (tree : FileTree) (path : String) : Except FileError Unit × FileTree :=
  makeDirectories (Path.paths (Path.isAbsolute path) (Path.pieces path).reverse) tree

/-- Writes a file, replacing its contents if it exists. -/
def write (tree : FileTree) (path : String) (contents : Bytes) : Except FileError FileTree := do
  match ← tree.parentOf path with
  | (_, none) => throw .isDirectory
  | (directory, some name) =>
    if Path.endsInSlash path then throw .isDirectory
    else if maxNameLength < (utf8 name).length then throw .nameTooLong
    else if tree.get (directory ++ [name]) = some .directory then throw .isDirectory
    else return tree.set (directory ++ [name]) (.file contents)

/-- Writes a file as far as there is room for its contents, which is without end if none is given. If
they do not fit, the write fails, and what was written stays. -/
def writeWithin (tree : FileTree) (room : Option Nat) (path : String) (contents : Bytes) :
    Except FileError Unit × FileTree :=
  let fitting := contents.take (room.getD contents.length)
  match tree.write path fitting with
  | .error error => (.error error, tree)
  | .ok written => (if fitting = contents then .ok () else .error .noSpace, written)

/-- Moves a file to another path, replacing a file that is there. -/
def moveFile (tree : FileTree) (source target : String) : Except FileError FileTree := do
  let place ← tree.locate source
  let (directory, name) ← tree.parentOf target
  match name, tree.get place with
  | none, _ => throw .busy
  | some name, some (.file contents) =>
    if maxNameLength < (utf8 name).length then throw .nameTooLong
    else if Path.endsInSlash target then throw .notDirectory
    else if tree.get (directory ++ [name]) = some .directory then throw .isDirectory
    else return (tree.erase place).set (directory ++ [name]) (.file contents)
  | some _, some .directory => throw .isDirectory
  | some _, none => throw .notFound

/-- Removes the file at a path, if there is one. -/
def removeFile (tree : FileTree) (path : String) : FileTree :=
  match tree.locate path with
  | .ok place =>
    match tree.get place with
    | some (.file _) => tree.erase place
    | _ => tree
  | .error _ => tree

end FileTree

end CredentialLease
