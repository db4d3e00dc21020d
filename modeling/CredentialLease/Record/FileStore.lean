import CredentialLease.FileTree.Basic
import CredentialLease.Record.Store
import CredentialLease.Text.Blank

/-!
# Records in files

A file store keeps a record as a JSON object in a file. A file that is missing or blank holds the
empty record. Saving writes a new file beside the old one, under a name that no other save uses,
and moves it into its place, so that the file is replaced as a whole or not at all. If there is no
room for the new file, what has been written of it is removed.
-/

namespace CredentialLease

/-- Files and directories as one process sees them. -/
structure Disk where
  tree : FileTree
  /-- The number of the process. -/
  process : Nat
  /-- The number of the next temporary file of the process. After the greatest number comes zero. -/
  temporaries : UInt32

namespace FileStore

/-- The record in the text of a file. -/
def parse (path text : String) : Except Failure CredentialRecord :=
  if isBlankText text then .ok .empty
  else
    match CredentialRecord.read text with
    | some record => .ok record
    | none => .error (.other s!"credential record {path} is not valid JSON")

/-- Loads the record in the file at a path. -/
def load (path : String) (disk : Disk) : Except Failure CredentialRecord :=
  match disk.tree.read path with
  | .error .notFound => .ok .empty
  | .error error => .error (.file error)
  | .ok contents =>
    match ofUtf8 contents with
    | some text => parse path text
    | none => .error (.file .notUtf8)

/-- The path of the temporary file of a save. -/
def temporaryPath (path : String) (disk : Disk) : String :=
  let name := (Path.fileName path).getD ""
  Path.withFileName path s!"{name}.{disk.process}.{disk.temporaries}.tmp"

/-- Replaces the file at a path by way of a temporary file, for which there is so much room. -/
def replace (tree : FileTree) (temporary path : String) (contents : Bytes) (room : Option Nat) :
    Except FileError Unit × FileTree :=
  match tree.writeWithin room temporary contents with
  | (.error error, written) => (.error error, written.removeFile temporary)
  | (.ok (), written) =>
    match written.moveFile temporary path with
    | .ok moved => (.ok (), moved)
    | .error error => (.error error, written.removeFile temporary)

/-- Makes the directory that a path is in, unless that is the root or the working directory. -/
def makeParent (tree : FileTree) (path : String) : Except FileError Unit × FileTree :=
  tree.makeDirectories (Path.directories path)

/-- Saves a record in the file at a path, where there is so much room for another file. -/
def save (path : String) (record : CredentialRecord) (disk : Disk) (room : Option Nat := none) :
    Except Failure Unit × Disk :=
  let contents := utf8 record.toJson.pretty
  let temporary := temporaryPath path disk
  let result : Except FileError Unit × FileTree := match makeParent disk.tree path with
    | (.error error, tree) => (.error error, tree)
    | (.ok (), tree) => replace tree temporary path contents room
  (result.1.mapError Failure.file,
    { disk with tree := result.2, temporaries := disk.temporaries + 1 })

/-- The store of the file at a path. The room for another file depends on the disk. -/
def store (path : String) (room : Disk → Option Nat := fun _ => none) : RecordStore Disk where
  load := load path
  save record disk := save path record disk (room disk)

end FileStore

end CredentialLease
