import CredentialLease.Text.Pieces

/-!
# The parts of file paths

A path is a text; paths that are not valid UTF-8 are not considered. Its segments are what stands
between its slashes; empty ones count for nothing. Its pieces are what stands between its slashes
behind the one of the root, empty ones included.

Some pieces lead nowhere: empty ones and those that name the directory they are in, except for a dot
that begins a relative path. The directory of a path is the text before its last piece that leads
somewhere, without the pieces at its end that lead nowhere; those further in front stay as they are
written. The name of a path is its last piece that leads somewhere, unless that is `.` or `..`.
-/

namespace CredentialLease.Path

/-- The names between the slashes of a path. -/
def segments (path : String) : List String :=
  ((Text.splitOn '/' path.toList).filter (· ≠ [])).map String.ofList

/-- Whether a path begins at the root. -/
def isAbsolute (path : String) : Bool := path.toList.head? = some '/'

/-- Whether a path ends in a slash. -/
def endsInSlash (path : String) : Bool := path.toList.getLast? = some '/'

/-- The texts between the slashes of a path, behind the one of the root. -/
def pieces (path : String) : List String :=
  let behind := if isAbsolute path then path.toList.tail else path.toList
  (Text.splitOn '/' behind).map String.ofList

/-- The path of pieces. -/
def ofPieces (absolute : Bool) (pieces : List String) : String :=
  (if absolute then "/" else "") ++ String.intercalate "/" pieces

/-- Whether a piece leads nowhere that has these pieces before it. -/
def isIdle (absolute : Bool) (piece : String) (before : List String) : Bool :=
  piece = "" ∨ (piece = "." ∧ (absolute ∨ before ≠ []))

/-- Pieces in reverse without those at the end of their path that lead nowhere. -/
def dropIdle (absolute : Bool) : List String → List String
  | [] => []
  | piece :: before =>
    if isIdle absolute piece before then dropIdle absolute before else piece :: before

/-- The pieces of a path in reverse, from the last one that leads somewhere. -/
def trail (path : String) : List String := dropIdle (isAbsolute path) (pieces path).reverse

/-- The name of a path, if it has one. -/
def fileName (path : String) : Option String :=
  (trail path).head?.filter fun name => name ≠ "." ∧ name ≠ ".."

/-- The directory of a path, if it leads anywhere. -/
def parent (path : String) : Option String :=
  match trail path with
  | [] => none
  | _ :: before =>
    some (ofPieces (isAbsolute path) (dropIdle (isAbsolute path) before).reverse)

/-- The paths of pieces in reverse, and of the directories that they go through, the longest first. -/
def paths (absolute : Bool) : List String → List String
  | [] => []
  | piece :: before =>
    if isIdle absolute piece before then paths absolute before
    else ofPieces absolute (piece :: before).reverse :: paths absolute before

/-- The directories that a path goes through, the last one first. The root and the working directory
are none of them. -/
def directories (path : String) : List String := paths (isAbsolute path) (trail path).tail

/-- The path of a name in a directory. -/
def join (directory name : String) : String :=
  if directory = "" then name
  else if endsInSlash directory then directory ++ name
  else directory ++ "/" ++ name

/-- The path with its name replaced; a path without a name is taken for a directory. -/
def withFileName (path name : String) : String :=
  match fileName path, parent path with
  | some _, some directory => join directory name
  | _, _ => join path name

end CredentialLease.Path
