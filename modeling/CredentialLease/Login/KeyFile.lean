import CredentialLease.Activity.Execution
import CredentialLease.FileTree.Basic

/-!
# Login with private key material from a file

A login reads the key file of the principal. White space at its end does not belong to the
material. A login fails when the principal is blank, the file cannot be read, or there is nothing
in it. Nothing is left to do at a logout.
-/

namespace CredentialLease.KeyFile

/-- Whether a byte is white space at the end of a key file. -/
def isSpace (b : UInt8) : Bool := b == 32 || b == 9 || b == 10 || b == 12 || b == 13

/-- The key material in the contents of a key file. -/
def trimmedMaterial (contents : Bytes) : Bytes := (contents.reverse.dropWhile isSpace).reverse

/-- The key material in the file at a path. -/
def readMaterial (tree : FileTree) (path : String) : Except CredentialError SecretMaterial :=
  match tree.read path with
  | .error error =>
    .error (.authentication s!"cannot read key material {path}: {error.message}")
  | .ok contents =>
    let material := trimmedMaterial contents
    if material = [] then .error (.authentication s!"key material {path} is empty")
    else .ok ⟨material⟩

/-- The identity that credentials authenticate. -/
def login (tree : FileTree) (credentials : LoginCredentials) : Except CredentialError Identity :=
  if isBlankText credentials.principal then .error (.authentication "principal is empty")
  else (readMaterial tree credentials.keyPath).map fun material => ⟨credentials.principal, material⟩

/-- The provider that reads key files in a part of the storage. Every login has a context of its
own. -/
def provider {κ : Type} (tree : κ → FileTree) : AuthProvider κ where
  login world credentials := .now ((login (tree world.storage) credentials).map .fresh)
  logout _ _ := .ok ()

end CredentialLease.KeyFile
