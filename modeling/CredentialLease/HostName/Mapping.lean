import CredentialLease.HostName.MappingTable
import CredentialLease.Text.Canonical
import CredentialLease.Text.Casing

/-!
# Host names in their mapped form

Different spellings of a host name have one mapped form: it is in lower case, characters without a
meaning of their own are left out, compatibility characters are replaced by those they stand for,
and the whole is in canonical form. A name with a forbidden character has none.
-/

namespace CredentialLease.HostName

/-- Whether a character belongs to ASCII. -/
def isAscii (c : Char) : Bool := c.toNat < 0x80

/-- The image of a code point that a run covers. -/
def ImageRun.apply (run : ImageRun) (code : Nat) : Nat := run.image + (code - run.first)

/-- The one other character that stands for a character. -/
def image (c : Char) : Option Char :=
  (imageRuns.find? fun run => run.first ≤ c.toNat && c.toNat ≤ run.last).map fun run =>
    Char.ofNat (run.apply c.toNat)

/-- The several characters that stand for a character. -/
def expansion (c : Char) : Option (List Char) :=
  (expansions.find? fun expansion => expansion.code == c.toNat).map fun expansion =>
    expansion.parts.map Char.ofNat

/-- The characters that stand for a character, unless it is forbidden. -/
def mapChar (c : Char) : Option (List Char) :=
  if isAscii c then some [c.toLower]
  else if forbidden.contains c then none
  else if ignored.contains c then some []
  else
    match image c with
    | some d => some [d]
    | none =>
      match expansion c with
      | some parts => some parts
      | none => some (if caseless.contains c then [c] else Text.lowerInContext [] c [])

/-- The mapped form of a name. -/
def mapped (name : List Char) : Option (List Char) :=
  (name.mapM mapChar).map fun parts => Text.canonical parts.flatten

/-- Whether a name is in mapped form. -/
def isMapped (name : List Char) : Bool :=
  name.all (fun c => mapChar c == some [c]) && Text.canonical name == name

end CredentialLease.HostName
