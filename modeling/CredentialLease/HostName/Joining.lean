import CredentialLease.HostName.JoiningTable
import CredentialLease.Text.Canonical

/-!
# Invisible joiners in host names

Two invisible characters ask that the characters around them be joined or kept apart. A host name
may hold them only where they change how it looks: after a character that hides the vowel of a
consonant, and, to keep letters apart, between two letters that would join.
-/

namespace CredentialLease.HostName

/-- The character that keeps its neighbours apart. -/
def nonJoiner : Char := Char.ofNat 0x200C

/-- The character that joins its neighbours. -/
def joiner : Char := Char.ofNat 0x200D

/-- The combining class of the characters that hide a vowel. -/
def viramaClass : Nat := 9

/-- The first character that others do not join across. -/
def joining (s : List Char) : Option Char := s.find? fun c => !transparent.contains c

/-- Whether the letters on both sides of a place join; those before it come in reverse. -/
def joinsAcross (before after : List Char) : Bool :=
  (joining before).any (fun c => joinsAfter.contains c || joinsBoth.contains c)
    && (joining after).any (fun c => joinsBefore.contains c || joinsBoth.contains c)

/-- Whether a character may stand between the text before it, in reverse, and the text after
it. -/
def isPlaced (before : List Char) (c : Char) (after : List Char) : Bool :=
  (c ≠ joiner && c ≠ nonJoiner)
    || before.head?.any (fun d => Text.combiningClass d = viramaClass)
    || (c = nonJoiner && joinsAcross before after)

/-- Whether the joiners of a text may stand where they do, given the text before it in reverse. -/
def joinersPlaced (before : List Char) : List Char → Bool
  | [] => true
  | c :: rest => isPlaced before c rest && joinersPlaced (c :: before) rest

end CredentialLease.HostName
