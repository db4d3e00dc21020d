import CredentialLease.HostName.Direction
import CredentialLease.HostName.Joining
import CredentialLease.HostName.Mapping
import CredentialLease.HostName.Punycode
import CredentialLease.Text.Pieces

/-!
# Host names in ASCII

Host names are looked up in ASCII. `toAscii` brings a name into its mapped form, checks each of
the labels between its dots, and writes those with characters beyond ASCII in letters and digits
after the mark `xn--`. A label that bears the mark already is read, and checked like others.

Main statement: `isAllowed_of_toAscii` (what comes out is a text of allowed characters).
-/

namespace CredentialLease.HostName

/-! ### Labels -/

/-- What marks a label that stands for one beyond ASCII. -/
def encodedMark : List Char := "xn--".toList

/-- The longest text after the mark that is read. -/
def longestRead : Nat := 2000

/-- The longest label beyond ASCII that is written. -/
def longestWritten : Nat := 1000

/-- The label that the text after the mark stands for. It must need the mark, and be mapped. -/
def readLabel (text : List Char) : Option (List Char) := do
  let hyphenated := text.getLast? = some '-'
  if text = [] ∨ hyphenated ∨ longestRead < text.length ∨ !text.all isAscii then none
  else
    let label ← Punycode.decode text
    if label.all isAscii || !isMapped label then none else some label

/-- The label in Unicode that a label of a mapped name stands for. -/
def unicodeLabel (label : List Char) : Option (List Char) :=
  if encodedMark.isPrefixOf label then readLabel (label.drop encodedMark.length) else some label

/-- Whether a label in Unicode begins with a character of its own and has its joiners in place. -/
def isSound (label : List Char) : Bool :=
  !label.head?.any Text.isMark && joinersPlaced [] label

/-- A label of a mapped name in ASCII. -/
def asciiLabel (label : List Char) : Option (List Char) :=
  if label.all isAscii then some label
  else if longestWritten < label.length then none
  else some (encodedMark ++ Punycode.encode label)

/-! ### Names -/

/-- The characters of ASCII that no host name may hold, control characters apart. -/
def reserved : List Char :=
  [' ', '"', '#', '%', '/', ':', '<', '>', '?', '@', '[', '\\', ']', '^', Char.ofNat 96, '\x7b',
   '|', '\x7d', '\x7f']

/-- Whether a character may stand in a host name in ASCII. -/
def isAllowed (c : Char) : Bool := 0x20 < c.toNat && !reserved.contains c

/-- A name in ASCII, unless it is no host name. -/
def toAscii (name : List Char) : Option (List Char) := do
  let labels := Text.splitOn '.' (← mapped name)
  let unicode ← labels.mapM unicodeLabel
  let ascii := Text.joinWith '.' (← labels.mapM asciiLabel)
  if unicode.all isSound && keepsDirection unicode && ascii ≠ [] && ascii.all isAllowed then
    some ascii
  else none

/-- **A host name in ASCII is a text of allowed characters.** -/
theorem isAllowed_of_toAscii {name ascii : List Char} (h : toAscii name = some ascii) :
    ascii ≠ [] ∧ ∀ c ∈ ascii, isAllowed c = true := by
  obtain ⟨m, -, hRest⟩ := Option.bind_eq_some_iff.1 h
  obtain ⟨unicode, -, hRest⟩ := Option.bind_eq_some_iff.1 hRest
  obtain ⟨pieces, -, hRest⟩ := Option.bind_eq_some_iff.1 hRest
  by_cases hChecked : (unicode.all isSound && keepsDirection unicode
      && Text.joinWith '.' pieces ≠ [] && (Text.joinWith '.' pieces).all isAllowed) = true
  · rw [if_pos hChecked] at hRest
    cases hRest
    simp only [Bool.and_eq_true, decide_eq_true_eq, List.all_eq_true] at hChecked
    exact ⟨hChecked.1.2, hChecked.2⟩
  · rw [if_neg hChecked] at hRest
    cases hRest

end CredentialLease.HostName
