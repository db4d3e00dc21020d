import CredentialLease.HostName.DirectionTable

/-!
# Writing directions in host names

A name that holds characters written from right to left must not be ambiguous when it is shown.
Each of its labels therefore begins with a letter, which fixes the direction of the label; goes on
with characters that keep that direction; and ends, but for marks, with a letter or a number.
-/

namespace CredentialLease.HostName

/-- How a character takes part in the direction of its surroundings. -/
inductive Direction where
  | leftToRight
  | rightToLeft
  | arabicLetter
  | arabicNumber
  | europeanNumber
  | europeanSeparator
  | europeanTerminator
  | commonSeparator
  | nonspacingMark
  | boundaryNeutral
  | otherNeutral
deriving DecidableEq

/-- The classes that are given by tables. -/
def directionTables : List (Direction × CodePoints) :=
  [(.rightToLeft, rightToLeft), (.arabicLetter, arabicLetters), (.arabicNumber, arabicNumbers),
   (.europeanNumber, europeanNumbers), (.europeanSeparator, europeanSeparators),
   (.europeanTerminator, europeanTerminators), (.commonSeparator, commonSeparators),
   (.nonspacingMark, nonspacingMarks), (.boundaryNeutral, boundaryNeutrals),
   (.otherNeutral, otherNeutrals)]

/-- The class of a character. -/
def direction (c : Char) : Direction :=
  match directionTables.find? fun (_, table) => table.contains c with
  | some (direction, _) => direction
  | none => .leftToRight

namespace Direction

/-- Whether a character makes the rules on directions apply to its name. -/
def runsLeft : Direction → Bool
  | rightToLeft | arabicLetter | arabicNumber => true
  | _ => false

/-- Whether a character can stand anywhere in a label of either direction. -/
def isNeutral : Direction → Bool
  | europeanNumber | europeanSeparator | europeanTerminator | commonSeparator | nonspacingMark
  | boundaryNeutral | otherNeutral => true
  | _ => false

/-- Whether the characters of a label that begins with a letter from left to right keep its
direction. -/
def keepsRight (label : List Direction) (last : Option Direction) : Bool :=
  label.all (fun d => d = leftToRight || d.isNeutral)
    && (last = some leftToRight || last = some europeanNumber)

/-- Whether the characters of a label that begins with a letter from right to left keep its
direction. Numbers of only one kind may stand in it. -/
def keepsLeft (label : List Direction) (last : Option Direction) : Bool :=
  label.all (fun d => d.runsLeft || d.isNeutral)
    && (last.any runsLeft || last = some europeanNumber)
    && !(label.contains europeanNumber && label.contains arabicNumber)

/-- Whether a label keeps the rules on directions. -/
def isConsistent (label : List Direction) : Bool :=
  let last := label.reverse.find? (· ≠ nonspacingMark)
  match label with
  | [] => true
  | leftToRight :: _ => keepsRight label last
  | rightToLeft :: _ => keepsLeft label last
  | arabicLetter :: _ => keepsLeft label last
  | _ => false

end Direction

/-- Whether the labels of a name keep the rules on directions, which concern only names that hold
characters written from right to left. -/
def keepsDirection (labels : List (List Char)) : Bool :=
  let directions := labels.map fun label => label.map direction
  !(directions.any fun label => label.any Direction.runsLeft)
    || directions.all Direction.isConsistent

end CredentialLease.HostName
