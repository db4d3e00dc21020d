import CredentialLease.Text.CombiningTable
import CredentialLease.Text.CompositionTable

/-!
# The canonical form of a text

Texts that differ only in how an accented character is spelled have the same canonical form. It is
reached in three steps: characters are taken apart, the marks after each base character are put in
the order of their combining classes, and characters are composed again where they can be.

Main statements: `settle_perm` and `ordered_perm` (ordering moves characters and changes none), and
`canonical_of_plain` (a text of characters before the first combining mark is canonical).
-/

namespace CredentialLease.Text

/-- The combining class of a character; zero for one that others combine with. -/
def combiningClass (c : Char) : Nat :=
  match combiningRuns.find? fun run => run.first ≤ c.toNat && c.toNat ≤ run.last with
  | some run => run.combiningClass
  | none => 0

/-- Whether a character belongs to the one before it. -/
def isMark (c : Char) : Bool := marks.contains c

/-! ### Korean syllables -/

namespace Hangul

/-- The first of the syllables, which are in the order of their letters. -/
def firstSyllable : Nat := 0xAC00

/-- The first leading consonant, and how many of them form syllables. -/
def leading : Nat × Nat := (0x1100, 19)

/-- The first vowel, and how many of them form syllables. -/
def vowel : Nat × Nat := (0x1161, 21)

/-- The code point before the first trailing consonant, and in how many ways a syllable can end:
without one of them or with it. -/
def trailing : Nat × Nat := (0x11A7, 28)

/-- The letters of a syllable. -/
def letters (code : Nat) : Option (List Nat) :=
  let index := code - firstSyllable
  if code < firstSyllable ∨ leading.2 * vowel.2 * trailing.2 ≤ index then none
  else
    let openSyllable := [leading.1 + index / trailing.2 / vowel.2,
      vowel.1 + index / trailing.2 % vowel.2]
    let ending := index % trailing.2
    some (if ending = 0 then openSyllable else openSyllable ++ [trailing.1 + ending])

/-- The syllable that a letter or a syllable without a trailing consonant makes with the letter
after it. -/
def syllable (a b : Nat) : Option Nat :=
  if leading.1 ≤ a ∧ a < leading.1 + leading.2 ∧ vowel.1 ≤ b ∧ b < vowel.1 + vowel.2 then
    some (firstSyllable + ((a - leading.1) * vowel.2 + (b - vowel.1)) * trailing.2)
  else if firstSyllable ≤ a ∧ a - firstSyllable < leading.2 * vowel.2 * trailing.2
      ∧ (a - firstSyllable) % trailing.2 = 0 ∧ trailing.1 < b ∧ b < trailing.1 + trailing.2 then
    some (a + (b - trailing.1))
  else none

end Hangul

/-! ### Taking apart -/

/-- The parts of a code point; `fuel` bounds how often a part is taken apart again. -/
def parts : Nat → Nat → List Nat
  | 0, code => [code]
  | fuel + 1, code =>
    match Hangul.letters code with
    | some letters => letters
    | none =>
      match decompositions.find? (·.code == code) with
      | some decomposition => decomposition.parts
      | none =>
        match compositions.find? (·.composed == code) with
        | some composition => parts fuel composition.first ++ [composition.second]
        | none => [code]

/-- The characters that a character is made of. A composition is longer by one than its first
part, so that the number of compositions bounds how often it is taken apart. -/
def decomposed (c : Char) : List Char := (parts compositions.length c.toNat).map Char.ofNat

/-! ### Order of marks -/

/-- A character before an ordered text, moved behind the marks of lower classes. -/
def settle (c : Char) : List Char → List Char
  | [] => [c]
  | d :: rest =>
    if 0 < combiningClass d ∧ combiningClass d < combiningClass c then d :: settle c rest
    else c :: d :: rest

/-- A text with the marks after each character in the order of their classes. -/
def ordered (s : List Char) : List Char := s.foldr settle []

theorem settle_perm (c : Char) (s : List Char) : (settle c s).Perm (c :: s) := by
  induction s with
  | nil => exact .refl _
  | cons d rest ih =>
    unfold settle
    split
    · exact (ih.cons d).trans (.swap c d rest)
    · exact .refl _

/-- **Ordering moves characters and changes none.** -/
theorem ordered_perm (s : List Char) : (ordered s).Perm s := by
  induction s with
  | nil => exact .refl _
  | cons c rest ih => exact (settle_perm c (ordered rest)).trans (ih.cons c)

/-! ### Composition -/

/-- The character that two others compose to. -/
def composed (a b : Char) : Option Char :=
  match Hangul.syllable a.toNat b.toNat with
  | some code => some (Char.ofNat code)
  | none =>
    (compositions.find? fun composition =>
      composition.first == a.toNat && composition.second == b.toNat).map fun composition =>
        Char.ofNat composition.composed

/-- Whether a character can combine with a base across the marks between them, which come in
reverse: none of them has its class or a higher one. -/
def reaches (between : List Char) (c : Char) : Bool :=
  match between with
  | [] => true
  | last :: _ => combiningClass last < combiningClass c

/-- Composes the rest of a text with a base character, given in reverse the marks between that do
not combine with it. -/
def composeFrom (base : Char) (between : List Char) : List Char → List Char
  | [] => base :: between.reverse
  | c :: rest =>
    match if reaches between c then composed base c else none with
    | some whole => composeFrom whole between rest
    | none =>
      if combiningClass c = 0 then base :: between.reverse ++ composeFrom c [] rest
      else composeFrom base (c :: between) rest

/-- A text in which every character is composed with those after it that it can be composed
with. -/
def recomposed : List Char → List Char
  | [] => []
  | c :: rest => composeFrom c [] rest

/-! ### The canonical form -/

/-- Whether a character comes before the first one that combines with others. -/
def isPlain (c : Char) : Bool := c.toNat < 0x300

/-- The canonical form of a text. -/
def canonical (s : List Char) : List Char :=
  if s.all isPlain then s else recomposed (ordered (s.flatMap decomposed))

/-- **A text of characters before the first combining mark is canonical.** -/
theorem canonical_of_plain {s : List Char} (h : s.all isPlain = true) : canonical s = s := by
  rw [canonical, if_pos h]

end CredentialLease.Text
