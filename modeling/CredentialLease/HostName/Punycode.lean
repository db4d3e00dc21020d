import CredentialLease.Number.Digits

/-!
# Unicode labels in ASCII

A label with characters beyond ASCII is written as its ASCII characters followed by the places of
the others. These are taken in the order of their code points. Each is written as a distance: how
many steps a counter makes that runs through all places of the growing label for every code point
from the last one on. A distance is a number in base 36 that ends at its first digit below a
threshold; the thresholds adapt to the size of the distances before.

Main statement: `digitValue_digitChar` (digits are read back).
-/

namespace CredentialLease.HostName.Punycode

/-! ### Digits -/

/-- The digit of a value below 36: a letter, or a decimal digit for the last ten values. -/
def digitChar (value : Nat) : Char :=
  if value < 26 then Char.ofNat (97 + value) else Char.ofNat (22 + value)

/-- The value of a digit. -/
def digitValue (c : Char) : Option Nat :=
  if 'a' ≤ c && c ≤ 'z' then some (c.toNat - 97)
  else if Number.isDigit c then some (c.toNat - 22)
  else none

/-- **Digits are read back.** -/
theorem digitValue_digitChar {value : Nat} (h : value < 36) :
    digitValue (digitChar value) = some value := by
  have hAll : ∀ n < 36, digitValue (digitChar n) = some n := by decide
  exact hAll value h

/-! ### Thresholds -/

/-- The threshold of a digit, from 1 to 26. The `place` is 36 for the first digit of a distance and
grows by 36. -/
def threshold (bias place : Nat) : Nat := max 1 (min 26 (place - bias))

theorem one_le_threshold (bias place : Nat) : 1 ≤ threshold bias place :=
  Nat.le_max_left ..

/-- The bias for a scaled distance, which grows by 36 as often as a digit can be taken off. -/
def scaledBias (distance : Nat) : Nat :=
  if 455 < distance then 36 + scaledBias (distance / 35)
  else 36 * distance / (distance + 38)
termination_by distance
decreasing_by omega

/-- The bias after a distance, given the length of the label with the new character. -/
def adapted (distance length : Nat) (isFirst : Bool) : Nat :=
  let scaled := if isFirst then distance / 700 else distance / 2
  scaledBias (scaled + scaled / length)

/-! ### Writing -/

/-- The digits of a distance from a place on. -/
def distanceDigits (bias place distance : Nat) : List Char :=
  let limit := threshold bias place
  if distance < limit then [digitChar distance]
  else
    digitChar (limit + (distance - limit) % (36 - limit))
      :: distanceDigits bias (place + 36) ((distance - limit) / (36 - limit))
termination_by distance
decreasing_by
  have hPositive := one_le_threshold bias place
  have hQuotient : (distance - threshold bias place) / (36 - threshold bias place)
      ≤ distance - threshold bias place := Nat.div_le_self _ _
  omega

/-- A label of which the characters before a code point are written. -/
structure Writer where
  /-- The digits, in reverse. -/
  digits : List Char
  distance : Nat
  bias : Nat
  /-- How many characters are written. -/
  written : Nat
  /-- The code point from which on the counter runs. -/
  next : Nat

namespace Writer

/-- Passes a place of the label while the characters of a code point are written; `basic` is the
number of ASCII characters. -/
def pass (basic code : Nat) (writer : Writer) (c : Char) : Writer :=
  if c.toNat < code then { writer with distance := writer.distance + 1 }
  else if c.toNat = code then
    { writer with
      digits := (distanceDigits writer.bias 36 writer.distance).reverse ++ writer.digits
      distance := 0
      bias := adapted writer.distance (writer.written + 1) (writer.written = basic)
      written := writer.written + 1 }
  else writer

/-- Writes all characters of a code point. -/
def write (basic : Nat) (label : List Char) (writer : Writer) (code : Nat) : Writer :=
  let skipped := (code - writer.next) * (writer.written + 1)
  let after := label.foldl (pass basic code) { writer with distance := writer.distance + skipped }
  { after with distance := after.distance + 1, next := code + 1 }

end Writer

/-- A label in ASCII. -/
def encode (label : List Char) : List Char :=
  let basic := label.filter fun c => c.toNat < 0x80
  let codes := ((label.map Char.toNat).filter (0x80 ≤ ·)).mergeSort.eraseDups
  let writer := codes.foldl (Writer.write basic.length label) ⟨[], 0, 72, basic.length, 0x80⟩
  (if basic = [] then [] else basic ++ ['-']) ++ writer.digits.reverse

/-! ### Reading -/

/-- The largest number that may occur in reading. -/
def largest : Nat := 0xFFFFFFFF

/-- A number, unless it is too large. -/
def bounded (n : Nat) : Option Nat := if n ≤ largest then some n else none

/-- A label of which some distances are read. -/
structure Reader where
  label : List Char
  /-- The last code point. -/
  code : Nat
  /-- The place of the next character, as far as it is read. -/
  index : Nat
  /-- The place from which the distance counts. -/
  origin : Nat
  bias : Nat
  /-- What the next digit counts for. -/
  weight : Nat
  /-- The place of the next digit. -/
  place : Nat

namespace Reader

/-- Puts in the character whose distance has ended. -/
def insert (reader : Reader) (isFirst : Bool) : Option Reader := do
  let length := reader.label.length + 1
  let code ← bounded (reader.code + reader.index / length)
  let index := reader.index % length
  if code.isValidChar then
    some ⟨reader.label.insertIdx index (Char.ofNat code), code, index + 1, index + 1,
      adapted (reader.index - reader.origin) length isFirst, 1, 36⟩
  else none

/-- Reads a digit. -/
def digit (reader : Reader) (value : Nat) : Option Reader := do
  let index ← bounded (reader.index + (← bounded (value * reader.weight)))
  let limit := threshold reader.bias reader.place
  let reader := { reader with index }
  if value < limit then reader.insert (reader.origin = 0)
  else
    return { reader with
      weight := ← bounded (reader.weight * (36 - limit)), place := reader.place + 36 }

end Reader

/-- The label that a text in ASCII spells, whose ASCII characters are those before its last hyphen.
A hyphen that begins the text is no digit. -/
def decode (text : List Char) : Option (List Char) := do
  let tail := (text.reverse.takeWhile (· ≠ '-')).reverse
  let basic := text.take (text.length - tail.length - 1)
  let values ← (if basic = [] then text else tail).mapM digitValue
  let reader ← values.foldlM Reader.digit ⟨basic, 0x80, 0, 0, 72, 1, 36⟩
  if reader.place = 36 then some reader.label else none

end CredentialLease.HostName.Punycode
