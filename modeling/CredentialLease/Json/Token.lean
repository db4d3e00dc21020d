import CredentialLease.Number.Digits
import CredentialLease.Text.Utf8

/-!
# The lexical elements of a JSON text

A JSON text is a byte string in UTF-8. `Json.tokens` splits it into punctuation, names, numbers
and strings, dropping the white space between them, and refuses bytes that begin none of these.

A string element can be well formed and yet spell no text: an escape may name half of a surrogate
pair, and its bytes may not be UTF-8. Such a string is kept without a text, so that a reader who
does not need it can pass over it.
-/

namespace CredentialLease.Json

/-- A number as it is written. -/
structure Numeral where
  negative : Bool
  /-- The digits before the point, as a number. -/
  whole : Nat
  /-- Whether there is neither a fraction nor an exponent. -/
  integral : Bool
deriving DecidableEq

/-- A lexical element. -/
inductive Token where
  | openBrace
  | closeBrace
  | openBracket
  | closeBracket
  | colon
  | comma
  | null
  | bool (value : Bool)
  | number (numeral : Numeral)
  /-- A string and the text it spells, if it spells one. -/
  | string (text : Option String)
deriving DecidableEq

/-! ### Strings -/

/-- What stands in a string: a byte, or a code unit named by an escape. -/
inductive Piece where
  | byte (b : UInt8)
  | unit (code : Nat)
deriving DecidableEq

/-- The value of a hexadecimal digit. -/
def hexValue (b : UInt8) : Option Nat :=
  if 48 ≤ b && b ≤ 57 then some (b.toNat - 48)
  else if 65 ≤ b && b ≤ 70 then some (b.toNat - 55)
  else if 97 ≤ b && b ≤ 102 then some (b.toNat - 87)
  else none

/-- The value of four hexadecimal digits. -/
def hexUnit (a b c d : UInt8) : Option Nat := do
  return (((← hexValue a) * 16 + (← hexValue b)) * 16 + (← hexValue c)) * 16 + (← hexValue d)

/-- The byte that a one-letter escape stands for. -/
def escapedByte (letter : UInt8) : Option UInt8 :=
  if letter = 34 then some 34
  else if letter = 92 then some 92
  else if letter = 47 then some 47
  else if letter = 98 then some 8
  else if letter = 102 then some 12
  else if letter = 110 then some 10
  else if letter = 114 then some 13
  else if letter = 116 then some 9
  else none

/-- The pieces of a string up to its closing quote, in reverse, after those already read, and
the bytes that follow the quote. -/
def pieces (read : List Piece) : Bytes → Option (List Piece × Bytes)
  | [] => none
  | 34 :: rest => some (read, rest)
  | 92 :: 117 :: a :: b :: c :: d :: rest =>
    match hexUnit a b c d with
    | some code => pieces (.unit code :: read) rest
    | none => none
  | 92 :: letter :: rest =>
    match escapedByte letter with
    | some b => pieces (.byte b :: read) rest
    | none => none
  | b :: rest => if b < 0x20 then none else pieces (.byte b :: read) rest

/-- Whether a code unit is the first half of a surrogate pair. -/
def isHighSurrogate (code : Nat) : Bool := 0xD800 ≤ code && code < 0xDC00

/-- Whether a code unit is the second half of a surrogate pair. -/
def isLowSurrogate (code : Nat) : Bool := 0xDC00 ≤ code && code < 0xE000

/-- The UTF-8 encoding of the character with a code. -/
def encodeCode (code : Nat) : Bytes := String.utf8EncodeChar (Char.ofNat code)

/-- The bytes that pieces in reverse order spell, before the given bytes; none when half of a
surrogate pair stands alone. -/
def spelledBefore (after : Bytes) : List Piece → Option Bytes
  | [] => some after
  | .byte b :: earlier => spelledBefore (b :: after) earlier
  | .unit low :: .unit high :: earlier =>
    if isLowSurrogate low then
      if isHighSurrogate high then
        spelledBefore
          (encodeCode (0x10000 + (high - 0xD800) * 0x400 + (low - 0xDC00)) ++ after) earlier
      else none
    else if isHighSurrogate low then none
    else spelledBefore (encodeCode low ++ after) (.unit high :: earlier)
  | .unit code :: earlier =>
    if isLowSurrogate code || isHighSurrogate code then none
    else spelledBefore (encodeCode code ++ after) earlier

/-- The text that the pieces of a string spell, given in reverse. -/
def spelled (read : List Piece) : Option String := do ofUtf8 (← spelledBefore [] read)

/-! ### Numbers -/

/-- Whether a byte is a decimal digit. -/
def isDigitByte (b : UInt8) : Bool := 48 ≤ b && b ≤ 57

/-- One or more digits at the front of a byte string, and what follows them. -/
def digitRun (bytes : Bytes) : Option (Bytes × Bytes) :=
  match bytes.takeWhile isDigitByte with
  | [] => none
  | digits => some (digits, bytes.dropWhile isDigitByte)

/-- The digits before the point of a number: no other digit follows a leading zero. -/
def wholePart : Bytes → Option (Nat × Bytes)
  | 48 :: rest => some (0, rest)
  | bytes => do
    let (digits, rest) ← digitRun bytes
    return (digits.foldl (fun n b => n * 10 + (b.toNat - 48)) 0, rest)

/-- Skips the fraction of a number, if there is one, and tells whether there was. -/
def skipFraction : Bytes → Option (Bool × Bytes)
  | 46 :: rest => do
    let (_, rest) ← digitRun rest
    return (true, rest)
  | bytes => some (false, bytes)

/-- Skips the exponent of a number, if there is one, and tells whether there was. -/
def skipExponent : Bytes → Option (Bool × Bytes)
  | e :: rest =>
    if e = 101 ∨ e = 69 then do
      let unsigned := match rest with
        | 43 :: more => more
        | 45 :: more => more
        | _ => rest
      let (_, rest) ← digitRun unsigned
      return (true, rest)
    else some (false, e :: rest)
  | [] => some (false, [])

/-- The number at the front of a byte string, and what follows it. -/
def numeral (bytes : Bytes) : Option (Numeral × Bytes) := do
  let (negative, unsigned) := match bytes with
    | 45 :: rest => (true, rest)
    | _ => (false, bytes)
  let (whole, rest) ← wholePart unsigned
  let (fraction, rest) ← skipFraction rest
  let (exponent, rest) ← skipExponent rest
  return (⟨negative, whole, !fraction && !exponent⟩, rest)

/-! ### Texts -/

/-- Whether a byte is white space between lexical elements. -/
def isSpace (b : UInt8) : Bool := b == 32 || b == 9 || b == 10 || b == 13

/-- The lexical element at the front of a byte string that begins with no white space, and
what follows it. -/
def token : Bytes → Option (Token × Bytes)
  | 123 :: rest => some (.openBrace, rest)
  | 125 :: rest => some (.closeBrace, rest)
  | 91 :: rest => some (.openBracket, rest)
  | 93 :: rest => some (.closeBracket, rest)
  | 58 :: rest => some (.colon, rest)
  | 44 :: rest => some (.comma, rest)
  | 110 :: 117 :: 108 :: 108 :: rest => some (.null, rest)
  | 116 :: 114 :: 117 :: 101 :: rest => some (.bool true, rest)
  | 102 :: 97 :: 108 :: 115 :: 101 :: rest => some (.bool false, rest)
  | 34 :: rest => do
    let (read, rest) ← pieces [] rest
    return (.string (spelled read), rest)
  | bytes => do
    let (numeral, rest) ← numeral bytes
    return (.number numeral, rest)

/-- The lexical elements of a byte string, in reverse and after those already read. Every
element takes at least one byte, so that the length of the text suffices as `fuel`. -/
def tokensFrom (read : List Token) : Nat → Bytes → Option (List Token)
  | fuel, bytes =>
    match bytes.dropWhile isSpace with
    | [] => some read
    | front =>
      match fuel with
      | 0 => none
      | fuel + 1 =>
        match token front with
        | some (element, rest) => tokensFrom (element :: read) fuel rest
        | none => none

/-- The lexical elements of a JSON text. -/
def tokens (bytes : Bytes) : Option (List Token) :=
  (tokensFrom [] bytes.length bytes).map List.reverse

end CredentialLease.Json
