/-!
# Whole numbers written in digits

`parseNat` reads one or more decimal digits and nothing else. `parseUnsigned` and `parseSigned`
read numbers of a fixed width with an optional sign: a number out of range is refused, and an
unsigned number may carry `+` but not `-`. `parseInBase` reads digits of another base.
-/

namespace CredentialLease.Number

/-- Whether a character is a decimal digit. -/
def isDigit (c : Char) : Bool := '0' ≤ c && c ≤ '9'

/-- The value of decimal digits, most significant first. -/
def valueOf (digits : List Char) : Nat :=
  digits.foldl (fun n c => n * 10 + (c.toNat - '0'.toNat)) 0

/-- The number that a text of decimal digits spells. -/
def parseNat (text : List Char) : Option Nat :=
  if text ≠ [] ∧ text.all isDigit then some (valueOf text) else none

/-- The number below `2 ^ bits` that a text spells, with an optional plus sign. -/
def parseUnsigned (bits : Nat) (text : List Char) : Option Nat :=
  let digits := match text with
    | '+' :: rest => rest
    | _ => text
  (parseNat digits).filter (· < 1 <<< bits)

/-- The number in `[-2 ^ (bits - 1), 2 ^ (bits - 1))` that a text spells, with an optional
sign. -/
def parseSigned (bits : Nat) (text : List Char) : Option Int :=
  match text with
  | '-' :: rest => ((parseNat rest).filter (· ≤ 1 <<< (bits - 1))).map fun n => -(n : Int)
  | '+' :: rest => ((parseNat rest).filter (· < 1 <<< (bits - 1))).map Int.ofNat
  | _ => ((parseNat text).filter (· < 1 <<< (bits - 1))).map Int.ofNat

/-! ### Other bases -/

/-- The value of a hexadecimal digit. -/
def hexDigit (c : Char) : Option Nat :=
  if '0' ≤ c && c ≤ '9' then some (c.toNat - 48)
  else if 'a' ≤ c && c ≤ 'f' then some (c.toNat - 87)
  else if 'A' ≤ c && c ≤ 'F' then some (c.toNat - 55)
  else none

/-- The number of digits in a base up to 16. -/
def parseInBase (base : Nat) (digits : List Char) : Option Nat :=
  digits.foldlM (fun n c => do
    let d ← hexDigit c
    if d < base then some (n * base + d) else none) 0

end CredentialLease.Number
