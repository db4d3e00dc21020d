import CredentialLease.Text.Utf8

/-!
# The standard padded base64 alphabet, read strictly

`encode` spells every three bytes as four symbols and pads the last group with `=`. `decode`
accepts exactly the encodings: the length must be a multiple of four, padding may stand only at
the end, and the bits of the last symbol that belong to no byte must be zero. Positions in errors
are byte offsets into the UTF-8 encoding of the text.
-/

namespace CredentialLease.Base64

/-! ### Symbols -/

/-- The padding byte `=`. -/
def padding : UInt8 := 61

/-- The symbol of a six-bit number. -/
def symbol (n : Nat) : UInt8 :=
  if n < 26 then UInt8.ofNat (n + 65)
  else if n < 52 then UInt8.ofNat (n + 71)
  else if n < 62 then UInt8.ofNat (n - 4)
  else if n = 62 then 43
  else 47

/-- The six-bit number of a symbol, if the byte is one. -/
def sextet (b : UInt8) : Option Nat :=
  if 65 ≤ b && b ≤ 90 then some (b.toNat - 65)
  else if 97 ≤ b && b ≤ 122 then some (b.toNat - 71)
  else if 48 ≤ b && b ≤ 57 then some (b.toNat + 4)
  else if b == 43 then some 62
  else if b == 47 then some 63
  else none

/-! ### Encoding -/

/-- The symbols that spell a byte string. -/
def symbols : Bytes → Bytes
  | [] => []
  | [a] => [symbol (a.toNat / 4), symbol (a.toNat % 4 * 16), padding, padding]
  | [a, b] =>
    [symbol (a.toNat / 4), symbol (a.toNat % 4 * 16 + b.toNat / 16),
      symbol (b.toNat % 16 * 4), padding]
  | a :: b :: c :: rest =>
    symbol (a.toNat / 4) :: symbol (a.toNat % 4 * 16 + b.toNat / 16)
      :: symbol (b.toNat % 16 * 4 + c.toNat / 64) :: symbol (c.toNat % 64) :: symbols rest

/-- The base64 text of a byte string. -/
def encode (bytes : Bytes) : String :=
  String.ofList ((symbols bytes).map fun b => Char.ofNat b.toNat)

/-! ### Decoding -/

/-- Why a text is not the encoding of a byte string. -/
inductive Error where
  /-- A byte that may not stand where it does. -/
  | invalidSymbol (byte : UInt8) (offset : Nat)
  /-- The last group has too few symbols. -/
  | invalidLength (length : Nat)
  /-- The last symbol has bits that belong to no byte. -/
  | invalidLastSymbol (byte : UInt8) (offset : Nat)
  /-- The last group is not filled up to four. -/
  | invalidPadding
deriving DecidableEq

/-- The text of an error. -/
def Error.message : Error → String
  | invalidSymbol byte offset => s!"Invalid symbol {byte.toNat}, offset {offset}."
  | invalidLength length => s!"Invalid input length: {length}"
  | invalidLastSymbol byte offset => s!"Invalid last symbol {byte.toNat}, offset {offset}."
  | invalidPadding => "Invalid padding"

/-- The number of the symbol at an offset. -/
def sextetAt (offset : Nat) (b : UInt8) : Except Error Nat :=
  match sextet b with
  | some n => .ok n
  | none => .error (.invalidSymbol b offset)

/-- The numbers of the symbols of the last group, which begins at `start`. `position` counts
the bytes of the group already read and `pad` is the position of its first padding byte. -/
def lastSextets (start : Nat) : Nat → Option Nat → Bytes → Except Error (List Nat)
  | _, _, [] => .ok []
  | position, pad, b :: rest =>
    if b = padding then
      if position < 2 then .error (.invalidSymbol b (start + position))
      else lastSextets start (position + 1) (some (pad.getD position)) rest
    else match pad with
      | some first => .error (.invalidSymbol padding (start + first))
      | none => do
        let n ← sextetAt (start + position) b
        let more ← lastSextets start (position + 1) none rest
        return n :: more

/-- The bytes of a last group of two to four symbols, given the error for unused bits that are
not zero. -/
def lastBytes (unused : Error) : List Nat → Except Error Bytes
  | [x, y] => if y % 16 = 0 then .ok [UInt8.ofNat (x * 4 + y / 16)] else .error unused
  | [x, y, z] =>
    if z % 4 = 0 then
      .ok [UInt8.ofNat (x * 4 + y / 16), UInt8.ofNat (y % 16 * 16 + z / 4)]
    else .error unused
  | [x, y, z, w] =>
    .ok [UInt8.ofNat (x * 4 + y / 16), UInt8.ofNat (y % 16 * 16 + z / 4),
      UInt8.ofNat (z % 4 * 64 + w)]
  | _ => .ok []

/-- The bytes of the last group of at most four bytes, which begins at `start`. -/
def decodeLast (start : Nat) (group : Bytes) : Except Error Bytes :=
  match lastSextets start 0 none group with
  | .error error => .error error
  | .ok sextets =>
    let count := sextets.length
    if group = [] then .ok []
    else if count < 2 then .error (.invalidLength (start + count))
    else if group.length % 4 ≠ 0 then .error .invalidPadding
    else lastBytes (.invalidLastSymbol (group.getD (count - 1) 0) (start + count - 1)) sextets

/-- The bytes of the groups from an offset on; a group that others follow must be full. -/
def decodeFrom (start : Nat) : Bytes → Except Error Bytes
  | a :: b :: c :: d :: e :: rest => do
    let x ← sextetAt start a
    let y ← sextetAt (start + 1) b
    let z ← sextetAt (start + 2) c
    let w ← sextetAt (start + 3) d
    let more ← decodeFrom (start + 4) (e :: rest)
    return UInt8.ofNat (x * 4 + y / 16) :: UInt8.ofNat (y % 16 * 16 + z / 4)
      :: UInt8.ofNat (z % 4 * 64 + w) :: more
  | group => decodeLast start group

/-- A last byte that stands alone in its group and is neither a symbol nor padding. Such a
text, often one with a line feed at its end, is refused for that byte before any other. -/
def strayLast (bytes : Bytes) : Option Error :=
  match bytes.getLast? with
  | some b =>
    if bytes.length % 4 = 1 ∧ b ≠ padding ∧ sextet b = none then
      some (.invalidSymbol b (bytes.length - 1))
    else none
  | none => none

/-- The bytes that symbols spell. -/
def decodeSymbols (bytes : Bytes) : Except Error Bytes :=
  match strayLast bytes with
  | some error => .error error
  | none => decodeFrom 0 bytes

/-- The byte string that a base64 text spells. -/
def decode (text : String) : Except Error Bytes := decodeSymbols (utf8 text)

end CredentialLease.Base64
