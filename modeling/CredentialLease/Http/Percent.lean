import CredentialLease.Bytes
import CredentialLease.Number.Digits

/-!
# Percent-encoding

A byte can be written as a percent sign and two hexadecimal digits. Addresses write characters so
that may not stand for themselves in the place where they occur.
-/

namespace CredentialLease.Percent

/-- A byte as a percent sign and two hexadecimal digits. -/
def byte (b : UInt8) : List Char :=
  ['%', (Nat.digitChar (b.toNat / 16)).toUpper, (Nat.digitChar (b.toNat % 16)).toUpper]

/-- A text with the characters that do not satisfy `keep`, and all beyond ASCII, percent-encoded
byte by byte. -/
def encodeUnless (keep : Char → Bool) (text : List Char) : List Char :=
  text.flatMap fun c =>
    if 0x20 < c.toNat && c.toNat < 0x7F && keep c then [c]
    else (String.utf8EncodeChar c).flatMap byte

/-- The bytes of a text with its percent-encoded bytes decoded. -/
def decode : List Char → Bytes
  | [] => []
  | '%' :: a :: b :: rest =>
    match Number.hexDigit a, Number.hexDigit b with
    | some high, some low => UInt8.ofNat (high * 16 + low) :: decode rest
    | _, _ => 37 :: decode (a :: b :: rest)
  | c :: rest => String.utf8EncodeChar c ++ decode rest

end CredentialLease.Percent
