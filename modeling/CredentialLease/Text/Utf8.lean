import CredentialLease.Bytes

/-!
# Texts as bytes

`utf8` is the UTF-8 encoding of a string and `ofUtf8` reads it back, refusing every byte string
that is not the encoding of one. `ofUtf8Lossy` reads any byte string: each longest run of bytes
that begins a character without completing it, and each byte that begins none, stands for one
replacement character.

Main statements: `ofUtf8_utf8` and `utf8_of_ofUtf8`, which say that the strict reader accepts
exactly the encodings.
-/

namespace CredentialLease

/-! ### Strict reading -/

/-- The UTF-8 encoding of a string. -/
def utf8 (s : String) : Bytes := s.toByteArray.data.toList

/-- The string that a byte string encodes, if it is valid UTF-8. -/
def ofUtf8 (bytes : Bytes) : Option String := String.fromUTF8? ⟨bytes.toArray⟩

/-- **Every string is read back from its encoding.** -/
theorem ofUtf8_utf8 (s : String) : ofUtf8 (utf8 s) = some s := by
  simp [ofUtf8, utf8, String.fromUTF8?, String.fromUTF8, s.isValidUTF8]

/-- **What is read is the string whose encoding was given.** -/
theorem utf8_of_ofUtf8 {bytes : Bytes} {s : String} (h : ofUtf8 bytes = some s) :
    utf8 s = bytes := by
  unfold ofUtf8 String.fromUTF8? at h
  split at h
  · cases h
    simp [utf8, String.fromUTF8]
  · cases h

/-! ### Lossy reading -/

namespace Text

/-- The continuation bytes that a leading byte calls for: their number and the range of the
first one. -/
structure Lead where
  continuations : Nat
  first : UInt8 × UInt8
deriving DecidableEq

/-- What a byte above `0x7F` calls for, if it begins a character. -/
def leadOf (b : UInt8) : Option Lead :=
  if 0xC2 ≤ b && b ≤ 0xDF then some ⟨1, (0x80, 0xBF)⟩
  else if b == 0xE0 then some ⟨2, (0xA0, 0xBF)⟩
  else if b == 0xED then some ⟨2, (0x80, 0x9F)⟩
  else if 0xE1 ≤ b && b ≤ 0xEF then some ⟨2, (0x80, 0xBF)⟩
  else if b == 0xF0 then some ⟨3, (0x90, 0xBF)⟩
  else if 0xF1 ≤ b && b ≤ 0xF3 then some ⟨3, (0x80, 0xBF)⟩
  else if b == 0xF4 then some ⟨3, (0x80, 0x8F)⟩
  else none

/-- Whether a byte may continue a character. -/
def isContinuation (b : UInt8) : Bool := 0x80 ≤ b && b ≤ 0xBF

/-- The continuation bytes found after a leading byte, as many as it calls for at most. -/
def Lead.found (lead : Lead) (rest : Bytes) : Bytes :=
  match rest.take lead.continuations with
  | [] => []
  | b :: more =>
    if lead.first.1 ≤ b && b ≤ lead.first.2 then b :: more.takeWhile isContinuation else []

/-- The character that a leading byte and all its continuation bytes spell. -/
def Lead.assemble (lead : Lead) (b : UInt8) (found : Bytes) : Char :=
  let high := b.toNat % (64 >>> lead.continuations)
  Char.ofNat (found.foldl (fun n c => n * 64 + c.toNat % 64) high)

/-- The character that stands for bytes which spell none. -/
def replacement : Char := Char.ofNat 0xFFFD

/-- The first character of a byte string under lossy reading, and how many bytes after the
first it takes. -/
def lossyHead (b : UInt8) (rest : Bytes) : Char × Nat :=
  if b < 0x80 then (Char.ofNat b.toNat, 0)
  else match leadOf b with
    | none => (replacement, 0)
    | some lead =>
      let found := lead.found rest
      (if found.length = lead.continuations then lead.assemble b found else replacement,
        found.length)

/-- Reads a byte string lossily after skipping some of its bytes. -/
def lossyFrom : Nat → Bytes → List Char
  | _, [] => []
  | skip + 1, _ :: rest => lossyFrom skip rest
  | 0, b :: rest => (lossyHead b rest).1 :: lossyFrom (lossyHead b rest).2 rest

end Text

/-- The text of a byte string, with replacement characters where it is not valid UTF-8. -/
def ofUtf8Lossy (bytes : Bytes) : String := String.ofList (Text.lossyFrom 0 bytes)

end CredentialLease
