import CredentialLease.Error
import CredentialLease.Sha256
import CredentialLease.Text.Utf8
import CredentialLease.Time

/-!
# Time-bounded bearer credentials

A token has a name of 1 to 65535 bytes, a secret, and the instants of its issue and its expiry in
whole milliseconds, the precision of the stored form. It expires after it was issued. The
structure carries these bounds, so that a value of this type is a well-formed token.

A secret never appears in a diagnostic: it is shown by its length, and a token is told apart from
others by its fingerprint, the first six bytes of the SHA-256 digest of the secret.
-/

namespace CredentialLease

/-! ### Secrets -/

/-- Secret bytes. -/
structure SecretMaterial where
  bytes : Bytes
deriving DecidableEq, Inhabited

namespace SecretMaterial

/-- The number of bytes of a secret. -/
def length (secret : SecretMaterial) : Nat := secret.bytes.length

/-- What a diagnostic shows of a secret. -/
def redacted (secret : SecretMaterial) : String := s!"SecretMaterial({secret.length} bytes)"

/-- The first six bytes of the digest of a secret, in hexadecimal. -/
def fingerprint (secret : SecretMaterial) : String :=
  Bytes.hex ((Sha256.digest secret.bytes).take 6)

end SecretMaterial

/-! ### Tokens -/

/-- The greatest length of a token's name in bytes. -/
def maxTokenNameLength : Nat := 65535

/-- A bearer credential with a bounded lifetime. -/
structure AccessToken where
  name : String
  secret : SecretMaterial
  issued : EpochMillis
  expires : EpochMillis
  name_ne : 0 < (utf8 name).length
  name_le : (utf8 name).length ≤ maxTokenNameLength
  issued_lt : issued < expires
deriving DecidableEq

namespace AccessToken

/-- The token with the given parts, if they are those of one. -/
def ofMillis (name : String) (secret : SecretMaterial) (issued expires : EpochMillis) :
    Except CredentialError AccessToken :=
  if hName : 0 < (utf8 name).length ∧ (utf8 name).length ≤ maxTokenNameLength then
    if hTime : issued < expires then .ok ⟨name, secret, issued, expires, hName.1, hName.2, hTime⟩
    else .error (.malformedToken "token expiration must follow its issuance")
  else .error (.malformedToken s!"token name must be 1..={maxTokenNameLength} bytes")

/-- The token with the given parts, its instants reduced to whole milliseconds. -/
def create (name : String) (secret : SecretMaterial) (issuedAt expiresAt : Instant) :
    Except CredentialError AccessToken :=
  ofMillis name secret issuedAt.toEpochMillis expiresAt.toEpochMillis

/-- When a token was issued. -/
def issuedAt (token : AccessToken) : Instant := .ofEpochMillis token.issued

/-- When a token expires. -/
def expiresAt (token : AccessToken) : Instant := .ofEpochMillis token.expires

/-- The time that a token has left, unless it has none. -/
def remaining (token : AccessToken) (now : Instant) : Option Duration :=
  (token.expiresAt.since now).filter (· ≠ ⟨0⟩)

/-- What tells the secret of a token apart without giving it away. -/
def fingerprint (token : AccessToken) : String := token.secret.fingerprint

end AccessToken

end CredentialLease
