import CredentialLease.Base64
import CredentialLease.Text.Blank
import CredentialLease.Token.AccessToken

/-!
# The stored form of a token

A payload is a byte string: one byte for the version, the length of the name in two bytes and the
name in UTF-8, the length of the secret in four bytes and the secret, and the instants of issue
and expiry in milliseconds, eight bytes each; all numbers are big-endian. A record holds its
base64 text. The text `placeholder` stands for a token that has not been issued yet.
-/

namespace CredentialLease

/-- The stored value that stands for a token still to be issued. -/
def placeholder : String := "placeholder"

namespace Payload

/-- The version of the format. -/
def version : Nat := 1

/-! ### Writing -/

/-- The payload of a token. -/
def ofToken (token : AccessToken) : Bytes :=
  Bytes.bigEndian 1 version
    ++ Bytes.bigEndian 2 (utf8 token.name).length ++ utf8 token.name
    ++ Bytes.bigEndian 4 token.secret.length ++ token.secret.bytes
    ++ Bytes.bigEndian 8 token.issued.toNat ++ Bytes.bigEndian 8 token.expires.toNat

/-! ### Reading -/

/-- The first `count` bytes of a payload and the rest of it, for the field with the given name. -/
def take (field : String) (count : Nat) (payload : Bytes) :
    Except CredentialError (Bytes × Bytes) :=
  if payload.length < count then
    .error (.malformedToken s!"truncated payload reading {field}")
  else .ok (payload.take count, payload.drop count)

/-- The number in the first `width` bytes of a payload and the rest of it. -/
def number (field : String) (width : Nat) (payload : Bytes) :
    Except CredentialError (Nat × Bytes) := do
  let (digits, rest) ← take field width payload
  return (Bytes.ofBigEndian digits, rest)

/-- What comes after the version in a payload; other versions are refused. -/
def takeVersion (payload : Bytes) : Except CredentialError Bytes := do
  let (found, rest) ← number "version" 1 payload
  if found = version then return rest
  else throw (.malformedToken s!"unsupported version {found}")

/-- The name at the beginning of a payload and the rest of it. -/
def takeName (payload : Bytes) : Except CredentialError (String × Bytes) := do
  let (length, rest) ← number "name length" 2 payload
  let (bytes, rest) ← take "name" length rest
  match ofUtf8 bytes with
  | some name => return (name, rest)
  | none => throw (.malformedToken "token name is not UTF-8")

/-- The secret at the beginning of a payload and the rest of it. -/
def takeSecret (payload : Bytes) : Except CredentialError (SecretMaterial × Bytes) := do
  let (length, rest) ← number "secret length" 4 payload
  let (bytes, rest) ← take "secret" length rest
  return (⟨bytes⟩, rest)

/-- Refuses bytes that belong to no field. -/
def takeEnd (payload : Bytes) : Except CredentialError Unit :=
  if payload = [] then .ok ()
  else .error (.malformedToken s!"{payload.length} trailing bytes after token")

/-- The token that a payload describes. -/
def toToken (payload : Bytes) : Except CredentialError AccessToken := do
  let rest ← takeVersion payload
  let (name, rest) ← takeName rest
  let (secret, rest) ← takeSecret rest
  let (issued, rest) ← number "timestamp" 8 rest
  let (expires, rest) ← number "timestamp" 8 rest
  takeEnd rest
  AccessToken.ofMillis name secret (UInt64.ofNat issued) (UInt64.ofNat expires)

end Payload

/-! ### Stored values -/

/-- The stored value of a token. -/
def AccessToken.encode (token : AccessToken) : String := Base64.encode (Payload.ofToken token)

/-- The token that a stored value holds; none when it is the placeholder. -/
def AccessToken.decode (value : String) : Except CredentialError (Option AccessToken) :=
  if value = placeholder then .ok none
  else
    match Base64.decode (trimmed value) with
    | .error error => .error (.malformedToken s!"invalid base64: {error.message}")
    | .ok payload => (Payload.toToken payload).map some

/-- The token of a stored value that may be absent. -/
def AccessToken.decodeStored : Option String → Except CredentialError (Option AccessToken)
  | some value => decode value
  | none => .ok none

end CredentialLease
