import CredentialLease.Record.CredentialRecord
import CredentialLease.Token.Payload

/-!
# What can be said of a record entry

Before a job starts its entry is reserved: the placeholder is put under a key that has no value
yet. The status of an entry is read off the record alone and can be shown to anyone.
-/

namespace CredentialLease

/-! ### States -/

/-- The state of a credential. -/
inductive CredentialState where
  | unissued
  | issued
  | renewing
  | expired
deriving DecidableEq, Inhabited

namespace CredentialState

/-- The name of a state. -/
def name : CredentialState → String
  | unissued => "unissued"
  | issued => "issued"
  | renewing => "renewing"
  | expired => "expired"

/-- The state of a token that expires at `expiry`, seen at `now`. -/
def atExpiry (expiry now : Instant) : CredentialState :=
  if expiry < now then expired else issued

end CredentialState

/-! ### Reservation -/

/-- Puts the placeholder under a key that has no value yet, and tells whether it did. -/
def CredentialRecord.reserve (record : CredentialRecord) (key : String) :
    CredentialRecord × Bool :=
  if record.contains key then (record, false) else (record.put key placeholder, true)

/-! ### Status -/

/-- What can be said of a record entry at some instant. -/
structure CredentialStatus where
  key : String
  state : CredentialState
  tokenName : Option String
  /-- The whole seconds that the token has left. -/
  expiresInSeconds : Option Nat
  /-- Why the value is not a token. -/
  error : Option String
deriving DecidableEq

namespace CredentialStatus

/-- The status as a JSON value. -/
def toJson (status : CredentialStatus) : Json.Value :=
  .object ([("key", .text status.key), ("state", .text status.state.name)]
    ++ Json.optional "token_name" .text status.tokenName
    ++ Json.optional "expires_in_secs" (fun seconds => .integer seconds) status.expiresInSeconds
    ++ Json.optional "error" .text status.error)

end CredentialStatus

/-- The status of the entry under a key at an instant. -/
def CredentialRecord.status (record : CredentialRecord) (key : String) (now : Instant) :
    CredentialStatus :=
  match AccessToken.decodeStored (record.get key) with
  | .ok (some token) =>
    ⟨key, .atExpiry token.expiresAt now, some token.name,
      (token.remaining now).map Duration.seconds, none⟩
  | .ok none => ⟨key, .unissued, none, none, none⟩
  | .error error => ⟨key, .unissued, none, none, some error.message⟩

end CredentialLease
