import CredentialLease.Record.CredentialRecord
import CredentialLease.Token.Payload
import CredentialLease.World

/-!
# The workers' side of one credential

A worker reads the entry of its key in the records that reach it and binds the token it finds. An
entry that is absent or only reserved leaves the bound token alone; one that holds something else
drops it.
-/

namespace CredentialLease

/-- The header value that authorizes a worker's calls with a token. -/
def AccessToken.authorizationHeader (token : AccessToken) : String :=
  "ApiKey " ++ Base64.encode token.secret.bytes

/-- What reading a record came to. -/
inductive AttachOutcome where
  | bound (token : AccessToken)
  /-- The entry is absent or reserved. -/
  | noToken
  /-- The entry holds something that is not a token. -/
  | unusable (error : CredentialError)
deriving DecidableEq

/-- The token that was bound, if one was. -/
def AttachOutcome.token : AttachOutcome → Option AccessToken
  | bound token => some token
  | _ => none

/-- Logs a warning if the entry at a key was unusable. -/
def AttachOutcome.report {κ : Type} (key : String) (outcome : AttachOutcome) (world : World κ) :
    World κ :=
  match outcome with
  | unusable error =>
    world.warn .lifecycle "ignoring unusable access token" error.message [("key", key)]
  | _ => world

/-- A worker: the key of its entry and the token that it has bound. -/
structure WorkerCredentials where
  key : String
  bound : Option AccessToken
deriving DecidableEq

namespace WorkerCredentials

/-- A worker that has bound no token. -/
def ofKey (key : String) : WorkerCredentials := ⟨key, none⟩

/-- The worker after it drops the token that it has bound. -/
def detach (worker : WorkerCredentials) : WorkerCredentials := { worker with bound := none }

/-- What a worker finds in a record. -/
def find (worker : WorkerCredentials) (record : CredentialRecord) : AttachOutcome :=
  match AccessToken.decodeStored (record.get worker.key) with
  | .ok (some token) => .bound token
  | .ok none => .noToken
  | .error error => .unusable error

/-- The worker after it reads a record, and what came of it. -/
def attach (worker : WorkerCredentials) (record : CredentialRecord) :
    WorkerCredentials × AttachOutcome :=
  match worker.find record with
  | .bound token => ({ worker with bound := some token }, .bound token)
  | .noToken => (worker, .noToken)
  | .unusable error => (worker.detach, .unusable error)

/-- The worker after it reads a record that is handed out again, and what came of it. -/
def update (worker : WorkerCredentials) (record : CredentialRecord) :
    WorkerCredentials × AttachOutcome :=
  worker.attach record

end WorkerCredentials

end CredentialLease
