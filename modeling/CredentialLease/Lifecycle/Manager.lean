import CredentialLease.Issuance.Acquirer
import CredentialLease.Lifecycle.Status
import CredentialLease.Login.Session

/-!
# The coordinator's side of one credential

A manager owns one entry of a record. It issues a token when the entry holds none, and renews the
one it holds when that is due. A token is stored by replacing the entry in one step; an older one
is left to expire.

The manager also tracks the state of its credential, as the memory of the scene. While a renewal
waits that state is `renewing`; when the renewal fails or is dropped it goes back to what the old
token deserves.
-/

namespace CredentialLease

variable {κ : Type}

/-! ### Outcomes -/

/-- What issuing a token came to. -/
inductive IssueOutcome where
  /-- A new token was stored. -/
  | issued (tokenName : String)
  /-- The entry held a token already. -/
  | alreadyIssued (tokenName : String)
deriving DecidableEq, Inhabited

/-- Whether the record was changed. -/
def IssueOutcome.changedRecord : IssueOutcome → Bool
  | issued _ => true
  | alreadyIssued _ => false

/-- The name of the token in the entry. -/
def IssueOutcome.tokenName : IssueOutcome → String
  | issued name => name
  | alreadyIssued name => name

/-- What renewing a token came to. -/
inductive RenewOutcome where
  /-- The entry holds no token. -/
  | nothingToRenew
  | notDue (decision : RenewalDecision)
  | renewed (decision : RenewalDecision) (tokenName : String)
deriving DecidableEq, Inhabited

/-- Whether the record was changed. -/
def RenewOutcome.changedRecord : RenewOutcome → Bool
  | renewed _ _ => true
  | _ => false

/-! ### Managers -/

/-- The coordinator's side of one credential. -/
structure LifecycleManager (κ : Type) where
  settings : LeaseSettings
  credentials : LoginCredentials
  provider : AuthProvider κ

namespace LifecycleManager

/-- A manager for complete settings. -/
def create (settings : LeaseSettings) (provider : AuthProvider κ) :
    Except CredentialError (LifecycleManager κ) :=
  settings.loginCredentials.map fun credentials => ⟨settings, credentials, provider⟩

/-- The key of the entry. -/
def key (manager : LifecycleManager κ) : String := manager.settings.credentialKey

/-- How the manager asks for tokens. -/
def acquirer (manager : LifecycleManager κ) : TokenAcquirer :=
  ⟨manager.settings.tokenPrefix, manager.settings.tokenLifetime⟩

/-- The status of the entry in a record, given the tracked state: a renewal that is under way
shows. -/
def status (manager : LifecycleManager κ) (tracked : CredentialState)
    (record : CredentialRecord) (now : Instant) : CredentialStatus :=
  let status := record.status manager.key now
  if tracked = .renewing then { status with state := .renewing } else status

/-- Logs in, asks for one token and logs out. -/
def acquire (manager : LifecycleManager κ) (scene : Scene κ CredentialState) :
    Activity (Scene κ CredentialState) (Except CredentialError AccessToken) :=
  withAuthenticatedContext manager.provider manager.credentials manager.acquirer.acquire scene

/-- What the log tells of a token that was issued. -/
def details (manager : LifecycleManager κ) (token : AccessToken) : List (String × String) :=
  [("key", manager.key), ("token", token.name), ("fingerprint", token.fingerprint),
   ("expires_at_ms", toString token.expiresAt.toEpochMillis)]

/-- Stores a token that was issued, and logs that with a message. -/
def store (manager : LifecycleManager κ) (message : String) (more : List (String × String))
    (token : AccessToken) (scene : Scene κ CredentialState) : Scene κ CredentialState :=
  { world := scene.world.info .lifecycle message (manager.details token ++ more)
    record := scene.record.put manager.key token.encode
    memory := .issued }

/-! ### Issuing -/

/-- Asks for a token and stores it. -/
def issueFresh (manager : LifecycleManager κ) (scene : Scene κ CredentialState) :
    Activity (Scene κ CredentialState) (Except CredentialError IssueOutcome) :=
  (manager.acquire scene).andThen fun scene token =>
    .finished (manager.store "access token issued" [] token scene) (.ok (.issued token.name))

/-- Issues a token unless the entry holds one. A value that is not a token is replaced. -/
def ensureIssued (manager : LifecycleManager κ) (scene : Scene κ CredentialState) :
    Activity (Scene κ CredentialState) (Except CredentialError IssueOutcome) :=
  match AccessToken.decodeStored (scene.record.get manager.key) with
  | .ok (some token) =>
    .finished { scene with memory := .atExpiry token.expiresAt scene.world.now }
      (.ok (.alreadyIssued token.name))
  | .ok none => manager.issueFresh scene
  | .error error =>
    manager.issueFresh (scene.mapWorld
      (World.warn .lifecycle "credential entry is unreadable, issuing a fresh token" error.message
        [("key", manager.key)]))

/-! ### Renewing -/

/-- The state goes back to what a token deserves that expires at `expiry`. -/
def settle (expiry : Instant) (scene : Scene κ CredentialState) : Scene κ CredentialState :=
  { scene with memory := .atExpiry expiry scene.world.now }

/-- Asks for a token in place of the current one, and stores it. -/
def renew (manager : LifecycleManager κ) (current : AccessToken) (decision : RenewalDecision)
    (scene : Scene κ CredentialState) :
    Activity (Scene κ CredentialState) (Except CredentialError RenewOutcome) :=
  let acquired := (manager.acquire { scene with memory := .renewing }).ensuring
    (fun result scene =>
      match result with
      | .ok _ => scene
      | .error _ => settle current.expiresAt scene)
    (settle current.expiresAt)
  let more := [("previous", current.name), ("reason", decision.reason)]
  acquired.andThen fun scene token =>
    .finished (manager.store "access token renewed" more token scene)
      (.ok (.renewed decision token.name))

/-- Renews the token in the entry if that is due. -/
def maybeRenew (manager : LifecycleManager κ) (scene : Scene κ CredentialState) :
    Activity (Scene κ CredentialState) (Except CredentialError RenewOutcome) :=
  match AccessToken.decodeStored (scene.record.get manager.key) with
  | .ok (some token) =>
    let decision := manager.settings.renewalWindow.decide scene.world.now token.expiresAt
    if decision.renews then manager.renew token decision scene
    else .finished { scene with memory := .issued } (.ok (.notDue decision))
  | .ok none => .finished scene (.ok .nothingToRenew)
  | .error error =>
    .finished (scene.mapWorld
      (World.warn .lifecycle "credential entry is unreadable, nothing to renew" error.message
        [("key", manager.key)]))
      (.ok .nothingToRenew)

end LifecycleManager

end CredentialLease
