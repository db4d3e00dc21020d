import CredentialLease.Error
import CredentialLease.Renewal
import CredentialLease.Text.Blank

/-!
# What a lease of a credential is taken with

A lease needs a principal, the path of its private key material and the key of the record entry
that holds the token. `LeaseSettings.loginCredentials` is the check that they are there.
-/

namespace CredentialLease

/-- The record key that is used when no other is chosen. -/
def defaultCredentialKey : String := "KEYLEASE_CREDENTIALS"

/-- The start of token names that is used when no other is chosen. -/
def defaultTokenPrefix : String := "keylease-token-"

/-- A principal and where its private key material is. -/
structure LoginCredentials where
  principal : String
  keyPath : String
deriving DecidableEq, Inhabited

/-- The settings for one credential key. -/
structure LeaseSettings where
  principal : Option String
  keyPath : Option String
  renewalWindow : RenewalWindow
  credentialKey : String
  tokenPrefix : String
  /-- The lifetime asked for; none leaves it to the service. -/
  tokenLifetime : Option Duration
deriving DecidableEq

/-- Settings without a principal, under the default key. -/
instance : Inhabited LeaseSettings :=
  ⟨⟨none, none, .invalid, defaultCredentialKey, defaultTokenPrefix, none⟩⟩

namespace LeaseSettings

/-- The credentials to log in with, if the settings are complete. -/
def loginCredentials (settings : LeaseSettings) : Except CredentialError LoginCredentials :=
  match (settings.principal.map trimmed).filter (· ≠ "") with
  | none => .error (.invalidConfiguration "a principal is required for issuance")
  | some principal =>
    match settings.keyPath.filter (· ≠ "") with
    | none => .error (.invalidConfiguration "a key path is required for issuance")
    | some keyPath =>
      if isBlankText settings.credentialKey then
        .error (.invalidConfiguration "credential key must not be empty")
      else .ok ⟨principal, keyPath⟩

/-- Whether the settings are complete. -/
def validate (settings : LeaseSettings) : Except CredentialError Unit :=
  settings.loginCredentials.map fun _ => ()

end LeaseSettings

end CredentialLease
