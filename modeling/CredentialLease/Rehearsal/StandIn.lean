import CredentialLease.Activity.Execution
import CredentialLease.Record.Store

/-!
# Collaborators for trying out a lease without a service

The stand-in provider accepts every principal with the same key material, and the stand-in
endpoint mints tokens itself, valid from the reading of the clock on. Either can be told to fail,
and the endpoint not to answer or to answer with another name. The stand-in storage holds one
record, counts how often it is saved and can be told to refuse.
-/

namespace CredentialLease.Rehearsal

/-- How the stand-ins behave. -/
structure Behaviour where
  /-- The error with which every login fails. -/
  loginError : Option CredentialError
  failLogin : Bool
  failLogout : Bool
  failIssue : Bool
  /-- The endpoint never answers. -/
  hang : Bool
  /-- The endpoint issues a token of another name. -/
  rename : Bool
  /-- The lifetime of tokens for which none is asked. -/
  lifetime : Duration

instance : Inhabited Behaviour := ⟨⟨none, false, false, false, false, false, .ofSeconds 3600⟩⟩

namespace Behaviour

variable {κ : Type}

/-- The outcome of a login. -/
def login (behaviour : Behaviour) (credentials : LoginCredentials) :
    Except CredentialError Identity :=
  match behaviour.loginError with
  | some error => .error error
  | none =>
    if behaviour.failLogin then .error (.authentication "stub login rejected")
    else .ok ⟨credentials.principal, ⟨utf8 "stub-key"⟩⟩

/-- The provider that behaves so. -/
def provider (behaviour : Behaviour) : AuthProvider κ where
  login _ credentials := .now ((behaviour.login credentials).map .fresh)
  logout _ _ :=
    if behaviour.failLogout then .error (.authentication "stub logout failed") else .ok ()

/-- A token issued at an instant for a lifetime, with a secret made from its name. -/
def mint (name : String) (now : Instant) (lifetime : Duration) : Except Failure AccessToken :=
  (AccessToken.create name ⟨utf8 s!"secret-for-{name}"⟩ now (now.plus lifetime)).mapError
    Failure.credential

/-- The outcome of a call of the endpoint that ends. -/
def issue (behaviour : Behaviour) (now : Instant) (request : IssueRequest) :
    Except Failure AccessToken :=
  if behaviour.failIssue then .error (.other "stub endpoint unavailable")
  else
    mint (if behaviour.rename then request.name ++ "-other" else request.name) now
      (request.lifetime.getD behaviour.lifetime)

/-- The endpoint that behaves so. -/
def endpoint (behaviour : Behaviour) : TokenEndpoint κ where
  issue world _ request :=
    if behaviour.hang then .never else .now (behaviour.issue world.now request)

/-- The surroundings that the stand-ins make. -/
def host (behaviour : Behaviour) : Host κ := .of behaviour.provider behaviour.endpoint

end Behaviour

/-! ### Storage -/

/-- A storage of one record. -/
structure Shelf where
  record : CredentialRecord
  /-- How often the record has been saved. -/
  saves : Nat
  failLoad : Bool
  failSave : Bool

/-- The store that keeps its record on a shelf. -/
def Shelf.store : RecordStore Shelf where
  load shelf := if shelf.failLoad then .error (.other "store load refused") else .ok shelf.record
  save record shelf :=
    if shelf.failSave then (.error (.other "store save refused"), shelf)
    else (.ok (), { shelf with record := record, saves := shelf.saves + 1 })

end CredentialLease.Rehearsal
