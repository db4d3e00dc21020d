import CredentialLease.Http.BasicScheme
import CredentialLease.World

/-!
# What an authenticated identity can be used for

A context is active from its login on until it is released. All handles to one login share this,
as the world keeps it by the number of the context. Only an active context gives out its key
material and the header made of it.
-/

namespace CredentialLease.AuthenticatedContext

variable {κ : Type}

/-- Whether the login of a context has ended. -/
def isReleased (context : AuthenticatedContext) (world : World κ) : Bool :=
  world.released.contains context.number

/-- Fails when the login of the context has ended. -/
def ensureActive (context : AuthenticatedContext) (world : World κ) : Except CredentialError Unit :=
  if context.isReleased world then
    .error (.authentication
      s!"login context for {context.identity.principal} has already been released")
  else .ok ()

/-- The key material of an active context. -/
def material (context : AuthenticatedContext) (world : World κ) :
    Except CredentialError SecretMaterial := do
  context.ensureActive world
  return context.identity.material

/-- The header value that authorizes a call as an identity. -/
def basicHeader (identity : Identity) : String :=
  basicScheme (utf8 identity.principal) identity.material.bytes

/-- The header value that authorizes a call, for an active context. -/
def basicAuthorization (context : AuthenticatedContext) (world : World κ) :
    Except CredentialError String := do
  let _ ← context.material world
  return basicHeader context.identity

/-- What a diagnostic shows of a context. -/
def redacted (context : AuthenticatedContext) (world : World κ) : String :=
  "AuthenticatedContext \x7b principal: " ++ quoted context.identity.principal
    ++ ", released: " ++ toString (context.isReleased world) ++ ", .. \x7d"

end CredentialLease.AuthenticatedContext
