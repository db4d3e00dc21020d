import CredentialLease.Activity.Basic
import CredentialLease.Login.Context

/-!
# Asking an endpoint for a token

Every request names the token it asks for: a fixed beginning and a random identifier, so that no
two requests ask for the same name. The token that comes back must have the name that was asked
for.
-/

namespace CredentialLease

variable {κ μ : Type}

/-- How tokens are asked for. -/
structure TokenAcquirer where
  /-- The beginning of the names of tokens. -/
  nameStem : String
  /-- The lifetime asked for; none leaves it to the service. -/
  lifetime : Option Duration
deriving DecidableEq

instance : Inhabited TokenAcquirer := ⟨⟨defaultTokenPrefix, none⟩⟩

namespace TokenAcquirer

/-- The request for a token named with a random identifier. -/
def request (acquirer : TokenAcquirer) (identifier : String) : IssueRequest :=
  ⟨acquirer.nameStem ++ identifier, acquirer.lifetime⟩

/-- What comes of a call of the endpoint. -/
def accept (request : IssueRequest) : Except Failure AccessToken →
    Except CredentialError AccessToken
  | .error failure => .error (.issuance failure.message)
  | .ok token =>
    if token.name = request.name then .ok token
    else .error (.issuance
      s!"requested token {request.name} but the endpoint issued {token.name}")

/-- Asks the endpoint for a token as the identity of an active context. -/
def acquire (acquirer : TokenAcquirer) (scene : Scene κ μ) (context : AuthenticatedContext) :
    Activity (Scene κ μ) (Except CredentialError AccessToken) :=
  match context.ensureActive scene.world with
  | .error error => .finished scene (.error error)
  | .ok () =>
    let (identifier, world) := scene.world.draw
    let request := acquirer.request identifier
    .ask { scene with world := world.noting (.called context request) } (.issue context request)
      fun scene answer => .finished scene (accept request answer)

end TokenAcquirer

end CredentialLease
