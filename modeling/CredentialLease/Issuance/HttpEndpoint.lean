import CredentialLease.Http.Message
import CredentialLease.Json.Tree
import CredentialLease.Json.Value
import CredentialLease.Login.Context

/-!
# Tokens from a service

The endpoint posts the name of the token, and the lifetime in whole seconds if one is asked for,
to a fixed path below the base address of the service. The reply names an identifier and a key,
whose texts joined by a colon are the secret, and the expiry in milliseconds.

The expiry is on the clock of the service. So that a token is never issued after it expires, its
issue is dated at the latest one millisecond before its expiry.
-/

namespace CredentialLease

/-- A service that issues tokens. -/
structure HttpTokenEndpoint where
  /-- The base address, without a slash at its end. -/
  baseUrl : String
deriving DecidableEq, Inhabited

namespace HttpTokenEndpoint

/-- The service at a base address. -/
def create (baseUrl : String) : Except Failure HttpTokenEndpoint :=
  let trimmed := String.ofList (baseUrl.toList.reverse.dropWhile (· = '/')).reverse
  if trimmed = "" then .error (.other "token endpoint URL is empty") else .ok ⟨trimmed⟩

/-- The address of requests, as a text. -/
def address (endpoint : HttpTokenEndpoint) : String := endpoint.baseUrl ++ "/_security/api_key"

/-! ### Requests -/

/-- The lifetime that is written in a request: at least one second. -/
def lifetimeText (lifetime : Duration) : String := toString (max lifetime.seconds 1) ++ "s"

/-- The body of a request. -/
def body (request : IssueRequest) : Json.Value :=
  .object ([("name", .text request.name)]
    ++ Json.optional "expiration" (fun lifetime => .text (lifetimeText lifetime)) request.lifetime)

/-- The request for a token as an identity, if the address of the service is one. -/
def request (endpoint : HttpTokenEndpoint) (identity : Identity) (request : IssueRequest) :
    Except Failure HttpRequest :=
  match Url.parse endpoint.address with
  | some url =>
    .ok ⟨url, AuthenticatedContext.basicHeader identity, (body request).compact⟩
  | none => .error (.transport .invalidRequest)

/-- What is sent to the service for a call of the endpoint: nothing for a context that has been
released. -/
def sent? {κ : Type} (service : HttpTokenEndpoint) (world : World κ)
    (context : AuthenticatedContext) (request : IssueRequest) : Option HttpRequest :=
  match context.ensureActive world with
  | .error _ => none
  | .ok () => (service.request context.identity request).toOption

/-! ### Replies -/

/-- What a successful reply says. -/
structure Grant where
  id : String
  name : String
  apiKey : String
  /-- The expiry in milliseconds since the epoch. -/
  expiration : Option EpochMillis
deriving DecidableEq

/-- The names of the members of a reply, in order. -/
def grantMembers : List String := ["id", "name", "api_key", "expiration"]

/-- What a JSON tree grants. -/
def Grant.ofTree (tree : Json.Tree) : Option Grant := do
  match ← tree.fields grantMembers with
  | [some id, some name, some apiKey, expiration] =>
    let expiration ← match expiration with
      | some value => value.optional (Json.Tree.natural 64)
      | none => some none
    return ⟨← id.text, ← name.text, ← apiKey.text, expiration.map UInt64.ofNat⟩
  | _ => none

/-- The token of a grant that was asked for at an instant. -/
def Grant.token (grant : Grant) (askedAt : Instant) : Except Failure AccessToken :=
  match grant.expiration with
  | none => .error (.other "token endpoint response has no expiration")
  | some expiration =>
    let expiresAt := Instant.ofEpochMillis expiration
    let issuedAt := match expiresAt.checkedSub (.ofMillis 1) with
      | some latest => askedAt.earlier latest
      | none => askedAt
    (AccessToken.create grant.name ⟨utf8 (grant.id ++ ":" ++ grant.apiKey)⟩ issuedAt
      expiresAt).mapError Failure.credential

/-- The token in a reply to a request that was sent at an instant. -/
def accept (askedAt : Instant) : Except TransportError HttpReply → Except Failure AccessToken
  | .error error => .error (.transport error)
  | .ok reply =>
    if reply.isSuccess then
      match (reply.body.bind Json.read).bind Grant.ofTree with
      | some grant => grant.token askedAt
      | none => .error (.transport .undecodable)
    else
      .error (.other ("token endpoint returned " ++ reply.statusText ++ ": "
        ++ ofUtf8Lossy (reply.body.getD [])))

/-- The service as an endpoint, reached by a transport. -/
def endpoint {κ : Type} (service : HttpTokenEndpoint) (transport : HttpTransport κ) :
    TokenEndpoint κ where
  issue world context request :=
    match context.ensureActive world with
    | .error error => .now (.error (.credential error))
    | .ok () =>
      match service.request context.identity request with
      | .error failure => .now (.error failure)
      | .ok request => (transport world request).map (accept world.now)

end HttpTokenEndpoint

end CredentialLease
