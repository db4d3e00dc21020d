import CredentialLease.Http.Message

/-!
# A service that replies from a script

The scripted service listens at one local address and answers the n-th call with the n-th reply of
its script; after the last one it reports an error. A reply can be cut short or never come, in
which case the request fails when its time is up. Nothing listens at any other address.
-/

namespace CredentialLease.Rehearsal

/-- A scripted reply. -/
structure ScriptedReply where
  status : Nat
  body : Bytes
  /-- The connection ends before the body does. -/
  truncated : Bool
  /-- The reply never comes. -/
  hang : Bool
deriving DecidableEq, Inhabited

namespace ScriptedReply

/-- The reply after the end of a script. -/
def exhausted : ScriptedReply := ⟨500, utf8 "no response scripted", false, false⟩

/-- The reply as it arrives. -/
def arrive (reply : ScriptedReply) : HttpReply :=
  if HttpReply.isBodiless reply.status then ⟨reply.status, some []⟩
  else ⟨reply.status, if reply.truncated then none else some reply.body⟩

end ScriptedReply

/-- The address at which the scripted service listens. -/
def scriptedAddress : String := "http://127.0.0.1:9200"

/-- Whether a request reaches the scripted service. -/
def reaches (request : HttpRequest) : Bool :=
  !request.url.secure && request.url.host == .ipv4 0x7F000001 && request.url.port == 9200

/-- How many calls of the token endpoint a world has seen before the last one. -/
def earlierCalls {κ : Type} (world : World κ) : Nat :=
  (world.journal.countP fun exchange =>
    match exchange with
    | .called _ _ => true
    | _ => false) - 1

/-- The transport to the scripted service, with a time limit for every request. -/
def scriptedTransport {κ : Type} (script : List ScriptedReply) (limit : Duration) :
    HttpTransport κ := fun world request =>
  if reaches request then
    let reply := script.getD (earlierCalls world) .exhausted
    if reply.hang then .after limit (.error .unreachable) else .now (.ok reply.arrive)
  else .now (.error .unreachable)

end CredentialLease.Rehearsal
