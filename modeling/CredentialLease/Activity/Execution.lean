import CredentialLease.Activity.Basic

/-!
# One run of an activity in given surroundings

A `Host` decides, from the world at the moment of a request, what answers it and after what time.
`Activity.execute` follows the branches that the host chooses and lets time pass while the
activity waits, and only then. It can be given a time at which the activity is dropped. When
several things are due while an activity waits, an answer comes before an alarm, and an alarm
before the drop.
-/

namespace CredentialLease

/-! ### Surroundings -/

/-- An answer and the time it takes. -/
inductive Reply (α : Type) where
  | after (delay : Duration) (answer : α)
  /-- No answer ever comes. -/
  | never

/-- An answer that takes no time. -/
def Reply.now {α : Type} (answer : α) : Reply α := .after ⟨0⟩ answer

/-- The reply with its answer changed. -/
def Reply.map {α β : Type} (f : α → β) : Reply α → Reply β
  | after delay answer => .after delay (f answer)
  | never => .never

/-- What authenticates principals. -/
structure AuthProvider (κ : Type) where
  /-- The outcome of a login that begins in a world. -/
  login : World κ → LoginCredentials → Reply (Except CredentialError Admission)
  /-- The outcome of a logout. -/
  logout : World κ → AuthenticatedContext → Except CredentialError Unit

/-- What issues tokens. -/
structure TokenEndpoint (κ : Type) where
  /-- The outcome of a call that begins in a world. -/
  issue : World κ → AuthenticatedContext → IssueRequest → Reply (Except Failure AccessToken)

/-- What answers the requests of an activity. -/
abbrev Host (κ : Type) := World κ → (request : Request) → Reply request.Answer

/-- The surroundings that a provider and an endpoint make. -/
def Host.of {κ : Type} (provider : AuthProvider κ) (endpoint : TokenEndpoint κ) : Host κ :=
  fun world request =>
    match request with
    | .login credentials => provider.login world credentials
    | .issue context request => endpoint.issue world context request
    | .pause => .never

/-! ### Runs -/

/-- How a run ends. -/
inductive Ending (α : Type) where
  | finished (value : α)
  | dropped
  /-- The activity waits for something that never comes. -/
  | stuck

/-- A run of an activity. -/
structure Execution (κ μ α : Type) where
  /-- The scene at the end. -/
  scene : Scene κ μ
  ending : Ending α
  /-- The requests that the activity waited for, and the scenes in which it did. -/
  requests : List (Scene κ μ × Request)

namespace Activity

variable {κ μ α : Type}

/-- What comes first while an activity waits. -/
inductive Due (request : Request) where
  | answer (delay : Duration) (answer : request.Answer)
  | alarm (delay : Duration)
  | drop (delay : Duration)
  | nothing

/-- The time from `now` to a time on the time line, zero if that has passed. -/
def delayUntil (now time : Duration) : Duration := ⟨time.nanos - now.nanos⟩

/-- What comes first after `now`, of a reply, an alarm and a drop. -/
def due {request : Request} (now : Duration) (reply : Reply request.Answer)
    (alarm cutoff : Option Duration) : Due request :=
  let stop : Due request :=
    match alarm, cutoff with
    | some alarm, some cutoff =>
      if alarm.nanos ≤ cutoff.nanos then .alarm (delayUntil now alarm)
      else .drop (delayUntil now cutoff)
    | some alarm, none => .alarm (delayUntil now alarm)
    | none, some cutoff => .drop (delayUntil now cutoff)
    | none, none => .nothing
  match reply with
  | .never => stop
  | .after delay answer =>
    match stop with
    | .alarm limit => if delay.nanos ≤ limit.nanos then .answer delay answer else stop
    | .drop limit => if delay.nanos ≤ limit.nanos then .answer delay answer else stop
    | _ => .answer delay answer

/-- Runs an activity in given surroundings, dropping it at the time `cutoff` if there is one. -/
def execute (host : Host κ) (cutoff : Option Duration) :
    Activity (Scene κ μ) α → Execution κ μ α
  | finished scene value => ⟨scene, .finished value, []⟩
  | waiting scene request alarm onAnswer onAlarm onDrop =>
    let rest : Execution κ μ α :=
      match due scene.world.elapsed (host scene.world request) alarm cutoff with
      | .answer delay answer =>
        (onAnswer (scene.mapWorld (World.advance delay)) answer).execute host cutoff
      | .alarm delay =>
        if h : alarm.isSome = true then
          (onAlarm h (scene.mapWorld (World.advance delay))).execute host cutoff
        else ⟨scene, .stuck, []⟩
      | .drop delay => ⟨onDrop (scene.mapWorld (World.advance delay)), .dropped, []⟩
      | .nothing => ⟨scene, .stuck, []⟩
    { rest with requests := (scene, request) :: rest.requests }

end Activity

end CredentialLease
