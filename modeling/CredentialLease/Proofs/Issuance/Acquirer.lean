import CredentialLease.Issuance.Acquirer
import CredentialLease.Proofs.Login.Session

/-!
# What comes of asking for a token

`AcquireRun` lists the ways on which a token is asked for. With a released context the endpoint is
not called at all. Otherwise it is called once, with a name that is drawn for this call, and the
token is what it answers if that has this name (`accept_eq_ok_iff`). These are all ways there are
(`run_acquire_iff`).
-/

namespace CredentialLease.TokenAcquirer

variable {κ μ : Type}

/-- **A token is accepted exactly when it is what the endpoint answers and has the name that was
asked for.** -/
theorem accept_eq_ok_iff {request : IssueRequest} {answer : Except Failure AccessToken}
    {token : AccessToken} :
    accept request answer = .ok token ↔ answer = .ok token ∧ token.name = request.name := by
  cases answer with
  | error failure =>
    constructor
    · intro h
      cases h
    · rintro ⟨h, -⟩
      cases h
  | ok issued =>
    rw [accept]
    by_cases hName : issued.name = request.name
    · rw [if_pos hName]
      constructor
      · intro h
        obtain rfl := Except.ok.inj h
        exact ⟨rfl, hName⟩
      · rintro ⟨h, -⟩
        obtain rfl := Except.ok.inj h
        rfl
    · rw [if_neg hName]
      constructor
      · intro h
        cases h
      · rintro ⟨h, hToken⟩
        obtain rfl := Except.ok.inj h
        exact absurd hToken hName

/-- A token that is not accepted fails its issuance. -/
theorem exists_details_of_accept {request : IssueRequest}
    {answer : Except Failure AccessToken} {error : CredentialError}
    (h : accept request answer = .error error) : ∃ details, error = .issuance details := by
  unfold accept at h
  split at h
  · cases h
    exact ⟨_, rfl⟩
  · split at h
    · cases h
    · cases h
      exact ⟨_, rfl⟩

/-- The request for which the next identifier is drawn. -/
def nextRequest (acquirer : TokenAcquirer) (world : World κ) : IssueRequest :=
  acquirer.request (world.identifiers world.drawn)

/-- A login draws no identifier. -/
theorem nextRequest_enter (acquirer : TokenAcquirer) (admission : Admission) (world : World κ) :
    acquirer.nextRequest (world.enter admission).2 = acquirer.nextRequest world := by
  cases admission with
  | fresh identity => rfl
  | shared context => rfl

/-- The scene in which the endpoint is called. -/
def calling (acquirer : TokenAcquirer) (scene : Scene κ μ) (context : AuthenticatedContext) :
    Scene κ μ :=
  { scene with world := scene.world.draw.2.noting (.called context
      (acquirer.nextRequest scene.world)) }

/-- **With a released context the endpoint is not called.** -/
theorem acquire_of_isReleased (acquirer : TokenAcquirer) {scene : Scene κ μ}
    {context : AuthenticatedContext} (h : context.isReleased scene.world = true) :
    acquirer.acquire scene context = .finished scene (.error context.releasedError) := by
  rw [acquire, AuthenticatedContext.ensureActive_of_isReleased h]

theorem acquire_of_active (acquirer : TokenAcquirer) {scene : Scene κ μ}
    {context : AuthenticatedContext} (h : context.isReleased scene.world = false) :
    acquirer.acquire scene context = .ask (acquirer.calling scene context)
      (.issue context (acquirer.nextRequest scene.world))
      fun scene' answer =>
        .finished scene' (accept (acquirer.nextRequest scene.world) answer) := by
  rw [acquire, AuthenticatedContext.ensureActive_of_active h]
  rfl

/-- **The ways on which a token is asked for.** -/
inductive AcquireRun (meanwhile : Scene κ μ → Scene κ μ → Prop) (acquirer : TokenAcquirer)
    (scene : Scene κ μ) (context : AuthenticatedContext) :
    List (Wait (Scene κ μ)) → Scene κ μ → Option (Except CredentialError AccessToken) → Prop where
  /-- The login of the context has ended. -/
  | refused (hReleased : context.isReleased scene.world = true) :
      AcquireRun meanwhile acquirer scene context [] scene (some (.error context.releasedError))
  /-- The call is dropped before the endpoint answers. -/
  | dropped {resumed : Scene κ μ} (hActive : context.isReleased scene.world = false)
      (hMeanwhile : meanwhile (acquirer.calling scene context) resumed) :
      AcquireRun meanwhile acquirer scene context
        [⟨acquirer.calling scene context, .issue context (acquirer.nextRequest scene.world), none,
          resumed⟩] resumed none
  /-- The endpoint answers. -/
  | answered {resumed : Scene κ μ} (answer : Except Failure AccessToken)
      (hActive : context.isReleased scene.world = false)
      (hMeanwhile : meanwhile (acquirer.calling scene context) resumed) :
      AcquireRun meanwhile acquirer scene context
        [⟨acquirer.calling scene context, .issue context (acquirer.nextRequest scene.world),
          some answer, resumed⟩] resumed
        (some (accept (acquirer.nextRequest scene.world) answer))

/-- **A token is asked for on one of these ways**, whatever happens while the endpoint is called. -/
theorem run_acquire_iff {meanwhile : Scene κ μ → Scene κ μ → Prop} {acquirer : TokenAcquirer}
    {scene t : Scene κ μ} {context : AuthenticatedContext} {waits : List (Wait (Scene κ μ))}
    {result : Option (Except CredentialError AccessToken)} :
    Activity.Run meanwhile (acquirer.acquire scene context) waits t result
      ↔ AcquireRun meanwhile acquirer scene context waits t result := by
  cases hReleased : context.isReleased scene.world with
  | true =>
    rw [acquirer.acquire_of_isReleased hReleased, Activity.run_finished_iff]
    constructor
    · rintro ⟨rfl, rfl, rfl⟩
      exact .refused hReleased
    · intro h
      cases h with
      | refused => exact ⟨rfl, rfl, rfl⟩
      | dropped hActive => rw [hReleased] at hActive; cases hActive
      | answered answer hActive => rw [hReleased] at hActive; cases hActive
  | false =>
    rw [acquirer.acquire_of_active hReleased, Activity.run_ask_iff]
    constructor
    · rintro ⟨resumed, hMeanwhile, ⟨rfl, rfl, rfl⟩ | ⟨answer, more, rfl, hRest⟩⟩
      · exact .dropped hReleased hMeanwhile
      · obtain ⟨rfl, rfl, rfl⟩ := Activity.run_finished_iff.mp hRest
        exact .answered answer hReleased hMeanwhile
    · intro h
      cases h with
      | refused hRefused => rw [hReleased] at hRefused; cases hRefused
      | dropped _ hMeanwhile => exact ⟨_, hMeanwhile, .inl ⟨rfl, rfl, rfl⟩⟩
      | answered answer _ hMeanwhile =>
        exact ⟨_, hMeanwhile, .inr ⟨answer, [], rfl,
          Activity.run_finished_iff.mpr ⟨rfl, rfl, rfl⟩⟩⟩

end CredentialLease.TokenAcquirer
