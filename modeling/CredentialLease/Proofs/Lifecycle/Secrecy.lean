import CredentialLease.Lifecycle.Manager
import CredentialLease.Proofs.Activity.Alike
import CredentialLease.Proofs.Login.Session
import CredentialLease.Proofs.Record.HiddenSecrets

/-!
# A manager's calls do not depend on stored secrets

On two scenes whose records are read alike, a call of a manager waits for the same, and comes to the
same: of a token in the entry it uses nothing but the name and the expiry. What it stores in the end
is the same in both records, which are read alike afterwards too.

The storages may differ, as long as the provider logs out alike around them. They have no other part
in a call.

Under a host, which does not see the record, the two executions differ in nothing but their records.

Main statements: `LifecycleManager.alike_ensureIssued` and `LifecycleManager.alike_maybeRenew`, and
for executions `LifecycleManager.ensureIssued_sameButRecord` and
`LifecycleManager.maybeRenew_sameButRecord`.
-/

namespace CredentialLease

variable {κ μ α : Type} {S : κ → κ → Prop}

/-! ### Scenes -/

/-- The world with another storage. -/
def World.withStorage (world : World κ) (storage : κ) : World κ := { world with storage := storage }

/-- **Whether two scenes differ in nothing but their storages**, which `S` relates, and in records
that are read alike. -/
inductive Scene.Alike (S : κ → κ → Prop) : Scene κ μ → Scene κ μ → Prop where
  | intro (world : World κ) {storage : κ} {record other : CredentialRecord} (memory : μ)
      (hStorage : S world.storage storage) (hRecord : record.Alike other) :
      Alike S ⟨world, record, memory⟩ ⟨world.withStorage storage, other, memory⟩

namespace Scene.Alike

variable {scene other : Scene κ μ}

theorem elapsed (h : scene.Alike S other) : scene.world.elapsed = other.world.elapsed := by
  cases h
  rfl

/-- Time passes in both. -/
theorem lasts (h : scene.Alike S other) (delay : Duration) :
    (scene.mapWorld (World.advance delay)).Alike S (other.mapWorld (World.advance delay)) := by
  cases h with
  | intro world memory hStorage hRecord =>
    exact .intro (world.advance delay) memory hStorage hRecord

end Scene.Alike

/-- Whether a provider logs out alike around related storages. -/
def AuthProvider.LogsOutAlike (S : κ → κ → Prop) (provider : AuthProvider κ) : Prop :=
  ∀ (world : World κ) storage context, S world.storage storage →
    provider.logout (world.withStorage storage) context = provider.logout world context

/-! ### Sessions -/

theorem AuthProvider.alike_closeContext {provider : AuthProvider κ}
    (hLogout : provider.LogsOutAlike S) (context : AuthenticatedContext) {scene other : Scene κ μ}
    (h : scene.Alike S other) :
    (scene.mapWorld (provider.closeContext context)).Alike S
      (other.mapWorld (provider.closeContext context)) := by
  cases h with
  | @intro world storage record read memory hStorage hRecord =>
    have hAnswered : provider.answeredLogout context (world.withStorage storage)
        = provider.answeredLogout context world := by
      rw [answeredLogout, answeredLogout, hLogout world storage context hStorage]
    have hClosed : provider.closeContext context (world.withStorage storage)
        = (provider.closeContext context world).withStorage storage := by
      rw [closeContext, closeContext, hAnswered]
      cases (provider.answeredLogout context world).failure with
      | none => rfl
      | some error => rfl
    have hSame : (provider.closeContext context world).storage = world.storage := by
      obtain ⟨log, hLoggedOut⟩ := provider.closeContext_eq context world
      rw [hLoggedOut]
    unfold Scene.mapWorld
    rw [hClosed]
    exact .intro _ memory (hSame ▸ hStorage) hRecord

/-- **A session is alike in alike scenes** if its action is. -/
theorem alike_withAuthenticatedContext {asks : Request → Prop} {provider : AuthProvider κ}
    {credentials : LoginCredentials}
    {action : Scene κ μ → AuthenticatedContext → Activity (Scene κ μ) (Except CredentialError α)}
    {scene other : Scene κ μ} (hAsks : asks (.login credentials))
    (hLogout : provider.LogsOutAlike S)
    (hAction : ∀ {scene other : Scene κ μ} context, scene.Alike S other →
      Activity.Alike asks (Scene.Alike S) (Activity.SameValue (Scene.Alike S))
        (action scene context) (action other context))
    (h : scene.Alike S other) :
    Activity.Alike asks (Scene.Alike S) (Activity.SameValue (Scene.Alike S))
      (withAuthenticatedContext provider credentials action scene)
      (withAuthenticatedContext provider credentials action other) := by
  refine .ask hAsks h fun answer hBoth => ?_
  match answer with
  | .error error => exact .finished ⟨hBoth, rfl⟩
  | .ok admission =>
    cases hBoth with
    | @intro world storage record read memory hStorage hRecord =>
      have hActed (context : AuthenticatedContext) (after : World κ) (hAfter : S after.storage storage) :
          Activity.Alike asks (Scene.Alike S) (Activity.SameValue (Scene.Alike S))
            ((action ⟨after, record, memory⟩ context).ensuring
              (fun _ => Scene.mapWorld (provider.closeContext context))
              (Scene.mapWorld (provider.closeContext context)))
            ((action ⟨after.withStorage storage, read, memory⟩ context).ensuring
              (fun _ => Scene.mapWorld (provider.closeContext context))
              (Scene.mapWorld (provider.closeContext context))) :=
        (hAction context (.intro after memory hAfter hRecord)).ensuring
          (fun _ hEnded => provider.alike_closeContext hLogout _ hEnded)
          (provider.alike_closeContext hLogout _)
      cases admission with
      | fresh identity => exact hActed _ _ hStorage
      | shared context => exact hActed _ _ hStorage

theorem TokenAcquirer.alike_acquire {asks : Request → Prop} (acquirer : TokenAcquirer)
    (hAsks : ∀ context request, asks (.issue context request)) {scene other : Scene κ μ}
    (context : AuthenticatedContext) (h : scene.Alike S other) :
    Activity.Alike asks (Scene.Alike S) (Activity.SameValue (Scene.Alike S))
      (acquirer.acquire scene context) (acquirer.acquire other context) := by
  cases h with
  | @intro world storage record read memory hStorage hRecord =>
    have hActive : context.ensureActive (world.withStorage storage)
        = context.ensureActive world := rfl
    unfold acquire
    dsimp only
    rw [hActive]
    cases context.ensureActive world with
    | error error => exact .finished ⟨.intro world memory hStorage hRecord, rfl⟩
    | ok done =>
      refine .ask (hAsks _ _) (.intro _ memory hStorage hRecord) fun answer hBoth => ?_
      exact .finished ⟨hBoth, rfl⟩

/-! ### Calls -/

namespace LifecycleManager

variable {manager : LifecycleManager κ} {scene other : Scene κ CredentialState}

/-- What a manager may ask for: a login with its own credentials, or a token. -/
def MayAsk (manager : LifecycleManager κ) : Request → Prop
  | .login credentials => credentials = manager.credentials
  | _ => True

/-- Whether two calls are alike, and come to the same. -/
abbrev CallsAlike (manager : LifecycleManager κ) (S : κ → κ → Prop) {ω : Type}
    (first second : Activity (Scene κ CredentialState) (Except CredentialError ω)) : Prop :=
  Activity.Alike manager.MayAsk (Scene.Alike S) (Activity.SameValue (Scene.Alike S)) first second

theorem alike_acquire (hLogout : manager.provider.LogsOutAlike S) (h : scene.Alike S other) :
    manager.CallsAlike S (manager.acquire scene) (manager.acquire other) :=
  alike_withAuthenticatedContext rfl hLogout
    (manager.acquirer.alike_acquire fun _ _ => trivial) h

/-- The same token is stored in both records. -/
theorem alike_store (message : String) (more : List (String × String)) (token : AccessToken)
    (h : scene.Alike S other) :
    (manager.store message more token scene).Alike S (manager.store message more token other) := by
  cases h with
  | intro world memory hStorage hRecord =>
    exact .intro _ CredentialState.issued hStorage (hRecord.put manager.key token.encode)

theorem alike_issueFresh (hLogout : manager.provider.LogsOutAlike S) (h : scene.Alike S other) :
    manager.CallsAlike S (manager.issueFresh scene) (manager.issueFresh other) :=
  (alike_acquire hLogout h).andThen fun token hBoth =>
    .finished ⟨alike_store "access token issued" [] token hBoth, rfl⟩

/-- **Issuing does not depend on stored secrets.** -/
theorem alike_ensureIssued (hLogout : manager.provider.LogsOutAlike S) (h : scene.Alike S other) :
    manager.CallsAlike S (manager.ensureIssued scene) (manager.ensureIssued other) := by
  cases h with
  | @intro world storage record read memory hStorage hRecord =>
    unfold ensureIssued
    obtain ⟨token, another, hSame, hToken, hOther⟩ | ⟨hToken, hOther⟩ | ⟨error, hToken, hOther⟩ :=
      (hRecord manager.key).decodeStored_cases
    · dsimp only
      rw [hToken, hOther]
      dsimp only
      rw [hSame.name, hSame.expiresAt]
      exact .finished ⟨.intro world _ hStorage hRecord, rfl⟩
    · dsimp only
      rw [hToken, hOther]
      exact alike_issueFresh hLogout (.intro world memory hStorage hRecord)
    · dsimp only
      rw [hToken, hOther]
      exact alike_issueFresh hLogout (.intro _ memory hStorage hRecord)

theorem alike_settle {expiry : Instant} (h : scene.Alike S other) :
    (settle expiry scene).Alike S (settle expiry other) := by
  cases h with
  | intro world memory hStorage hRecord => exact .intro world _ hStorage hRecord

/-- Of the current token a renewal uses the name and the expiry. -/
theorem alike_renew (hLogout : manager.provider.LogsOutAlike S) {token another : AccessToken}
    (hSame : token.SameButSecret another) (decision : RenewalDecision) (h : scene.Alike S other) :
    manager.CallsAlike S (manager.renew token decision scene)
      (manager.renew another decision other) := by
  have hRenewing : ({ scene with memory := .renewing } : Scene κ CredentialState).Alike S
      { other with memory := .renewing } := by
    cases h with
    | intro world memory hStorage hRecord =>
      exact .intro world CredentialState.renewing hStorage hRecord
  unfold renew
  rw [hSame.name, hSame.expiresAt]
  refine ((alike_acquire hLogout hRenewing).ensuring (fun result hBoth => ?_) alike_settle).andThen
    fun stored hBoth => .finished ⟨alike_store "access token renewed" _ stored hBoth, rfl⟩
  cases result with
  | ok stored => exact hBoth
  | error error => exact alike_settle hBoth

/-- **Renewing does not depend on stored secrets.** -/
theorem alike_maybeRenew (hLogout : manager.provider.LogsOutAlike S) (h : scene.Alike S other) :
    manager.CallsAlike S (manager.maybeRenew scene) (manager.maybeRenew other) := by
  cases h with
  | @intro world storage record read memory hStorage hRecord =>
    unfold maybeRenew
    obtain ⟨token, another, hSame, hToken, hOther⟩ | ⟨hToken, hOther⟩ | ⟨error, hToken, hOther⟩ :=
      (hRecord manager.key).decodeStored_cases
    · have hDecision : manager.settings.renewalWindow.decide (world.withStorage storage).now
          another.expiresAt = manager.settings.renewalWindow.decide world.now token.expiresAt := by
        rw [hSame.expiresAt]
        rfl
      dsimp only
      rw [hToken, hOther]
      dsimp only
      rw [hDecision]
      split
      · exact alike_renew hLogout hSame _ (.intro world memory hStorage hRecord)
      · exact .finished ⟨.intro world CredentialState.issued hStorage hRecord, rfl⟩
    · dsimp only
      rw [hToken, hOther]
      exact .finished ⟨.intro world memory hStorage hRecord, rfl⟩
    · dsimp only
      rw [hToken, hOther]
      exact .finished ⟨.intro _ memory hStorage hRecord, rfl⟩

end LifecycleManager

/-! ### Executions -/

/-- **Whether two executions differ in nothing but the records** that they work on: they end in the
same way, in the same world and with the same memory, and ask for the same in the same worlds. -/
structure Execution.SameButRecord (first second : Execution κ μ α) : Prop where
  ending : first.ending = second.ending
  world : first.scene.world = second.scene.world
  memory : first.scene.memory = second.scene.memory
  requests : first.requests.map (fun (scene, request) => (scene.world, scene.memory, request))
    = second.requests.map (fun (scene, request) => (scene.world, scene.memory, request))

namespace Scene.Alike

variable {scene other : Scene κ μ}

theorem world_eq (h : scene.Alike Eq other) : scene.world = other.world := by
  cases h with
  | intro world memory hStorage hRecord =>
    obtain rfl := hStorage
    rfl

theorem memory_eq (h : scene.Alike S other) : scene.memory = other.memory := by
  cases h
  rfl

end Scene.Alike

theorem Execution.Alike.sameButRecord {first second : Execution κ μ α}
    (h : first.Alike (Scene.Alike Eq) (Activity.SameValue (Scene.Alike Eq)) second) :
    first.SameButRecord second := by
  have hRequests : first.requests.map (fun (scene, request) => (scene.world, scene.memory, request))
      = second.requests.map (fun (scene, request) => (scene.world, scene.memory, request)) := by
    refine List.forall₂_eq_eq_eq ▸ List.forall₂_map_left_iff.mpr (List.forall₂_map_right_iff.mpr ?_)
    refine h.requests.imp fun asked other hBoth => ?_
    obtain ⟨hScene, hRequest⟩ := hBoth
    show (_, _, _) = (_, _, _)
    rw [hScene.world_eq, hScene.memory_eq, hRequest]
  obtain ⟨value, other, hFirst, hSecond, hScene, rfl⟩ | ⟨hFirst, hSecond, hScene⟩ |
    ⟨hFirst, hSecond, hScene⟩ := h.ending
  all_goals exact ⟨hFirst.trans hSecond.symm, hScene.world_eq, hScene.memory_eq, hRequests⟩

namespace LifecycleManager

variable {first second : CredentialRecord}

/-- A call on records that are read alike is executed alike by every host. -/
theorem sameButRecord_of_callsAlike {ω : Type} {manager : LifecycleManager κ}
    {call other : Activity (Scene κ CredentialState) (Except CredentialError ω)}
    (h : manager.CallsAlike Eq call other) (host : Host κ) (cutoff : Option Duration) :
    (call.execute host cutoff).SameButRecord (other.execute host cutoff) := by
  refine (Activity.Alike.execute (fun hBoth _ => ?_) Scene.Alike.elapsed
    (fun delay hBoth => hBoth.lasts delay) h cutoff).sameButRecord
  rw [hBoth.world_eq]

theorem logsOutAlike_eq (provider : AuthProvider κ) : provider.LogsOutAlike Eq := by
  intro world storage context hStorage
  obtain rfl := hStorage
  rfl

/-- **What comes of issuing does not depend on stored secrets**, whatever the manager, its
surroundings and the time at which it is dropped. -/
theorem ensureIssued_sameButRecord (h : first.Alike second) (manager : LifecycleManager κ)
    (host : Host κ) (cutoff : Option Duration) (world : World κ) (memory : CredentialState) :
    ((manager.ensureIssued ⟨world, first, memory⟩).execute host cutoff).SameButRecord
      ((manager.ensureIssued ⟨world, second, memory⟩).execute host cutoff) :=
  sameButRecord_of_callsAlike
    (alike_ensureIssued (logsOutAlike_eq _) (.intro world memory rfl h)) host cutoff

/-- **What comes of renewing does not depend on stored secrets.** -/
theorem maybeRenew_sameButRecord (h : first.Alike second) (manager : LifecycleManager κ)
    (host : Host κ) (cutoff : Option Duration) (world : World κ) (memory : CredentialState) :
    ((manager.maybeRenew ⟨world, first, memory⟩).execute host cutoff).SameButRecord
      ((manager.maybeRenew ⟨world, second, memory⟩).execute host cutoff) :=
  sameButRecord_of_callsAlike
    (alike_maybeRenew (logsOutAlike_eq _) (.intro world memory rfl h)) host cutoff

end LifecycleManager

end CredentialLease
