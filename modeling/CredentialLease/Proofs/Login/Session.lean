import CredentialLease.Login.Session
import CredentialLease.Proofs.Activity.Run

/-!
# What a session does on every way through it

`SessionRun` lists the ways through a session: it is dropped while it logs in, the login is refused,
or the action runs with the context of the login until it ends or is dropped. Only on the last way
there is a logout. It comes once, in the state in which the action ended, and neither it nor what the
provider answers to it changes the result. These are all ways there are
(`run_withAuthenticatedContext_iff`).

After that the context is released, and a released context gives nothing out any more
(`ensureActive_of_isReleased`, `material_of_isReleased`, `basicAuthorization_of_isReleased`).
-/

namespace CredentialLease

variable {κ μ α : Type}

/-! ### Active and released contexts -/

namespace AuthenticatedContext

variable {context : AuthenticatedContext} {world : World κ}

/-- The failure of whatever needs the login of a context that has ended. -/
def releasedError (context : AuthenticatedContext) : CredentialError :=
  .authentication s!"login context for {context.identity.principal} has already been released"

theorem ensureActive_of_isReleased (h : context.isReleased world = true) :
    context.ensureActive world = .error context.releasedError := by
  rw [ensureActive, if_pos h]
  rfl

theorem ensureActive_of_active (h : context.isReleased world = false) :
    context.ensureActive world = .ok () := by
  rw [ensureActive, if_neg (Bool.eq_false_iff.mp h)]

theorem material_of_isReleased (h : context.isReleased world = true) :
    context.material world = .error context.releasedError := by
  rw [material, ensureActive_of_isReleased h]
  rfl

theorem material_of_active (h : context.isReleased world = false) :
    context.material world = .ok context.identity.material := by
  rw [material, ensureActive_of_active h]
  rfl

theorem basicAuthorization_of_isReleased (h : context.isReleased world = true) :
    context.basicAuthorization world = .error context.releasedError := by
  rw [basicAuthorization, material_of_isReleased h]
  rfl

theorem basicAuthorization_of_active (h : context.isReleased world = false) :
    context.basicAuthorization world = .ok (basicHeader context.identity) := by
  rw [basicAuthorization, material_of_active h]
  rfl

end AuthenticatedContext

/-! ### Logging in and out -/

/-- Whether two worlds agree in the exchanges and in the state of every login. -/
structure World.SameExchanges (before after : World κ) : Prop where
  journal : after.journal = before.journal
  contexts : after.contexts = before.contexts
  released : after.released = before.released

theorem World.SameExchanges.refl (world : World κ) : world.SameExchanges world := ⟨rfl, rfl, rfl⟩

theorem World.SameExchanges.journal_prefix {before after : World κ}
    (h : before.SameExchanges after) : before.journal <+: after.journal :=
  ⟨[], (List.append_nil _).trans h.journal.symm⟩

/-- Whether the worlds of two scenes agree so. -/
def Scene.SameExchanges (before after : Scene κ μ) : Prop :=
  before.world.SameExchanges after.world

theorem Scene.SameExchanges.refl (scene : Scene κ μ) : scene.SameExchanges scene :=
  World.SameExchanges.refl scene.world

/-! ### Admissions -/

namespace World

variable (admission : Admission) (world : World κ)

/-- A login is noted once, whatever context it gives. -/
theorem enter_journal :
    (world.enter admission).2.journal = world.journal ++ [.loggedIn (world.enter admission).1] := by
  cases admission with
  | fresh identity => rfl
  | shared context => rfl

/-- A login releases no context and brings none back. -/
theorem enter_released : (world.enter admission).2.released = world.released := by
  cases admission with
  | fresh identity => rfl
  | shared context => rfl

/-- The numbers that can still be given to contexts never begin again. -/
theorem contexts_le_enter : world.contexts ≤ (world.enter admission).2.contexts := by
  cases admission with
  | fresh identity => exact Nat.le_succ _
  | shared context => exact Nat.le_max_left _ _

theorem number_lt_enter : (world.enter admission).1.number < (world.enter admission).2.contexts := by
  cases admission with
  | fresh identity => exact Nat.lt_succ_self _
  | shared context => exact Nat.lt_of_lt_of_le (Nat.lt_succ_self _) (Nat.le_max_right _ _)

/-- A context is active after its login exactly when its number was not released before. -/
theorem isReleased_enter :
    (world.enter admission).1.isReleased (world.enter admission).2
      = world.released.contains (world.enter admission).1.number := by
  rw [AuthenticatedContext.isReleased, enter_released]

end World

/-- **Whether a login gives an active context.** -/
def Admission.IsActive (admission : Admission) (world : World κ) : Prop :=
  (world.enter admission).1.isReleased (world.enter admission).2 = false

theorem Admission.isActive_iff {admission : Admission} {world : World κ} :
    admission.IsActive world ↔ (world.enter admission).1.number ∉ world.released := by
  rw [IsActive, World.isReleased_enter, ← Bool.not_eq_true, List.contains_iff_mem]

/-- A context that is made for a login is active, unless its number was released before. -/
theorem Admission.isActive_fresh {world : World κ} (hNew : world.contexts ∉ world.released)
    (identity : Identity) : (fresh identity).IsActive world :=
  isActive_iff.mpr hNew

/-! ### Logouts -/

/-- What the provider answered to a logout. -/
def Logout.answer (logout : Logout) : Except CredentialError Unit :=
  match logout.failure with
  | none => .ok ()
  | some error => .error error

namespace AuthProvider

variable (provider : AuthProvider κ) (context : AuthenticatedContext) (world : World κ)

/-- **The answer that is noted is the one that the provider gives.** -/
theorem answer_answeredLogout :
    (provider.answeredLogout context world).answer = provider.logout world context := by
  rw [answeredLogout]
  cases provider.logout world context with
  | ok done => rfl
  | error error => rfl

/-- **A logout is noted and releases its context**, whatever comes of it, and does nothing else than
that but log. -/
theorem closeContext_eq : ∃ log, provider.closeContext context world =
    { world with
      released := context.number :: world.released
      journal := world.journal ++ [.loggedOut (provider.answeredLogout context world)]
      log := log } := by
  rw [closeContext]
  cases (provider.answeredLogout context world).failure with
  | none => exact ⟨_, rfl⟩
  | some error => exact ⟨_, rfl⟩

/-- The provider is asked for one logout, and what it answers is noted. -/
theorem closeContext_journal :
    (provider.closeContext context world).journal
      = world.journal ++ [.loggedOut (provider.answeredLogout context world)] := by
  obtain ⟨log, hClosed⟩ := provider.closeContext_eq context world
  rw [hClosed]

/-- A logout hands out no context. -/
theorem closeContext_contexts :
    (provider.closeContext context world).contexts = world.contexts := by
  obtain ⟨log, hClosed⟩ := provider.closeContext_eq context world
  rw [hClosed]

/-- A logout releases its context and no other. -/
theorem closeContext_released :
    (provider.closeContext context world).released = context.number :: world.released := by
  obtain ⟨log, hClosed⟩ := provider.closeContext_eq context world
  rw [hClosed]

theorem isReleased_closeContext :
    context.isReleased (provider.closeContext context world) = true := by
  rw [AuthenticatedContext.isReleased, closeContext_released, List.contains_iff_mem]
  exact List.mem_cons_self

end AuthProvider

/-! ### Sessions -/

/-- **The ways through a session.** -/
inductive SessionRun (meanwhile : Scene κ μ → Scene κ μ → Prop) (provider : AuthProvider κ)
    (credentials : LoginCredentials)
    (action : Scene κ μ → AuthenticatedContext → Activity (Scene κ μ) (Except CredentialError α))
    (scene : Scene κ μ) :
    List (Wait (Scene κ μ)) → Scene κ μ → Option (Except CredentialError α) → Prop where
  /-- The session is dropped while it logs in. -/
  | abandoned {resumed : Scene κ μ} (hMeanwhile : meanwhile scene resumed) :
      SessionRun meanwhile provider credentials action scene
        [⟨scene, .login credentials, none, resumed⟩] resumed none
  /-- The login fails, and so does the session. -/
  | refused {resumed : Scene κ μ} {error : CredentialError}
      (hMeanwhile : meanwhile scene resumed) :
      SessionRun meanwhile provider credentials action scene
        [⟨scene, .login credentials, some (Except.error error : Except CredentialError Admission),
          resumed⟩] resumed (some (.error error))
  /-- The login succeeds. The action runs with the context of that login, and there is a logout in
  the state in which it ends or is dropped. -/
  | acted {resumed ended : Scene κ μ} {admission : Admission} {waits : List (Wait (Scene κ μ))}
      {result : Option (Except CredentialError α)} (hMeanwhile : meanwhile scene resumed)
      (hAction : Activity.Run meanwhile
        (action { resumed with world := (resumed.world.enter admission).2 }
          (resumed.world.enter admission).1) waits ended result) :
      SessionRun meanwhile provider credentials action scene
        (⟨scene, .login credentials, some (Except.ok admission : Except CredentialError Admission),
          resumed⟩ :: waits)
        (ended.mapWorld (provider.closeContext (resumed.world.enter admission).1)) result

/-- **A session goes one of these ways**, whatever happens while it waits. -/
theorem run_withAuthenticatedContext_iff {meanwhile : Scene κ μ → Scene κ μ → Prop}
    {provider : AuthProvider κ} {credentials : LoginCredentials}
    {action : Scene κ μ → AuthenticatedContext → Activity (Scene κ μ) (Except CredentialError α)}
    {scene t : Scene κ μ} {waits : List (Wait (Scene κ μ))}
    {result : Option (Except CredentialError α)} :
    Activity.Run meanwhile (withAuthenticatedContext provider credentials action scene) waits t result
      ↔ SessionRun meanwhile provider credentials action scene waits t result := by
  rw [withAuthenticatedContext, Activity.run_ask_iff]
  constructor
  · rintro ⟨resumed, hMeanwhile, ⟨rfl, rfl, rfl⟩ | ⟨answer, more, rfl, hRest⟩⟩
    · exact .abandoned hMeanwhile
    · match answer with
      | .error error =>
        obtain ⟨rfl, rfl, rfl⟩ := Activity.run_finished_iff.mp hRest
        exact .refused hMeanwhile
      | .ok admission =>
        obtain ⟨ended, hAction, hEnd⟩ := Activity.run_ensuring_iff.mp hRest
        -- the context is closed alike whether the action has ended or was dropped
        have hClosed : t = ended.mapWorld
            (provider.closeContext (resumed.world.enter admission).1) := by
          cases result <;> exact hEnd
        rw [hClosed]
        exact .acted hMeanwhile hAction
  · intro h
    cases h with
    | abandoned hMeanwhile => exact ⟨_, hMeanwhile, .inl ⟨rfl, rfl, rfl⟩⟩
    | refused hMeanwhile =>
      exact ⟨_, hMeanwhile, .inr ⟨.error _, [], rfl, Activity.run_finished_iff.mpr ⟨rfl, rfl, rfl⟩⟩⟩
    | @acted resumed ended admission waits _ hMeanwhile hAction =>
      refine ⟨_, hMeanwhile, .inr ⟨.ok admission, waits, rfl, ?_⟩⟩
      refine Activity.run_ensuring_iff.mpr ⟨ended, hAction, ?_⟩
      cases result <;> rfl

end CredentialLease
