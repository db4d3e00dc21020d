import CredentialLease.Activity.Execution
import CredentialLease.Login.Context

/-!
# Work as an authenticated identity

A session logs in, hands the context to an action and logs out when the action has ended, whether
it succeeded, failed or was dropped while it waited. A logout that fails is logged and changes
nothing else: the context is released all the same, and the result is that of the action. When the
login fails, the action does not run and there is nothing to log out of.
-/

namespace CredentialLease

variable {κ μ α : Type}

/-- Makes a context for an identity and hands it out. -/
def World.openContext (identity : Identity) (world : World κ) :
    AuthenticatedContext × World κ :=
  let context : AuthenticatedContext := ⟨world.contexts, identity⟩
  (context, { world.noting (.loggedIn context) with contexts := world.contexts + 1 })

/-- Hands out the context of a login that has succeeded. No context that is made later has the number
of one that was handed out. -/
def World.enter (admission : Admission) (world : World κ) : AuthenticatedContext × World κ :=
  match admission with
  | .fresh identity => world.openContext identity
  | .shared context =>
    (context, { world.noting (.loggedIn context) with
      contexts := max world.contexts (context.number + 1) })

/-- The logout of a context as the provider answers it. -/
def AuthProvider.answeredLogout (provider : AuthProvider κ) (context : AuthenticatedContext)
    (world : World κ) : Logout :=
  ⟨context, match provider.logout world context with
    | .ok () => none
    | .error error => some error⟩

/-- Logs out of a context and releases it, also for all others that have it. -/
def AuthProvider.closeContext (provider : AuthProvider κ) (context : AuthenticatedContext)
    (world : World κ) : World κ :=
  let logout := provider.answeredLogout context world
  let after := world.noting (.loggedOut logout)
  let reported := match logout.failure with
    | none => after
    | some error =>
      after.warn .login "could not complete logout" error.message
        [("principal", context.identity.principal)]
  { reported with released := context.number :: reported.released }

/-- Runs an action as the authenticated identity, between a login and a logout. -/
def withAuthenticatedContext (provider : AuthProvider κ) (credentials : LoginCredentials)
    (action : Scene κ μ → AuthenticatedContext → Activity (Scene κ μ) (Except CredentialError α))
    (scene : Scene κ μ) : Activity (Scene κ μ) (Except CredentialError α) :=
  Activity.ask scene (.login credentials) fun scene answer =>
    match answer with
    | .error error => .finished scene (.error error)
    | .ok admission =>
      let (context, world) := scene.world.enter admission
      let close : Scene κ μ → Scene κ μ := Scene.mapWorld (provider.closeContext context)
      (action { scene with world := world } context).ensuring (fun _ => close) close

end CredentialLease
