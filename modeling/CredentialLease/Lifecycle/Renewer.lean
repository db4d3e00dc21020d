import CredentialLease.Lifecycle.Manager
import CredentialLease.Number.Binary64
import CredentialLease.Record.Store

/-!
# The control loop that keeps a stored credential fresh

A tick loads the record, issues a token if there is none, otherwise renews it if that is due, and
saves the record if it has changed. The work between load and save has a time limit. Whatever has
changed when the work ends is saved, also when it failed or ran out of time.

The loop ticks at once and then once every period until it is shut down, which drops a tick that
is under way. A tick that fails is logged and the next one tries again.
-/

namespace CredentialLease

variable {κ μ : Type}

/-- What issues and renews the credential in the record of a scene. -/
structure CredentialIssuer (κ μ : Type) where
  ensureIssued : Scene κ μ → Activity (Scene κ μ) (Except CredentialError IssueOutcome)
  maybeRenew : Scene κ μ → Activity (Scene κ μ) (Except CredentialError RenewOutcome)

/-- A manager as an issuer. -/
def LifecycleManager.issuer (manager : LifecycleManager κ) : CredentialIssuer κ CredentialState :=
  ⟨manager.ensureIssued, manager.maybeRenew⟩

/-- What a tick did to the stored record. -/
inductive TickOutcome where
  | unchanged
  | published
deriving DecidableEq, Inhabited

/-- A control loop. -/
structure Renewer (κ μ : Type) where
  issuer : CredentialIssuer κ μ
  store : RecordStore κ
  period : Duration
  tickTimeout : Duration

namespace Renewer

/-- The period that is used when no other is chosen. -/
def defaultPeriod : Duration := .ofSeconds 60

/-- The time limit of a tick that is used when no other is chosen. -/
def defaultTickTimeout : Duration := .ofSeconds 30

/-! ### Ticks -/

/-- Issues a token if there is none, otherwise renews it if that is due. -/
def work (renewer : Renewer κ μ) (scene : Scene κ μ) :
    Activity (Scene κ μ) (Except CredentialError Unit) :=
  (renewer.issuer.ensureIssued scene).andThen fun scene outcome =>
    if outcome.changedRecord then .finished scene (.ok ())
    else (renewer.issuer.maybeRenew scene).map fun result => result.map fun _ => ()

/-- What the work came to, which is nothing when it ran out of time. -/
def verdict (renewer : Renewer κ μ) : Option (Except CredentialError Unit) → Except Failure Unit
  | some (.ok ()) => .ok ()
  | some (.error error) => .error error
  | none =>
    .error (.other s!"credential tick timed out after {renewer.tickTimeout.secondsText}s")

/-- Saves the record if it differs from the one that was loaded. -/
def publish (renewer : Renewer κ μ) (loaded : CredentialRecord) (scene : Scene κ μ)
    (result : Except Failure Unit) : Scene κ μ × Except Failure TickOutcome :=
  if scene.record = loaded then (scene, result.map fun () => .unchanged)
  else
    match renewer.store.save scene.record scene.world.storage with
    | (.error failure, storage) =>
      (scene.mapWorld fun world => { world with storage := storage }, .error failure)
    | (.ok (), storage) =>
      (scene.mapWorld fun world =>
          { world with storage := storage }.info .renewer "credential record published" [],
        result.map fun () => .published)

/-- The time on the time line at which a tick that begins in a scene runs out of time. -/
def deadline (renewer : Renewer κ μ) (scene : Scene κ μ) : Duration :=
  ⟨scene.world.elapsed.nanos + renewer.tickTimeout.nanos⟩

/-- Loads the record, works on it and saves it if it has changed. -/
def tick (renewer : Renewer κ μ) (scene : Scene κ μ) :
    Activity (Scene κ μ) (Except Failure TickOutcome) :=
  match renewer.store.load scene.world.storage with
  | .error failure => .finished scene (.error failure)
  | .ok loaded =>
    ((renewer.work { scene with record := loaded }).within (renewer.deadline scene)).bind
      fun scene result =>
        let (scene, outcome) := renewer.publish loaded scene (renewer.verdict result)
        .finished scene outcome

/-! ### The loop -/

/-- Logs what a tick came to, which is nothing unless it failed. -/
def report (result : Except Failure TickOutcome) (world : World κ) : World κ :=
  match result with
  | .ok _ => world
  | .error (.credential error) =>
    if error.retryable then
      world.logging ⟨.warn, .renewer, "credential tick failed, retrying next period",
        some error.code, some error.message, []⟩
    else
      world.logging ⟨.error, .renewer, "credential tick failed", some error.code,
        some error.message, []⟩
  | .error failure =>
    world.warn .renewer "credential tick failed, retrying next period" failure.message []

/-- A tick whose result is logged. -/
def loggedTick (renewer : Renewer κ μ) (scene : Scene κ μ) : Activity (Scene κ μ) Unit :=
  (renewer.tick scene).bind fun scene result => .finished (scene.mapWorld (report result)) ()

/-- How late a tick may begin without moving those after it. -/
def lateness : Duration := .ofMillis 5

/-- When the next tick is due, after one that was due at `due` began at `began`. -/
def nextDue (renewer : Renewer κ μ) (due began : Duration) : Duration :=
  if due.nanos + lateness.nanos < began.nanos then ⟨began.nanos + renewer.period.nanos⟩
  else ⟨due.nanos + renewer.period.nanos⟩

/-- Ticks a number of times, first when the time line reaches `due`. -/
def runFrom (renewer : Renewer κ μ) : Nat → Duration → Scene κ μ → Activity (Scene κ μ) Unit
  | 0, _, scene => .finished scene ()
  | ticks + 1, due, scene =>
    let tickNow (scene : Scene κ μ) : Activity (Scene κ μ) Unit :=
      (renewer.loggedTick scene).bind fun after () =>
        renewer.runFrom ticks (renewer.nextDue due scene.world.elapsed) after
    if scene.world.elapsed.nanos < due.nanos then .sleepUntil scene due tickNow else tickNow scene

/-- Ticks a number of times, at once and then once every period, unless dropped before. -/
def run (renewer : Renewer κ μ) (ticks : Nat) (scene : Scene κ μ) : Activity (Scene κ μ) Unit :=
  renewer.runFrom ticks scene.world.elapsed scene

end Renewer

end CredentialLease
