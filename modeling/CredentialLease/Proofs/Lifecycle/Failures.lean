import CredentialLease.Proofs.Lifecycle.Sessions
import CredentialLease.Proofs.Lifecycle.TickRequests
import CredentialLease.Proofs.Login.KeyFiles

/-!
# A failed call tells its cause

Errors of all kinds come up below a manager: a stored value cannot be decoded, a service replies with
something that is not a token, a context is no longer active. What issuing and renewing answer is of
two kinds only. It is an authentication error where the login has failed, or has given a context that
was released before, and a failed issuance where the one call of the endpoint has failed or has given a
token of another name (`TellsCause`). For that a provider must fail its logins with authentication
errors (`AuthProvider.FailsWithAuthentication`), as the one that reads key files does. A provider that
gives a context again after its logout makes a call fail whose login has succeeded
(`exists_authentication_after_login`).

Main statement: `failures_tell_cause`. Both kinds may be tried again, so the control loop logs no failed
tick as an error while its store works.
-/

namespace CredentialLease

variable {κ μ ω : Type}

/-! ### Logins that fail -/

/-- Whether the logins of a provider fail with authentication errors only. -/
def AuthProvider.FailsWithAuthentication (provider : AuthProvider κ) : Prop :=
  ∀ world credentials delay error,
    provider.login world credentials
      = .after delay (Except.error error : Except CredentialError Admission) →
    ∃ details, error = .authentication details

namespace KeyFile

theorem provider_failsWithAuthentication (tree : κ → FileTree) :
    (provider tree).FailsWithAuthentication := by
  intro world credentials delay error h
  injection h with _ hReply
  have hLogin : login (tree world.storage) credentials = .error error := by
    cases hGiven : login (tree world.storage) credentials with
    | ok identity =>
      rw [hGiven] at hReply
      cases hReply
    | error cause =>
      rw [hGiven] at hReply
      rw [Except.error.inj hReply]
  exact exists_details_of_login hLogin

end KeyFile

/-! ### Waits that end badly -/

namespace Wait

/-- Whether a wait ends with a login that succeeds and gives an active context. -/
def HasLoggedIn : Wait (Scene κ μ) → Prop
  | ⟨_, .login _, some (.ok admission), resumed⟩ => Admission.IsActive admission resumed.world
  | _ => False

/-- Whether a wait ends with a login that fails with an error. -/
def FailsLogin : Wait (Scene κ μ) → CredentialError → Prop
  | ⟨_, .login _, some (.error error), _⟩, cause => cause = error
  | _, _ => False

/-- Whether a wait ends with a login that succeeds and gives a released context, and what is told of
that. -/
def GivesReleased : Wait (Scene κ μ) → CredentialError → Prop
  | ⟨_, .login _, some (.ok admission), resumed⟩, cause =>
    ¬ Admission.IsActive admission resumed.world ∧
      cause = (resumed.world.enter admission).1.releasedError
  | _, _ => False

/-- Whether a wait ends with a call of the endpoint that fails, or that gives a token of another name,
and what is told of that. -/
def FailsCall : Wait (Scene κ μ) → String → Prop
  | ⟨_, .issue _ _, some (.error failure), _⟩, details => details = failure.message
  | ⟨_, .issue _ request, some (.ok token), _⟩, details => token.name ≠ request.name ∧
    details = s!"requested token {request.name} but the endpoint issued {token.name}"
  | _, _ => False

/-- **A call of the endpoint fails exactly when no token is accepted.** -/
theorem failsCall_iff {began resumed : Scene κ μ} {context : AuthenticatedContext} {request : IssueRequest}
    {answer : Except Failure AccessToken} {details : String} :
    FailsCall ⟨began, .issue context request, some answer, resumed⟩ details ↔
      TokenAcquirer.accept request answer = .error (.issuance details) := by
  cases answer with
  | error failure =>
    constructor
    · rintro rfl
      rfl
    · intro h
      exact (CredentialError.issuance.inj (Except.error.inj h)).symm
  | ok token =>
    rw [TokenAcquirer.accept]
    constructor
    · rintro ⟨hName, rfl⟩
      rw [if_neg hName]
    · intro h
      split at h
      · cases h
      · next hName => exact ⟨hName, (CredentialError.issuance.inj (Except.error.inj h)).symm⟩

end Wait

/-! ### Causes -/

/-- **Whether a call tells why it fails**, which it does in these waits and with this result. -/
structure TellsCause (waits : List (Wait (Scene κ μ))) (result : Option (Except CredentialError ω)) :
    Prop where
  /-- It answers an authentication error exactly when the login has failed, namely with that error, or
  has given a released context. -/
  authentication_iff : ∀ error,
    (∃ details, error = .authentication details) ∧ result = some (.error error) ↔
      ∃ wait ∈ waits, wait.FailsLogin error ∨ wait.GivesReleased error
  /-- Then the endpoint is not called. -/
  uncalled : ∀ wait ∈ waits, ∀ error, wait.FailsLogin error ∨ wait.GivesReleased error →
    waits.countP (fun wait => wait.request.isIssue) = 0
  /-- It answers a failed issuance exactly when the login has succeeded with an active context and the
  call has failed. -/
  issuance_iff : ∀ details, result = some (.error (.issuance details)) ↔
    (∃ wait ∈ waits, wait.HasLoggedIn) ∧ ∃ wait ∈ waits, wait.FailsCall details
  /-- There is no other call then. -/
  called_once : ∀ wait ∈ waits, ∀ details, wait.FailsCall details →
    waits.countP (fun wait => wait.request.isIssue) = 1
  /-- It answers no other error. -/
  kinds : ∀ error, result = some (.error error) →
    (∃ details, error = .authentication details) ∨ ∃ details, error = .issuance details

namespace TellsCause

variable {waits : List (Wait (Scene κ μ))} {result : Option (Except CredentialError ω)}

/-- **A call whose cause is told may be tried again.** -/
theorem retryable (h : TellsCause waits result) {error : CredentialError}
    (hResult : result = some (.error error)) : error.retryable = true := by
  obtain ⟨details, rfl⟩ | ⟨details, rfl⟩ := h.kinds error hResult
  · rfl
  · rfl

/-- Only the errors of a call have causes. -/
theorem congr {ω' : Type} {result' : Option (Except CredentialError ω')}
    (h : TellsCause waits result)
    (hSame : ∀ error, result' = some (.error error) ↔ result = some (.error error)) :
    TellsCause waits result' where
  authentication_iff := fun error => by
    rw [hSame]
    exact h.authentication_iff error
  uncalled := h.uncalled
  issuance_iff := fun details => by
    rw [hSame]
    exact h.issuance_iff details
  called_once := h.called_once
  kinds := fun error hResult => h.kinds error ((hSame error).mp hResult)

/-- A call in which nothing fails has nothing to tell. -/
theorem of_quiet (hResult : ∀ error, result ≠ some (.error error))
    (hWaits : ∀ wait ∈ waits, (∀ error, ¬ (wait.FailsLogin error ∨ wait.GivesReleased error)) ∧
      ∀ details, ¬ wait.FailsCall details) :
    TellsCause waits result where
  authentication_iff := by
    intro error
    constructor
    · rintro ⟨-, hFailed⟩
      exact absurd hFailed (hResult error)
    · rintro ⟨wait, hWait, hFails⟩
      exact absurd hFails ((hWaits wait hWait).1 error)
  uncalled := fun wait hWait error hFails => absurd hFails ((hWaits wait hWait).1 error)
  issuance_iff := by
    intro details
    constructor
    · intro hFailed
      exact absurd hFailed (hResult _)
    · rintro ⟨-, wait, hWait, hFails⟩
      exact absurd hFails ((hWaits wait hWait).2 details)
  called_once := fun wait hWait details hFails => absurd hFails ((hWaits wait hWait).2 details)
  kinds := fun error hFailed => absurd hFailed (hResult error)

/-- A call whose login gives no active context. -/
theorem of_login {began resumed : Scene κ μ} {credentials : LoginCredentials}
    {answer : Except CredentialError Admission} {details : String}
    (hCause : ∀ error, let wait : Wait (Scene κ μ) := ⟨began, .login credentials, some answer, resumed⟩
      wait.FailsLogin error ∨ wait.GivesReleased error ↔ error = .authentication details) :
    TellsCause [⟨began, .login credentials, some answer, resumed⟩]
      (some (.error (.authentication details)) : Option (Except CredentialError ω)) where
  authentication_iff := by
    intro error
    simp only [List.mem_singleton, exists_eq_left, Option.some.injEq, Except.error.injEq, hCause]
    constructor
    · rintro ⟨-, rfl⟩
      rfl
    · rintro rfl
      exact ⟨⟨details, rfl⟩, rfl⟩
  uncalled := fun _ _ _ _ => rfl
  issuance_iff := by
    intro other
    simp [Wait.FailsCall]
  called_once := by
    intro wait hWait other hFails
    obtain rfl := List.mem_singleton.mp hWait
    exact hFails.elim
  kinds := by
    intro error hResult
    obtain rfl := Except.error.inj (Option.some.inj hResult)
    exact .inl ⟨details, rfl⟩

/-- A call whose login fails. -/
theorem of_failsLogin (began resumed : Scene κ μ) (credentials : LoginCredentials) (details : String) :
    TellsCause [⟨began, .login credentials,
        some (Except.error (.authentication details) : Except CredentialError Admission), resumed⟩]
      (some (.error (.authentication details)) : Option (Except CredentialError ω)) :=
  of_login fun error => by simp [Wait.FailsLogin, Wait.GivesReleased]

/-- A call whose login gives a released context. -/
theorem of_givesReleased (began resumed : Scene κ μ) (credentials : LoginCredentials)
    {admission : Admission} (hReleased : ¬ admission.IsActive resumed.world) :
    TellsCause [⟨began, .login credentials,
        some (Except.ok admission : Except CredentialError Admission), resumed⟩]
      (some (.error (resumed.world.enter admission).1.releasedError) :
        Option (Except CredentialError ω)) :=
  of_login fun error => by
    simp [Wait.FailsLogin, Wait.GivesReleased, hReleased, AuthenticatedContext.releasedError]

/-- A call whose login succeeds and whose call of the endpoint fails. -/
theorem of_failsCall (began resumed calling called : Scene κ μ) (credentials : LoginCredentials)
    {admission : Admission} (hActive : admission.IsActive resumed.world)
    (context : AuthenticatedContext) (request : IssueRequest)
    (answer : Except Failure AccessToken) {details : String}
    (hAccept : TokenAcquirer.accept request answer = .error (.issuance details)) :
    TellsCause [⟨began, .login credentials,
        some (Except.ok admission : Except CredentialError Admission), resumed⟩,
        ⟨calling, .issue context request, some answer, called⟩]
      (some (.error (.issuance details)) : Option (Except CredentialError ω)) where
  authentication_iff := by
    intro error
    simp only [List.mem_cons, List.not_mem_nil, or_false, exists_eq_or_imp, exists_eq_left,
      Wait.FailsLogin, Wait.GivesReleased, hActive, not_true_eq_false, false_and, or_self, iff_false]
    rintro ⟨⟨other, rfl⟩, hResult⟩
    cases hResult
  uncalled := by
    intro wait hWait error hFails
    simp only [List.mem_cons, List.not_mem_nil, or_false] at hWait
    obtain rfl | rfl := hWait
    · exact hFails.elim False.elim fun hGiven => absurd hActive hGiven.1
    · exact hFails.elim False.elim False.elim
  issuance_iff := by
    intro other
    simp only [List.mem_cons, List.not_mem_nil, or_false, exists_eq_or_imp, exists_eq_left,
      Wait.HasLoggedIn, hActive, true_and, Wait.failsCall_iff, hAccept]
    simp [Wait.FailsCall]
  called_once := fun _ _ _ _ => rfl
  kinds := by
    intro error hResult
    obtain rfl := Except.error.inj (Option.some.inj hResult)
    exact .inr ⟨details, rfl⟩

end TellsCause

/-! ### Asking for a token -/

namespace LifecycleManager

variable {manager : LifecycleManager κ} {scene t : Scene κ CredentialState}
  {meanwhile : Scene κ CredentialState → Scene κ CredentialState → Prop}
  {waits : List (Wait (Scene κ CredentialState))} {endpoint : TokenEndpoint κ}

/-- **Asking for a token tells its cause.** -/
theorem tellsCause_acquire (hProvider : manager.provider.FailsWithAuthentication)
    {result : Option (Except CredentialError AccessToken)}
    (h : Activity.Run meanwhile (manager.acquire scene) waits t result)
    (hAnswered : ∀ wait ∈ waits, wait.AnsweredBy (Host.of manager.provider endpoint)) :
    TellsCause waits result := by
  cases run_withAuthenticatedContext_iff.mp h with
  | abandoned =>
    refine .of_quiet (fun _ hNone => by cases hNone) ?_
    exact List.forall_mem_singleton.mpr ⟨fun _ => or_self_iff.mp, fun _ => id⟩
  | @refused resumed error =>
    obtain ⟨delay, hReply⟩ := hAnswered _ List.mem_cons_self _ rfl
    obtain ⟨details, rfl⟩ := hProvider _ _ delay error hReply
    exact .of_failsLogin _ _ _ details
  | @acted resumed _ admission _ _ hMeanwhile hAction =>
    have hQuiet (hActive : admission.IsActive resumed.world) (error : CredentialError) :
        ¬ (False ∨ ¬ admission.IsActive resumed.world ∧
          error = (resumed.world.enter admission).1.releasedError) :=
      fun hGives => hGives.elim id fun hGiven => hGiven.1 hActive
    cases TokenAcquirer.run_acquire_iff.mp hAction with
    | refused hReleased =>
      refine .of_givesReleased _ _ _ ?_
      rw [Admission.IsActive, hReleased]
      exact Bool.true_eq_false_eq_False
    | dropped hActive =>
      refine .of_quiet (fun _ hNone => by cases hNone)
        (List.forall_mem_cons.mpr ⟨⟨hQuiet hActive, fun _ => id⟩, ?_⟩)
      exact List.forall_mem_singleton.mpr ⟨fun _ => or_self_iff.mp, fun _ => id⟩
    | answered answer hActive =>
      cases hAccept : TokenAcquirer.accept _ answer with
      | error error =>
        obtain ⟨details, rfl⟩ := TokenAcquirer.exists_details_of_accept hAccept
        exact .of_failsCall _ _ _ _ _ hActive _ _ _ hAccept
      | ok token =>
        refine .of_quiet (fun _ hFailed => by cases hFailed)
          (List.forall_mem_cons.mpr ⟨⟨hQuiet hActive, fun _ => id⟩, ?_⟩)
        refine List.forall_mem_singleton.mpr ⟨fun _ => or_self_iff.mp, fun details hFails => ?_⟩
        rw [Wait.failsCall_iff, hAccept] at hFails
        cases hFails

/-- Storing a token that was obtained does not fail. -/
theorem StoreRun.tellsCause {outcome : String → ω}
    (hProvider : manager.provider.FailsWithAuthentication)
    {result : Option (Except CredentialError ω)}
    (h : StoreRun meanwhile manager scene outcome waits t result)
    (hAnswered : ∀ wait ∈ waits, wait.AnsweredBy (Host.of manager.provider endpoint)) :
    TellsCause waits result := by
  cases h with
  | stored hAsked =>
    refine (tellsCause_acquire hProvider hAsked hAnswered).congr fun error => ?_
    exact ⟨nofun, nofun⟩
  | failed hAsked =>
    refine (tellsCause_acquire hProvider hAsked hAnswered).congr fun error => ?_
    rw [Option.some.injEq, Option.some.injEq, Except.error.injEq, Except.error.injEq]
  | dropped hAsked =>
    refine (tellsCause_acquire hProvider hAsked hAnswered).congr fun error => ?_
    exact ⟨nofun, nofun⟩

/-! ### Issuing and renewing -/

theorem tellsCause_ensureIssued (hProvider : manager.provider.FailsWithAuthentication)
    {result : Option (Except CredentialError IssueOutcome)}
    (h : Activity.Run meanwhile (manager.ensureIssued scene) waits t result)
    (hAnswered : ∀ wait ∈ waits, wait.AnsweredBy (Host.of manager.provider endpoint)) :
    TellsCause waits result := by
  obtain ⟨token, rfl, -, -, rfl⟩ | ⟨start, -, -, hRun⟩ := run_ensureIssued h
  · exact .of_quiet nofun (List.forall_mem_nil _)
  · exact hRun.tellsCause hProvider hAnswered

theorem tellsCause_maybeRenew (hProvider : manager.provider.FailsWithAuthentication)
    {result : Option (Except CredentialError RenewOutcome)}
    (h : Activity.Run meanwhile (manager.maybeRenew scene) waits t result)
    (hAnswered : ∀ wait ∈ waits, wait.AnsweredBy (Host.of manager.provider endpoint)) :
    TellsCause waits result := by
  obtain ⟨outcome, -, rfl, -, -, rfl⟩ | ⟨start, decision, -, -, hRun⟩ := run_maybeRenew h
  · exact .of_quiet nofun (List.forall_mem_nil _)
  · exact hRun.tellsCause hProvider hAnswered

end LifecycleManager

/-! ### Ticks -/

namespace Renewer

variable {renewer : Renewer κ CredentialState} {manager : LifecycleManager κ}
  {meanwhile : Scene κ CredentialState → Scene κ CredentialState → Prop}
  {scene t : Scene κ CredentialState} {waits : List (Wait (Scene κ CredentialState))}
  {endpoint : TokenEndpoint κ}

/-- The work of a tick tells its cause: it renews only where issuing has not waited for anyone. -/
theorem WorkRun.tellsCause (hIssuer : renewer.issuer = manager.issuer)
    (hProvider : manager.provider.FailsWithAuthentication)
    {came : Option (Except CredentialError Unit)}
    (h : WorkRun meanwhile renewer scene waits t came)
    (hAnswered : ∀ wait ∈ waits, wait.AnsweredBy (Host.of manager.provider endpoint)) :
    TellsCause waits came := by
  have hIssuing {waits : List (Wait (Scene κ CredentialState))} {t : Scene κ CredentialState}
      {result : Option (Except CredentialError IssueOutcome)}
      (hIssued : Activity.Run meanwhile (renewer.issuer.ensureIssued scene) waits t result)
      (hAnswered : ∀ wait ∈ waits, wait.AnsweredBy (Host.of manager.provider endpoint)) :
      TellsCause waits result := by
    rw [hIssuer] at hIssued
    exact LifecycleManager.tellsCause_ensureIssued hProvider hIssued hAnswered
  cases h with
  | abandoned hIssued => exact (hIssuing hIssued hAnswered).congr fun error => ⟨nofun, nofun⟩
  | failed hIssued =>
    refine (hIssuing hIssued hAnswered).congr fun error => ?_
    rw [Option.some.injEq, Option.some.injEq, Except.error.injEq, Except.error.injEq]
  | issued hIssued hChanged =>
    exact (hIssuing hIssued hAnswered).congr fun error => ⟨nofun, nofun⟩
  | @renewed first second middle _ outcome result hIssued hKept hRenewed =>
    rw [hIssuer] at hIssued hRenewed
    obtain ⟨token, rfl, -, -, -⟩ | ⟨start, -, -, hRun⟩ :=
      LifecycleManager.run_ensureIssued hIssued
    · refine (LifecycleManager.tellsCause_maybeRenew hProvider hRenewed hAnswered).congr fun error => ?_
      -- what a renewal came to is forgotten, but not its error
      match result with
      | none => exact ⟨nofun, nofun⟩
      | some (.ok outcome) => exact ⟨nofun, nofun⟩
      | some (.error cause) =>
        rw [Option.some.injEq, Option.map_some, Option.some.injEq, Except.map, Except.error.injEq,
          Except.error.injEq]
    · cases hRun
      cases hKept

/-- Whether the store of a tick works: it loads a record at the start of the tick, and saves the one
at its end if that is another. -/
def StoreWorks (renewer : Renewer κ CredentialState) (scene : Scene κ CredentialState)
    (waits : List (Wait (Scene κ CredentialState))) (t : Scene κ CredentialState) : Prop :=
  ∃ loaded, renewer.store.load scene.world.storage = .ok loaded ∧
    (t.record ≠ loaded →
      (renewer.store.save t.record (Activity.wentOn scene waits).world.storage).1 = .ok ())

/-- **Why a tick fails whose store works**: its work has, or has run out of time. -/
theorem failure_of_tick (hIssuer : renewer.issuer = manager.issuer)
    (hProvider : manager.provider.FailsWithAuthentication)
    (hStore : renewer.StoreWorks scene waits t) {failure : Failure}
    (h : Activity.Run meanwhile (renewer.tick scene) waits t (some (.error failure)))
    (hAnswered : ∀ wait ∈ waits, wait.AnsweredBy (Host.of manager.provider endpoint)) :
    (∃ error, failure = .credential error ∧
      TellsCause waits (some (.error error) : Option (Except CredentialError Unit))) ∨
    failure = .other s!"credential tick timed out after {renewer.tickTimeout.secondsText}s" := by
  obtain ⟨loaded, hLoad, hSave⟩ := hStore
  obtain ⟨hNone, -⟩ | ⟨ended, came, answer, hAnswer, hWork, hPublishes⟩ := run_tick hLoad h
  · cases hNone
  obtain rfl := Option.some.inj hAnswer
  -- nobody but others has changed the storage before the save
  have hStorage : ended.world.storage = (Activity.wentOn scene waits).world.storage := by
    have hAlone : Activity.Untouched Scene.surroundings scene waits ended :=
      (leavesAlone_work hIssuer (run_work_iff.mpr hWork)).of_eq rfl
    exact congrArg (fun surroundings => surroundings.2.2) hAlone.eq_wentOn
  rw [hPublishes.record, ← hStorage] at hSave
  have hCause := hWork.tellsCause hIssuer hProvider hAnswered
  match came with
  | none => exact .inr (Except.error.inj (hPublishes.timedOut rfl hSave))
  | some (.error error) =>
    exact .inl ⟨error, Except.error.inj (hPublishes.failed error rfl hSave), hCause⟩
  | some (.ok ()) =>
    by_cases hSame : ended.record = loaded
    · cases hPublishes.unchanged_iff.mpr ⟨rfl, hSame⟩
    · cases hPublishes.published_iff.mpr ⟨rfl, hSame, hSave hSame⟩

/-- **What the log tells of a tick that has ended in a scene**: nothing if it has succeeded, and one
warning if it has failed. -/
inductive Warns (ended : Scene κ CredentialState) :
    Except Failure TickOutcome → Scene κ CredentialState → Prop where
  | quiet (outcome : TickOutcome) : Warns ended (.ok outcome) ended
  | warned {failure : Failure} {line : LogLine} (hLevel : line.level = .warn)
      (hSource : line.source = .renewer)
      (hMessage : line.message = "credential tick failed, retrying next period")
      (hError : line.error = some failure.message) :
      Warns ended (.error failure) (ended.mapWorld (World.logging line))

/-- A failure is logged as a warning if it may be tried again or is none of a credential. -/
theorem warns_report {answer : Except Failure TickOutcome} (ended : Scene κ CredentialState)
    (hAnswer : ∀ error, answer = .error (.credential error) → error.retryable = true) :
    Warns ended answer (ended.mapWorld (report answer)) := by
  match answer with
  | .ok outcome => exact .quiet outcome
  | .error (.credential error) =>
    have hReport : report (κ := κ) (.error (.credential error)) = World.logging ⟨.warn, .renewer,
        "credential tick failed, retrying next period", some error.code, some error.message, []⟩ := by
      funext world
      rw [report, if_pos (hAnswer error rfl)]
    rw [hReport]
    exact .warned rfl rfl rfl rfl
  | .error (.file error) => exact .warned rfl rfl rfl rfl
  | .error (.transport error) => exact .warned rfl rfl rfl rfl
  | .error (.other message) => exact .warned rfl rfl rfl rfl

/-- **A failed tick is logged as a warning** if its store works. -/
theorem warns_of_tick (hIssuer : renewer.issuer = manager.issuer)
    (hProvider : manager.provider.FailsWithAuthentication)
    (hStore : renewer.StoreWorks scene waits t) {answer : Except Failure TickOutcome}
    (h : Activity.Run meanwhile (renewer.tick scene) waits t (some answer))
    (hAnswered : ∀ wait ∈ waits, wait.AnsweredBy (Host.of manager.provider endpoint)) :
    Warns t answer (t.mapWorld (report answer)) := by
  refine warns_report t fun error hError => ?_
  rw [hError] at h
  obtain ⟨cause, hCause, hTells⟩ | hTimedOut :=
    failure_of_tick hIssuer hProvider hStore h hAnswered
  · obtain rfl := Failure.credential.inj hCause
    exact hTells.retryable rfl
  · cases hTimedOut

/-- **Whatever fails in a call is told by its kind**, for every record, clock and endpoint, and every
provider whose logins fail with authentication errors, as those from key files do. Issuing and renewing
answer an authentication error exactly when the login has failed or has given a released context, and do
not call the endpoint then; they answer a failed issuance exactly when the login has given an active
context and their one call of the endpoint has failed or has given a token of another name; and they
answer no other error, so that every failure may be tried again. A tick that fails though its store
works is logged as a warning. -/
theorem failures_tell_cause (hProvider : manager.provider.FailsWithAuthentication)
    (hAnswered : ∀ wait ∈ waits, wait.AnsweredBy (Host.of manager.provider endpoint)) :
    (∀ result, Activity.Run meanwhile (manager.ensureIssued scene) waits t result →
      TellsCause waits result ∧ ∀ error, result = some (.error error) → error.retryable = true) ∧
    (∀ result, Activity.Run meanwhile (manager.maybeRenew scene) waits t result →
      TellsCause waits result ∧ ∀ error, result = some (.error error) → error.retryable = true) ∧
    (∀ renewer : Renewer κ CredentialState, renewer.issuer = manager.issuer →
      renewer.StoreWorks scene waits t →
      ∀ answer, Activity.Run meanwhile (renewer.tick scene) waits t (some answer) →
        Warns t answer (t.mapWorld (report answer))) ∧
    ∀ tree : κ → FileTree, (KeyFile.provider tree).FailsWithAuthentication := by
  refine ⟨fun result h => ?_, fun result h => ?_, fun renewer hIssuer hStore answer h => ?_,
    KeyFile.provider_failsWithAuthentication⟩
  · have hTells := LifecycleManager.tellsCause_ensureIssued hProvider h hAnswered
    exact ⟨hTells, fun error => hTells.retryable⟩
  · have hTells := LifecycleManager.tellsCause_maybeRenew hProvider h hAnswered
    exact ⟨hTells, fun error => hTells.retryable⟩
  · exact warns_of_tick hIssuer hProvider hStore h hAnswered

/-- What ends with a value under a host is a run, and the host gives the answers in it. -/
theorem exists_run_of_ending {α : Type} {host : Host κ} {activity : Activity (Scene κ μ) α}
    {value : α} (h : (activity.execute host none).ending = .finished value) :
    ∃ waits t, Activity.Run Scene.Lasts activity waits t (some value) ∧
      ∀ wait ∈ waits, wait.AnsweredBy host := by
  obtain hStuck | ⟨waits, hRun, hAnswered, -⟩ :=
    Activity.exists_answered_run_of_execute host none activity
  · cases hStuck.symm.trans h
  · rw [h] at hRun
    exact ⟨waits, _, hRun, hAnswered⟩

/-- A stored value that is not a token, and an endpoint that gives none: both are malformed, and the
call answers a failed issuance. Where the login fails, the tick is logged as a warning. -/
theorem failures_tell_cause_malformed :
    ∃ (granting refusing : LifecycleManager CredentialRecord)
      (renewer : Renewer CredentialRecord CredentialState)
      (scene ended t : Scene CredentialRecord CredentialState)
      (waits others : List (Wait (Scene CredentialRecord CredentialState))) (line : LogLine),
      (∃ cause, AccessToken.decodeStored (scene.record.get granting.key)
        = .error (.malformedToken cause)) ∧
      Activity.Run Scene.Lasts (granting.ensureIssued scene) waits ended
        (some (.error (.issuance "malformed token: no secret"))) ∧
      (∃ wait ∈ waits, wait.FailsCall "malformed token: no secret") ∧
      waits.countP (fun wait => wait.request.isIssue) = 1 ∧
      renewer.issuer = refusing.issuer ∧
      Activity.Run Scene.Lasts (renewer.tick scene) others t
        (some (.error (.credential (.authentication "unknown principal")))) ∧
      line.level = .warn ∧
      t.mapWorld (report (.error (.credential (.authentication "unknown principal"))))
        = t.mapWorld (World.logging line) := by
  obtain ⟨granting, hGranting⟩ : ∃ granting : LifecycleManager CredentialRecord,
      granting = ⟨⟨none, none, .invalid, "key", "lease-", none⟩, default,
        ⟨fun _ _ => .now (.ok (.fresh default)), fun _ _ => .ok ()⟩⟩ := ⟨_, rfl⟩
  obtain ⟨refusing, hRefusing⟩ : ∃ refusing : LifecycleManager CredentialRecord,
      refusing = ⟨granting.settings, default,
        ⟨fun _ _ => .now (.error (.authentication "unknown principal")), fun _ _ => .ok ()⟩⟩ :=
    ⟨_, rfl⟩
  obtain ⟨endpoint, hEndpoint⟩ : ∃ endpoint : TokenEndpoint CredentialRecord,
      endpoint = ⟨fun _ _ _ => .now (.error (.credential (.malformedToken "no secret")))⟩ :=
    ⟨_, rfl⟩
  obtain ⟨renewer, hRenewer⟩ : ∃ renewer : Renewer CredentialRecord CredentialState,
      renewer = ⟨refusing.issuer, .memory, defaultPeriod, defaultTickTimeout⟩ := ⟨_, rfl⟩
  obtain ⟨scene, hScene⟩ : ∃ scene : Scene CredentialRecord CredentialState,
      scene = ⟨.start ⟨0⟩ .empty fun _ => "1", CredentialRecord.empty.put "key" "!", .unissued⟩ :=
    ⟨_, rfl⟩
  have hMalformed : ∃ cause, AccessToken.decodeStored (scene.record.get granting.key)
      = .error (.malformedToken cause) := by
    rw [hScene, hGranting]
    exact ⟨_, rfl⟩
  -- the provider grants every login, and the endpoint fails
  obtain ⟨waits, ended, hIssuing, hGiven⟩ : ∃ waits ended,
      Activity.Run Scene.Lasts (granting.ensureIssued scene) waits ended
        (some (.error (.issuance "malformed token: no secret"))) ∧
      ∀ wait ∈ waits, wait.AnsweredBy (Host.of granting.provider endpoint) := by
    refine exists_run_of_ending ?_
    rw [hScene, hGranting, hEndpoint]
    rfl
  have hGrants : granting.provider.FailsWithAuthentication := by
    rw [hGranting]
    rintro world credentials delay error ⟨⟩
  obtain ⟨hTells, -⟩ := (failures_tell_cause hGrants hGiven).1 _ hIssuing
  obtain ⟨-, call, hCall, hFails⟩ := (hTells.issuance_iff _).mp rfl
  -- the provider refuses every login
  obtain ⟨others, t, hTick, hRefused⟩ : ∃ others t,
      Activity.Run Scene.Lasts (renewer.tick scene) others t
        (some (.error (.credential (.authentication "unknown principal")))) ∧
      ∀ wait ∈ others, wait.AnsweredBy (Host.of refusing.provider endpoint) := by
    refine exists_run_of_ending ?_
    rw [hScene, hRenewer, hRefusing]
    rfl
  have hRefuses : refusing.provider.FailsWithAuthentication := by
    rw [hRefusing]
    rintro world credentials delay error hReply
    injection hReply with _ hLogin
    exact ⟨_, (Except.error.inj hLogin).symm⟩
  have hIssuer : renewer.issuer = refusing.issuer := by rw [hRenewer]
  have hWorks : renewer.StoreWorks scene others t := by
    rw [hRenewer]
    exact ⟨_, rfl, fun _ => rfl⟩
  have hWarns := (failures_tell_cause hRefuses hRefused).2.2.1 renewer hIssuer hWorks _
    hTick
  generalize hLogged : t.mapWorld (report _) = logged at hWarns
  cases hWarns with
  | @warned _ line hLevel =>
    exact ⟨granting, refusing, renewer, scene, ended, t, waits, others, line, hMalformed, hIssuing,
      ⟨call, hCall, hFails⟩, hTells.called_once call hCall _ hFails, hIssuer, hTick, hLevel, hLogged⟩

/-- **A login that succeeds can come before an authentication error.** The provider gives the context
of the first call again, which has been released in the meantime, so the second call fails and does not
call the endpoint. -/
theorem exists_authentication_after_login :
    ∃ (manager : LifecycleManager Unit) (endpoint : TokenEndpoint Unit)
      (scene : Scene Unit CredentialState) (context : AuthenticatedContext),
      manager.provider.FailsWithAuthentication ∧
      let first := (manager.ensureIssued scene).execute (.of manager.provider endpoint) none
      let second := (manager.ensureIssued first.scene).execute (.of manager.provider endpoint) none
      manager.provider.login first.scene.world manager.credentials
        = .now (.ok (.shared context)) ∧
      second.ending = .finished (.error context.releasedError) ∧
      (∃ details, context.releasedError = .authentication details) ∧
      second.requests.countP (fun wait => wait.2.isIssue) = 0 := by
  refine ⟨⟨⟨none, none, .invalid, "key", "lease-", none⟩, default,
      ⟨fun _ _ => .now (.ok (.shared ⟨0, default⟩)), fun _ _ => .ok ()⟩⟩,
    ⟨fun _ _ _ => .now (.error (.other "no token"))⟩,
    ⟨.start ⟨0⟩ () fun _ => "1", .empty, .unissued⟩, ⟨0, default⟩, ?_, rfl, rfl, ⟨_, rfl⟩, rfl⟩
  rintro world credentials delay error ⟨⟩

end Renewer

end CredentialLease
