import CredentialLease.Proofs.Lifecycle.Conduct
import CredentialLease.Proofs.Lifecycle.Runs
import CredentialLease.Proofs.Login.Exchanges

/-!
# The exchanges of a manager's calls

Issuing, renewing and a tick of the control loop each add at most one session to the journal: a
login, then at most one call of the endpoint, then the logout (`OneSession`). So a call has never
more than one login open, and it calls the endpoint only between its login and its logout.

Main statements: `ensureIssued_exchanged`, `maybeRenew_exchanged` and `tick_exchanged`. They hold of
every run, also of those that are dropped, whatever others do while the call waits.
-/

namespace CredentialLease

variable {κ : Type}

/-- **The exchanges of at most one session**, in which the endpoint is called at most once. -/
inductive OneSession : List Exchange → Prop where
  | none : OneSession []
  | uncalled (logout : Logout) : OneSession [.loggedIn logout.context, .loggedOut logout]
  | called (logout : Logout) (request : IssueRequest) :
      OneSession [.loggedIn logout.context, .called logout.context request, .loggedOut logout]

variable {manager : LifecycleManager κ} {scene t : Scene κ CredentialState}
  {meanwhile : Scene κ CredentialState → Scene κ CredentialState → Prop}
  {waits : List (Wait (Scene κ CredentialState))}

/-- Asking for a token adds at most one call of the endpoint. -/
theorem TokenAcquirer.AcquireRun.exchanged {acquirer : TokenAcquirer}
    {context : AuthenticatedContext} {result : Option (Except CredentialError AccessToken)}
    (h : acquirer.AcquireRun meanwhile scene context waits t result) :
    Exchanged scene.world waits t.world [] ∨
      ∃ request, Exchanged scene.world waits t.world [.called context request] := by
  cases h with
  | refused hReleased => exact .inl (List.append_nil _).symm
  | dropped hActive hAsked =>
    exact .inr ⟨_, [.called _ _], [], rfl, rfl, (List.append_nil _).symm⟩
  | answered answer hActive hAsked =>
    exact .inr ⟨_, [.called _ _], [], rfl, rfl, (List.append_nil _).symm⟩

namespace LifecycleManager

theorem acquire_exchanged {result : Option (Except CredentialError AccessToken)}
    (h : Activity.Run meanwhile (manager.acquire scene) waits t result) :
    ∃ exchanges, OneSession exchanges ∧ Exchanged scene.world waits t.world exchanges := by
  rcases (run_withAuthenticatedContext_iff.mp h).exchanged with
    hNone | ⟨resumed, ended, admission, rest, hAction, hExchanged⟩
  · exact ⟨[], .none, hNone⟩
  · obtain ⟨context, hContext⟩ : ∃ context, context = (resumed.world.enter admission).1 := ⟨_, rfl⟩
    rw [← hContext] at hAction hExchanged
    rcases (TokenAcquirer.run_acquire_iff.mp hAction).exchanged with hNone | ⟨request, hCalled⟩
    · exact ⟨_, .uncalled (manager.provider.answeredLogout context ended.world), hExchanged [] hNone⟩
    · exact ⟨_, .called (manager.provider.answeredLogout context ended.world) request,
        hExchanged [.called context request] hCalled⟩

theorem StoreRun.exchanged {ω : Type} {outcome : String → ω}
    {result : Option (Except CredentialError ω)}
    (h : StoreRun meanwhile manager scene outcome waits t result) :
    ∃ exchanges, OneSession exchanges ∧ Exchanged scene.world waits t.world exchanges := by
  cases h with
  | stored hAsked _ hWorld =>
    obtain ⟨exchanges, hOne, hExchanged⟩ := acquire_exchanged hAsked
    refine ⟨exchanges, hOne, ?_⟩
    rw [← List.append_nil exchanges]
    exact hExchanged.before (hWorld.journal.trans (List.append_nil _).symm)
  | failed hAsked _ hWorld =>
    rw [hWorld]
    exact acquire_exchanged hAsked
  | dropped hAsked _ hWorld =>
    rw [hWorld]
    exact acquire_exchanged hAsked

/-- **Issuing adds at most one session**, and none when the entry held a token. -/
theorem ensureIssued_exchanged {result : Option (Except CredentialError IssueOutcome)}
    (h : Activity.Run meanwhile (manager.ensureIssued scene) waits t result) :
    ∃ exchanges, OneSession exchanges ∧ Exchanged scene.world waits t.world exchanges ∧
      ∀ outcome, result = some (.ok outcome) → outcome.changedRecord = false → exchanges = [] := by
  rcases run_ensureIssued h with ⟨token, rfl, -, hWorld, rfl⟩ | ⟨start, -, hStart, hRun⟩
  · refine ⟨[], .none, ?_, fun _ _ _ => rfl⟩
    rw [hWorld]
    exact (List.append_nil _).symm
  · obtain ⟨exchanges, hOne, hExchanged⟩ := hRun.exchanged
    refine ⟨exchanges, hOne, ?_, ?_⟩
    · exact hExchanged.after (hStart.journal.trans (List.append_nil _).symm)
    · intro outcome hOutcome hChanged
      cases hRun with
      | stored =>
        obtain rfl := Except.ok.inj (Option.some.inj hOutcome)
        cases hChanged
      | failed => cases hOutcome
      | dropped => cases hOutcome

/-- **Renewing adds at most one session.** -/
theorem maybeRenew_exchanged {result : Option (Except CredentialError RenewOutcome)}
    (h : Activity.Run meanwhile (manager.maybeRenew scene) waits t result) :
    ∃ exchanges, OneSession exchanges ∧ Exchanged scene.world waits t.world exchanges := by
  rcases run_maybeRenew h with
    ⟨outcome, -, rfl, -, hWorld, rfl⟩ | ⟨start, decision, -, hStart, hRun⟩
  · refine ⟨[], .none, ?_⟩
    exact hWorld.journal.trans (List.append_nil _).symm
  · rw [← hStart]
    exact hRun.exchanged

end LifecycleManager

/-! ### Ticks -/

namespace Renewer

variable {renewer : Renewer κ CredentialState}

/-- The work of a tick adds at most one session: it renews only what it did not issue. -/
theorem work_exchanged (hIssuer : renewer.issuer = manager.issuer)
    {result : Option (Except CredentialError Unit)}
    (h : Activity.Run meanwhile (renewer.work scene) waits t result) :
    ∃ exchanges, OneSession exchanges ∧ Exchanged scene.world waits t.world exchanges := by
  rw [work, hIssuer] at h
  rcases Activity.run_andThen_iff.mp h with
    ⟨rfl, hIssue⟩ | ⟨error, rfl, hIssue⟩ | ⟨first, second, middle, outcome, rfl, hIssue, hRenew⟩
  · obtain ⟨exchanges, hOne, hExchanged, -⟩ := LifecycleManager.ensureIssued_exchanged hIssue
    exact ⟨exchanges, hOne, hExchanged⟩
  · obtain ⟨exchanges, hOne, hExchanged, -⟩ := LifecycleManager.ensureIssued_exchanged hIssue
    exact ⟨exchanges, hOne, hExchanged⟩
  · obtain ⟨exchanges, hOne, hExchanged, hNone⟩ := LifecycleManager.ensureIssued_exchanged hIssue
    split at hRenew
    · obtain ⟨rfl, rfl, rfl⟩ := Activity.run_finished_iff.mp hRenew
      rw [List.append_nil]
      exact ⟨exchanges, hOne, hExchanged⟩
    · next hChanged =>
      -- the entry held a token, so nothing was exchanged before the renewal
      obtain rfl := hNone outcome rfl (Bool.eq_false_iff.mpr hChanged)
      obtain ⟨value, hRun, rfl⟩ := Activity.run_map_iff.mp hRenew
      obtain ⟨more, hMore, hSecond⟩ := LifecycleManager.maybeRenew_exchanged hRun
      exact ⟨more, hMore, hExchanged.append hSecond⟩

/-- **A tick adds at most one session.** -/
theorem tick_exchanged (hIssuer : renewer.issuer = manager.issuer)
    {result : Option (Except Failure TickOutcome)}
    (h : Activity.Run meanwhile (renewer.tick scene) waits t result) :
    ∃ exchanges, OneSession exchanges ∧ Exchanged scene.world waits t.world exchanges := by
  rw [tick] at h
  split at h
  · obtain ⟨rfl, rfl, rfl⟩ := Activity.run_finished_iff.mp h
    exact ⟨[], .none, (List.append_nil _).symm⟩
  · next loaded _ =>
    rcases Activity.run_bind_iff.mp h with
      ⟨rfl, hWork⟩ | ⟨first, second, middle, value, rfl, hWork, hPublish⟩
    · have hDone := work_exchanged hIssuer (Activity.run_of_within hWork)
      exact hDone
    · obtain ⟨exchanges, hOne, hExchanged⟩ :=
        work_exchanged hIssuer (Activity.run_of_within hWork)
      obtain ⟨rfl, rfl, -⟩ := Activity.run_finished_iff.mp hPublish
      refine ⟨exchanges, hOne, ?_⟩
      -- saving comes last and adds nothing
      rw [List.append_nil, ← List.append_nil exchanges]
      have hSame := renewer.publish_sameExchanges loaded middle (renewer.verdict value)
      exact hExchanged.before (hSame.journal.trans (List.append_nil _).symm)

end Renewer

end CredentialLease
