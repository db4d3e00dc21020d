import CredentialLease.Lifecycle.Renewer
import CredentialLease.Proofs.Issuance.Acquirer

/-!
# The ways through a manager's calls

Issuing and renewing either end without asking for a token, or ask for one and store it.
`TrackedRun` lists the ways on which a token is asked for, with the scenes in which they end, and
`ensureIssued_cases` and `maybeRenew_cases` give all ways through the two calls. `StoreRun` tells less
of these ways, namely what they do to the record and to the exchanges. The record is changed on one of
them only, in one step after everything else has been done.

Main statements: `run_ensureIssued` and `run_maybeRenew`, which say all that a call can do to the
record and to the exchanges.
-/

namespace CredentialLease

variable {κ ω : Type}

namespace LifecycleManager

variable {manager : LifecycleManager κ} {scene start t : Scene κ CredentialState}
  {meanwhile : Scene κ CredentialState → Scene κ CredentialState → Prop}
  {waits : List (Wait (Scene κ CredentialState))}
  {settled : Scene κ CredentialState → Scene κ CredentialState} {outcome : String → ω}

/-- Whether the entry of a manager in a record holds a token. -/
def Holds (manager : LifecycleManager κ) (record : CredentialRecord) (token : AccessToken) : Prop :=
  AccessToken.decodeStored (record.get manager.key) = .ok (some token)

/-- Only one token is in an entry. -/
theorem Holds.unique {record : CredentialRecord} {token other : AccessToken}
    (h : manager.Holds record token) (hOther : manager.Holds record other) : token = other :=
  Option.some.inj (Except.ok.inj (Eq.trans (Eq.symm h) hOther))

/-! ### Asking for a token -/

/-- **Asking for a token leaves the record and the memory of the scene alone** at every moment, as far
as others do. -/
theorem run_acquire_view {β : Type} (view : CredentialRecord → CredentialState → β)
    {result : Option (Except CredentialError AccessToken)}
    (h : Activity.Run
      (fun before after => view after.record after.memory = view before.record before.memory)
      (manager.acquire scene) waits t result) :
    view t.record t.memory = view scene.record scene.memory ∧
    ∀ wait ∈ waits,
      view wait.began.record wait.began.memory = view scene.record scene.memory ∧
      view wait.resumed.record wait.resumed.memory = view scene.record scene.memory := by
  cases run_withAuthenticatedContext_iff.mp h with
  | abandoned hMeanwhile =>
    refine ⟨hMeanwhile, ?_⟩
    rw [List.forall_mem_singleton]
    exact ⟨rfl, hMeanwhile⟩
  | refused hMeanwhile =>
    refine ⟨hMeanwhile, ?_⟩
    rw [List.forall_mem_singleton]
    exact ⟨rfl, hMeanwhile⟩
  | acted hMeanwhile hAction =>
    cases TokenAcquirer.run_acquire_iff.mp hAction with
    | refused hReleased =>
      refine ⟨hMeanwhile, ?_⟩
      rw [List.forall_mem_singleton]
      exact ⟨rfl, hMeanwhile⟩
    | dropped hActive hAsked =>
      refine ⟨hAsked.trans hMeanwhile, ?_⟩
      rw [List.forall_mem_cons, List.forall_mem_singleton]
      exact ⟨⟨rfl, hMeanwhile⟩, hMeanwhile, hAsked.trans hMeanwhile⟩
    | answered answer hActive hAsked =>
      refine ⟨hAsked.trans hMeanwhile, ?_⟩
      rw [List.forall_mem_cons, List.forall_mem_singleton]
      exact ⟨⟨rfl, hMeanwhile⟩, hMeanwhile, hAsked.trans hMeanwhile⟩

/-- **The ways on which a token is asked for**, and the scenes in which they end. A token that is
obtained is stored; otherwise the scene is settled. -/
inductive TrackedRun (meanwhile : Scene κ CredentialState → Scene κ CredentialState → Prop)
    (manager : LifecycleManager κ) (start : Scene κ CredentialState)
    (settled : Scene κ CredentialState → Scene κ CredentialState) (outcome : String → ω) :
    List (Wait (Scene κ CredentialState)) → Scene κ CredentialState →
      Option (Except CredentialError ω) → Prop where
  | stored {waits : List (Wait (Scene κ CredentialState))} {asked : Scene κ CredentialState}
      {token : AccessToken} (message : String) (more : List (String × String))
      (hAsked : Activity.Run meanwhile (manager.acquire start) waits asked (some (.ok token))) :
      TrackedRun meanwhile manager start settled outcome waits
        (manager.store message more token asked) (some (.ok (outcome token.name)))
  | failed {waits : List (Wait (Scene κ CredentialState))} {asked : Scene κ CredentialState}
      {error : CredentialError}
      (hAsked : Activity.Run meanwhile (manager.acquire start) waits asked (some (.error error))) :
      TrackedRun meanwhile manager start settled outcome waits (settled asked)
        (some (.error error))
  | dropped {waits : List (Wait (Scene κ CredentialState))} {asked : Scene κ CredentialState}
      (hAsked : Activity.Run meanwhile (manager.acquire start) waits asked none) :
      TrackedRun meanwhile manager start settled outcome waits (settled asked) none

/-- What asks for a token, settles the scene unless it is given one, and stores it goes one of these
ways. -/
theorem run_andThen_tracked {message : String} {more : List (String × String)}
    {result : Option (Except CredentialError ω)}
    {acquired : Activity (Scene κ CredentialState) (Except CredentialError AccessToken)}
    (hAcquired : ∀ {waits u came}, Activity.Run meanwhile acquired waits u came →
      ∃ asked, Activity.Run meanwhile (manager.acquire start) waits asked came ∧
        u = match came with
          | some (.ok _) => asked
          | _ => settled asked)
    (h : Activity.Run meanwhile (acquired.andThen fun scene token =>
      .finished (manager.store message more token scene) (.ok (outcome token.name)))
      waits t result) :
    TrackedRun meanwhile manager start settled outcome waits t result := by
  rcases Activity.run_andThen_iff.mp h with
    ⟨rfl, hFirst⟩ | ⟨error, rfl, hFirst⟩ | ⟨first, second, u, token, rfl, hFirst, hSecond⟩
  · obtain ⟨asked, hAsked, rfl⟩ := hAcquired hFirst
    exact .dropped hAsked
  · obtain ⟨asked, hAsked, rfl⟩ := hAcquired hFirst
    exact .failed hAsked
  · obtain ⟨asked, hAsked, rfl⟩ := hAcquired hFirst
    obtain ⟨rfl, rfl, rfl⟩ := Activity.run_finished_iff.mp hSecond
    rw [List.append_nil]
    exact .stored message more hAsked

theorem run_issueFresh_tracked {result : Option (Except CredentialError IssueOutcome)}
    (h : Activity.Run meanwhile (manager.issueFresh scene) waits t result) :
    TrackedRun meanwhile manager scene id .issued waits t result := by
  refine run_andThen_tracked (fun {_ u came} hAcquired => ⟨u, hAcquired, ?_⟩) h
  cases came with
  | none => rfl
  | some came => cases came <;> rfl

theorem run_renew_tracked {current : AccessToken} {decision : RenewalDecision}
    {result : Option (Except CredentialError RenewOutcome)}
    (h : Activity.Run meanwhile (manager.renew current decision scene) waits t result) :
    TrackedRun meanwhile manager { scene with memory := .renewing } (settle current.expiresAt)
      (.renewed decision) waits t result := by
  refine run_andThen_tracked (fun {_ u came} hAcquired => ?_) h
  obtain ⟨asked, hAsked, hEnd⟩ := Activity.run_ensuring_iff.mp hAcquired
  refine ⟨asked, hAsked, hEnd.trans ?_⟩
  cases came with
  | none => rfl
  | some came => cases came <;> rfl

/-! ### The ways through the calls -/

/-- **The ways through issuing.** A token in the entry is found, and the state is what its expiry
deserves; otherwise one is asked for. -/
theorem ensureIssued_cases {result : Option (Except CredentialError IssueOutcome)}
    (h : Activity.Run meanwhile (manager.ensureIssued scene) waits t result) :
    (∃ token, manager.Holds scene.record token ∧ waits = [] ∧ t = settle token.expiresAt scene ∧
      result = some (.ok (.alreadyIssued token.name))) ∨
    (∀ token, ¬ manager.Holds scene.record token) ∧ ∃ start : Scene κ CredentialState,
      start.record = scene.record ∧ start.memory = scene.memory ∧
      scene.world.SameExchanges start.world ∧
      TrackedRun meanwhile manager start id .issued waits t result := by
  rw [ensureIssued] at h
  split at h
  · next token hEntry =>
    obtain ⟨rfl, rfl, rfl⟩ := Activity.run_finished_iff.mp h
    exact .inl ⟨token, hEntry, rfl, rfl, rfl⟩
  · next hEntry =>
    refine .inr ⟨fun token hToken => ?_, scene, rfl, rfl, .refl _, run_issueFresh_tracked h⟩
    cases hEntry.symm.trans hToken
  · next error hEntry =>
    refine .inr ⟨fun token hToken => ?_, _, ?_, ?_, ?_, run_issueFresh_tracked h⟩
    · cases hEntry.symm.trans hToken
    · rfl
    · rfl
    · exact ⟨rfl, rfl, rfl⟩

/-- **The ways through renewing.** A token in the entry is not due, or it is and another one is asked
for; without a token nothing happens to the state. -/
theorem maybeRenew_cases {result : Option (Except CredentialError RenewOutcome)}
    (h : Activity.Run meanwhile (manager.maybeRenew scene) waits t result) :
    (∃ token, manager.Holds scene.record token ∧
      ((manager.settings.renewalWindow.decide scene.world.now token.expiresAt).renews = false ∧
          waits = [] ∧ t = { scene with memory := .issued } ∧ result = some (.ok (.notDue
            (manager.settings.renewalWindow.decide scene.world.now token.expiresAt))) ∨
        (manager.settings.renewalWindow.decide scene.world.now token.expiresAt).renews = true ∧
          TrackedRun meanwhile manager { scene with memory := .renewing } (settle token.expiresAt)
            (.renewed (manager.settings.renewalWindow.decide scene.world.now token.expiresAt))
            waits t result)) ∨
    (∀ token, ¬ manager.Holds scene.record token) ∧ waits = [] ∧ t.record = scene.record ∧
      t.memory = scene.memory ∧ scene.world.SameExchanges t.world ∧
      result = some (.ok .nothingToRenew) := by
  rw [maybeRenew] at h
  split at h
  · next token hEntry =>
    refine .inl ⟨token, hEntry, ?_⟩
    dsimp only at h
    split at h
    · next hDue => exact .inr ⟨hDue, run_renew_tracked h⟩
    · next hDue =>
      obtain ⟨rfl, rfl, rfl⟩ := Activity.run_finished_iff.mp h
      exact .inl ⟨Bool.eq_false_iff.mpr hDue, rfl, rfl, rfl⟩
  · next hEntry =>
    obtain ⟨rfl, rfl, rfl⟩ := Activity.run_finished_iff.mp h
    refine .inr ⟨fun token hToken => ?_, rfl, rfl, rfl, .refl _, rfl⟩
    cases hEntry.symm.trans hToken
  · next error hEntry =>
    obtain ⟨rfl, rfl, rfl⟩ := Activity.run_finished_iff.mp h
    refine .inr ⟨fun token hToken => ?_, rfl, rfl, rfl, ⟨rfl, rfl, rfl⟩, rfl⟩
    cases hEntry.symm.trans hToken

/-! ### What they do to the record and to the exchanges -/

/-- **The ways on which a token is asked for and stored.** The outcome depends on the name of the
token. -/
inductive StoreRun (meanwhile : Scene κ CredentialState → Scene κ CredentialState → Prop)
    (manager : LifecycleManager κ) (scene : Scene κ CredentialState) (outcome : String → ω) :
    List (Wait (Scene κ CredentialState)) → Scene κ CredentialState →
      Option (Except CredentialError ω) → Prop where
  | stored {waits : List (Wait (Scene κ CredentialState))} {asked t : Scene κ CredentialState}
      {token : AccessToken}
      (hAsked : Activity.Run meanwhile (manager.acquire scene) waits asked (some (.ok token)))
      (hRecord : t.record = asked.record.put manager.key token.encode)
      (hWorld : asked.world.SameExchanges t.world) :
      StoreRun meanwhile manager scene outcome waits t (some (.ok (outcome token.name)))
  | failed {waits : List (Wait (Scene κ CredentialState))} {asked t : Scene κ CredentialState}
      {error : CredentialError}
      (hAsked : Activity.Run meanwhile (manager.acquire scene) waits asked (some (.error error)))
      (hRecord : t.record = asked.record) (hWorld : t.world = asked.world) :
      StoreRun meanwhile manager scene outcome waits t (some (.error error))
  | dropped {waits : List (Wait (Scene κ CredentialState))} {asked t : Scene κ CredentialState}
      (hAsked : Activity.Run meanwhile (manager.acquire scene) waits asked none)
      (hRecord : t.record = asked.record) (hWorld : t.world = asked.world) :
      StoreRun meanwhile manager scene outcome waits t none

/-- These ways do the same to the record and to the exchanges, if settling a scene leaves them alone. -/
theorem TrackedRun.storeRun {result : Option (Except CredentialError ω)}
    (h : TrackedRun meanwhile manager start settled outcome waits t result)
    (hSettled : ∀ asked, (settled asked).record = asked.record ∧ (settled asked).world = asked.world) :
    StoreRun meanwhile manager start outcome waits t result := by
  cases h with
  | stored message more hAsked => exact .stored hAsked rfl ⟨rfl, rfl, rfl⟩
  | failed hAsked => exact .failed hAsked (hSettled _).1 (hSettled _).2
  | dropped hAsked => exact .dropped hAsked (hSettled _).1 (hSettled _).2

theorem run_issueFresh {result : Option (Except CredentialError IssueOutcome)}
    (h : Activity.Run meanwhile (manager.issueFresh scene) waits t result) :
    StoreRun meanwhile manager scene .issued waits t result :=
  (run_issueFresh_tracked h).storeRun fun _ => ⟨rfl, rfl⟩

theorem run_renew {current : AccessToken} {decision : RenewalDecision}
    {result : Option (Except CredentialError RenewOutcome)}
    (h : Activity.Run meanwhile (manager.renew current decision scene) waits t result) :
    StoreRun meanwhile manager { scene with memory := .renewing } (.renewed decision) waits t
      result :=
  (run_renew_tracked h).storeRun fun _ => ⟨rfl, rfl⟩

/-- **The ways through issuing.** The entry holds a token, or one is asked for and stored. -/
theorem run_ensureIssued {result : Option (Except CredentialError IssueOutcome)}
    (h : Activity.Run meanwhile (manager.ensureIssued scene) waits t result) :
    (∃ token : AccessToken, waits = [] ∧ t.record = scene.record ∧ t.world = scene.world ∧
      result = some (.ok (.alreadyIssued token.name))) ∨
    ∃ start : Scene κ CredentialState, start.record = scene.record ∧
      scene.world.SameExchanges start.world ∧
      StoreRun meanwhile manager start .issued waits t result := by
  obtain ⟨token, -, rfl, rfl, rfl⟩ | ⟨-, start, hRecord, -, hWorld, hRun⟩ := ensureIssued_cases h
  · exact .inl ⟨token, rfl, rfl, rfl, rfl⟩
  · exact .inr ⟨start, hRecord, hWorld, hRun.storeRun fun _ => ⟨rfl, rfl⟩⟩

/-- **The ways through renewing.** There is nothing to renew yet, or a token is asked for and
stored. -/
theorem run_maybeRenew {result : Option (Except CredentialError RenewOutcome)}
    (h : Activity.Run meanwhile (manager.maybeRenew scene) waits t result) :
    (∃ outcome : RenewOutcome, outcome.changedRecord = false ∧ waits = [] ∧
      t.record = scene.record ∧ scene.world.SameExchanges t.world ∧
      result = some (.ok outcome)) ∨
    ∃ (start : Scene κ CredentialState) (decision : RenewalDecision),
      start.record = scene.record ∧ start.world = scene.world ∧
      StoreRun meanwhile manager start (.renewed decision) waits t result := by
  obtain ⟨token, -, ⟨-, rfl, rfl, rfl⟩ | ⟨-, hRun⟩⟩ | ⟨-, rfl, hRecord, -, hWorld, rfl⟩ :=
    maybeRenew_cases h
  · exact .inl ⟨_, rfl, rfl, rfl, .refl _, rfl⟩
  · refine .inr ⟨_, _, ?_, ?_, hRun.storeRun fun _ => ⟨rfl, rfl⟩⟩
    · rfl
    · rfl
  · exact .inl ⟨_, rfl, rfl, hRecord, hWorld, rfl⟩

/-! ### Calls that succeed or are dropped -/

section Possible

variable (manager) {token : AccessToken}
  (hStays : ∀ scene : Scene κ CredentialState, meanwhile scene scene)
include hStays

/-- A token is obtained when the login succeeds and the endpoint issues one of the name that is
asked for. -/
theorem exists_run_acquire (hNew : scene.world.contexts ∉ scene.world.released)
    (hName : token.name
      = manager.settings.tokenPrefix ++ scene.world.identifiers scene.world.drawn) :
    ∃ waits t, Activity.Run meanwhile (manager.acquire scene) waits t (some (.ok token)) := by
  have hAccepted : TokenAcquirer.accept (manager.acquirer.nextRequest
      (scene.world.enter (.fresh default)).2) (.ok token) = .ok token :=
    TokenAcquirer.accept_eq_ok_iff.mpr ⟨rfl, hName⟩
  have hAction : Activity.Run meanwhile (manager.acquirer.acquire
      { scene with world := (scene.world.enter (.fresh default)).2 }
      (scene.world.enter (.fresh default)).1) _ _ _ :=
    TokenAcquirer.run_acquire_iff.mpr
      (.answered (.ok token) (Admission.isActive_fresh hNew default) (hStays _))
  rw [hAccepted] at hAction
  exact ⟨_, _, run_withAuthenticatedContext_iff.mpr (.acted (hStays scene) hAction)⟩

/-- A call that is dropped before the endpoint answers has logged in, called the endpoint and logged
out. -/
theorem exists_run_dropped
    (hEntry : AccessToken.decodeStored (scene.record.get manager.key) = .ok none)
    (hNew : scene.world.contexts ∉ scene.world.released) :
    ∃ waits t request logout, Activity.Run meanwhile (manager.ensureIssued scene) waits t none ∧
      t.world.journal = scene.world.journal
        ++ [.loggedIn logout.context, .called logout.context request, .loggedOut logout] := by
  have hAction : Activity.Run meanwhile (manager.acquirer.acquire
      { scene with world := (scene.world.enter (.fresh default)).2 }
      (scene.world.enter (.fresh default)).1) _ _ none :=
    TokenAcquirer.run_acquire_iff.mpr
      (.dropped (Admission.isActive_fresh hNew default) (hStays _))
  have hAcquire : Activity.Run meanwhile (manager.acquire scene) _ _ none :=
    run_withAuthenticatedContext_iff.mpr (.acted (hStays scene) hAction)
  rw [ensureIssued, hEntry]
  let context := (scene.world.enter (.fresh default)).1
  let calling := manager.acquirer.calling { scene with world := (scene.world.enter (.fresh default)).2 }
    context
  refine ⟨_, _, manager.acquirer.nextRequest (scene.world.enter (.fresh default)).2,
    manager.provider.answeredLogout context calling.world,
    Activity.run_andThen_iff.mpr (.inl ⟨rfl, hAcquire⟩), ?_⟩
  refine (manager.provider.closeContext_journal _ _).trans ?_
  simp [context, calling, TokenAcquirer.calling, World.noting, World.draw, World.enter,
    World.openContext, AuthProvider.answeredLogout]

/-- A token is issued when the entry holds none and one is obtained. -/
theorem exists_run_issued
    (hEntry : AccessToken.decodeStored (scene.record.get manager.key) = .ok none)
    (hNew : scene.world.contexts ∉ scene.world.released)
    (hName : token.name
      = manager.settings.tokenPrefix ++ scene.world.identifiers scene.world.drawn) :
    ∃ waits t, Activity.Run meanwhile (manager.ensureIssued scene) waits t
      (some (.ok (.issued token.name))) := by
  obtain ⟨waits, asked, hAsked⟩ := manager.exists_run_acquire hStays hNew hName
  rw [ensureIssued, hEntry]
  exact ⟨waits ++ [], _, Activity.run_andThen_iff.mpr
    (.inr (.inr ⟨waits, [], asked, token, rfl, hAsked, .finished _ _⟩))⟩

/-- A token is renewed when that is due and one is obtained. -/
theorem exists_run_renewed {current : AccessToken}
    (hEntry : AccessToken.decodeStored (scene.record.get manager.key) = .ok (some current))
    (hDue : (manager.settings.renewalWindow.decide scene.world.now current.expiresAt).renews = true)
    (hNew : scene.world.contexts ∉ scene.world.released)
    (hName : token.name
      = manager.settings.tokenPrefix ++ scene.world.identifiers scene.world.drawn) :
    ∃ waits t decision, Activity.Run meanwhile (manager.maybeRenew scene) waits t
      (some (.ok (.renewed decision token.name))) := by
  have hRenewing : ∃ waits t, Activity.Run meanwhile
      (manager.acquire { scene with memory := .renewing }) waits t (some (.ok token)) :=
    manager.exists_run_acquire hStays hNew hName
  obtain ⟨waits, asked, hAsked⟩ := hRenewing
  rw [maybeRenew, hEntry]
  dsimp only
  rw [if_pos hDue]
  exact ⟨waits ++ [], _, _, Activity.run_andThen_iff.mpr
    (.inr (.inr ⟨waits, [], asked, token, rfl,
      Activity.run_ensuring_iff.mpr ⟨asked, hAsked, rfl⟩, .finished _ _⟩))⟩

end Possible

end LifecycleManager

end CredentialLease
