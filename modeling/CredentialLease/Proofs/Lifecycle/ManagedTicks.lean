import CredentialLease.Proofs.Activity.Progress
import CredentialLease.Proofs.Lifecycle.AllOrNothing
import CredentialLease.Proofs.Lifecycle.Ticks
import CredentialLease.Proofs.Record.Keeping

/-!
# The ticks of a manager's control loop

The work of such a tick leaves a token alone that is not due. Otherwise it asks for one and stores
it (`WorkRun.of_manager`). Until the end of its work a tick leaves the clock and the storage to
others (`leavesAlone_work`), and what comes of the whole tick is one of two things: what the storage
holds is as others left it, or a token that was obtained in this tick has replaced the entry of the
manager in the record that the tick had loaded (`run_managedTick`).
-/

namespace CredentialLease

variable {κ μ α : Type}

/-! ### What a manager leaves to others -/

/-- The clock, the time line and the storage around a scene. -/
def Scene.surroundings (scene : Scene κ μ) : Instant × Duration × κ :=
  (scene.world.now, scene.world.elapsed, scene.world.storage)

/-- A logout leaves the surroundings alone. -/
theorem AuthProvider.closeContext_surroundings (provider : AuthProvider κ)
    (context : AuthenticatedContext) (scene : Scene κ μ) :
    (scene.mapWorld (provider.closeContext context)).surroundings = scene.surroundings := by
  obtain ⟨log, hClosed⟩ := provider.closeContext_eq context scene.world
  rw [Scene.mapWorld, hClosed]
  rfl

/-- A login leaves the surroundings alone. -/
theorem World.enter_surroundings (admission : Admission) (scene : Scene κ μ) :
    ({ scene with world := (scene.world.enter admission).2 } : Scene κ μ).surroundings
      = scene.surroundings := by
  cases admission with
  | fresh identity => rfl
  | shared context => rfl

/-- A session leaves the surroundings alone if its action does. -/
theorem leavesAlone_withAuthenticatedContext {provider : AuthProvider κ}
    {credentials : LoginCredentials}
    {action : Scene κ μ → AuthenticatedContext → Activity (Scene κ μ) (Except CredentialError α)}
    {scene : Scene κ μ}
    (hAction : ∀ scene context, (action scene context).LeavesAlone Scene.surroundings scene) :
    (withAuthenticatedContext provider credentials action scene).LeavesAlone Scene.surroundings
      scene := by
  refine Activity.leavesAlone_ask rfl fun scene' answer => ?_
  match answer with
  | .error error => exact Activity.leavesAlone_finished rfl
  | .ok admission =>
    have hActs : (action { scene' with world := (scene'.world.enter admission).2 }
        (scene'.world.enter admission).1).LeavesAlone Scene.surroundings scene' :=
      (hAction _ _).of_eq (World.enter_surroundings admission scene')
    exact hActs.ensuring (fun _ => provider.closeContext_surroundings _)
      (provider.closeContext_surroundings _)

theorem TokenAcquirer.leavesAlone_acquire (acquirer : TokenAcquirer) (scene : Scene κ μ)
    (context : AuthenticatedContext) :
    (acquirer.acquire scene context).LeavesAlone Scene.surroundings scene := by
  cases hReleased : context.isReleased scene.world with
  | true =>
    rw [acquirer.acquire_of_isReleased hReleased]
    exact Activity.leavesAlone_finished rfl
  | false =>
    rw [acquirer.acquire_of_active hReleased]
    exact Activity.leavesAlone_ask rfl fun _ _ => Activity.leavesAlone_finished rfl

namespace LifecycleManager

variable {manager : LifecycleManager κ} {scene t : Scene κ CredentialState}
  {meanwhile : Scene κ CredentialState → Scene κ CredentialState → Prop}
  {waits : List (Wait (Scene κ CredentialState))}

theorem leavesAlone_acquire :
    (manager.acquire scene).LeavesAlone Scene.surroundings scene :=
  leavesAlone_withAuthenticatedContext manager.acquirer.leavesAlone_acquire

theorem leavesAlone_issueFresh :
    (manager.issueFresh scene).LeavesAlone Scene.surroundings scene :=
  leavesAlone_acquire.andThen fun _ _ => Activity.leavesAlone_finished rfl

theorem leavesAlone_ensureIssued :
    (manager.ensureIssued scene).LeavesAlone Scene.surroundings scene := by
  rw [ensureIssued]
  split
  · exact Activity.leavesAlone_finished rfl
  · exact leavesAlone_issueFresh
  · exact leavesAlone_issueFresh.of_eq rfl

theorem leavesAlone_renew {current : AccessToken} {decision : RenewalDecision} :
    (manager.renew current decision scene).LeavesAlone Scene.surroundings scene := by
  have hAcquire : (manager.acquire { scene with memory := .renewing }).LeavesAlone
      Scene.surroundings scene := leavesAlone_acquire.of_eq rfl
  refine (hAcquire.ensuring ?_ ?_).andThen fun _ _ => Activity.leavesAlone_finished rfl
  · intro result ended
    cases result with
    | error error => rfl
    | ok token => rfl
  · intro ended
    rfl

theorem leavesAlone_maybeRenew :
    (manager.maybeRenew scene).LeavesAlone Scene.surroundings scene := by
  rw [maybeRenew]
  split
  · dsimp only
    split
    · exact leavesAlone_renew
    · exact Activity.leavesAlone_finished rfl
  · exact Activity.leavesAlone_finished rfl
  · exact Activity.leavesAlone_finished rfl

/-! ### Issuing when the entry is known -/

/-- A token in the entry stays there. -/
theorem ensureIssued_of_held {token : AccessToken}
    (hEntry : AccessToken.decodeStored (scene.record.get manager.key) = .ok (some token)) :
    manager.ensureIssued scene
      = .finished { scene with memory := .atExpiry token.expiresAt scene.world.now }
        (.ok (.alreadyIssued token.name)) := by
  rw [ensureIssued, hEntry]

/-- An entry without a token gets one. -/
theorem exists_ensureIssued_eq_issueFresh
    (hEntry : ∀ token,
      AccessToken.decodeStored (scene.record.get manager.key) ≠ .ok (some token)) :
    ∃ start : Scene κ CredentialState, start.record = scene.record ∧
      manager.ensureIssued scene = manager.issueFresh start := by
  rw [ensureIssued]
  split
  · next token hToken => exact absurd hToken (hEntry token)
  · exact ⟨scene, rfl, rfl⟩
  · refine ⟨_, ?_, rfl⟩
    rfl

/-- A token in the entry that is due is replaced. -/
theorem maybeRenew_of_due {token : AccessToken}
    (hEntry : AccessToken.decodeStored (scene.record.get manager.key) = .ok (some token))
    (hDue : (manager.settings.renewalWindow.decide scene.world.now token.expiresAt).renews
      = true) :
    manager.maybeRenew scene = manager.renew token
      (manager.settings.renewalWindow.decide scene.world.now token.expiresAt) scene := by
  rw [maybeRenew, hEntry]
  exact if_pos hDue

/-- A token in the entry that is not due is left alone. -/
theorem maybeRenew_of_not_due {token : AccessToken}
    (hEntry : AccessToken.decodeStored (scene.record.get manager.key) = .ok (some token))
    (hNotDue : (manager.settings.renewalWindow.decide scene.world.now token.expiresAt).renews
      = false) :
    manager.maybeRenew scene = .finished { scene with memory := .issued } (.ok (.notDue
      (manager.settings.renewalWindow.decide scene.world.now token.expiresAt))) := by
  rw [maybeRenew, hEntry]
  exact if_neg (Bool.eq_false_iff.mp hNotDue)

/-- What is told of an outcome does not change the way that led to it. -/
theorem StoreRun.map {ω ω' : Type} {outcome : String → ω}
    {result : Option (Except CredentialError ω)} (f : ω → ω')
    (h : StoreRun meanwhile manager scene outcome waits t result) :
    StoreRun meanwhile manager scene (fun name => f (outcome name)) waits t
      (result.map fun value => value.map f) := by
  cases h with
  | stored hAsked hRecord hWorld => exact .stored hAsked hRecord hWorld
  | failed hAsked hRecord hWorld => exact .failed hAsked hRecord hWorld
  | dropped hAsked hRecord hWorld => exact .dropped hAsked hRecord hWorld

end LifecycleManager

namespace Renewer

variable {renewer : Renewer κ CredentialState} {manager : LifecycleManager κ}
  {scene ended t : Scene κ CredentialState} {loaded : CredentialRecord}
  {meanwhile : Scene κ CredentialState → Scene κ CredentialState → Prop}
  {waits : List (Wait (Scene κ CredentialState))}
  {holds : κ → CredentialRecord → Prop}

/-! ### The work -/

theorem leavesAlone_work (hIssuer : renewer.issuer = manager.issuer) :
    (renewer.work scene).LeavesAlone Scene.surroundings scene := by
  rw [work, hIssuer]
  refine LifecycleManager.leavesAlone_ensureIssued.andThen fun scene' outcome => ?_
  split
  · exact Activity.leavesAlone_finished rfl
  · exact LifecycleManager.leavesAlone_maybeRenew.map _

/-- The work goes on with the renewal of a token that the entry holds. -/
theorem work_of_held (hIssuer : renewer.issuer = manager.issuer) {token : AccessToken}
    (hEntry : AccessToken.decodeStored (scene.record.get manager.key) = .ok (some token)) :
    renewer.work scene
      = (manager.maybeRenew { scene with memory := .atExpiry token.expiresAt scene.world.now }).map
        fun result => result.map fun _ => () := by
  rw [work, hIssuer]
  show (manager.ensureIssued scene).andThen _ = _
  rw [LifecycleManager.ensureIssued_of_held hEntry]
  rfl

/-- **A token that is not due is left alone**, and the work does not wait for anyone. -/
theorem work_of_not_due (hIssuer : renewer.issuer = manager.issuer) {token : AccessToken}
    (hEntry : AccessToken.decodeStored (scene.record.get manager.key) = .ok (some token))
    (hNotDue : (manager.settings.renewalWindow.decide scene.world.now token.expiresAt).renews
      = false) :
    renewer.work scene = .finished { scene with memory := .issued } (.ok ()) := by
  rw [work_of_held hIssuer hEntry, LifecycleManager.maybeRenew_of_not_due]
  · rfl
  · exact hEntry
  · exact hNotDue

/-- A token that is due is replaced. -/
theorem work_of_due (hIssuer : renewer.issuer = manager.issuer) {token : AccessToken}
    (hEntry : AccessToken.decodeStored (scene.record.get manager.key) = .ok (some token))
    (hDue : (manager.settings.renewalWindow.decide scene.world.now token.expiresAt).renews
      = true) :
    renewer.work scene
      = (manager.renew token
          (manager.settings.renewalWindow.decide scene.world.now token.expiresAt)
          { scene with memory := .atExpiry token.expiresAt scene.world.now }).map
        fun result => result.map fun _ => () := by
  rw [work_of_held hIssuer hEntry, LifecycleManager.maybeRenew_of_due]
  · exact hEntry
  · exact hDue

/-- **The ways through the work of a manager's tick.** The entry holds a token that is not due, or
one is asked for and stored. -/
theorem WorkRun.of_manager (hIssuer : renewer.issuer = manager.issuer)
    {came : Option (Except CredentialError Unit)}
    (h : WorkRun meanwhile renewer scene waits t came) :
    (∃ token, AccessToken.decodeStored (scene.record.get manager.key) = .ok (some token) ∧
      (manager.settings.renewalWindow.decide scene.world.now token.expiresAt).renews = false ∧
      waits = [] ∧ t.record = scene.record ∧ t.world = scene.world ∧ came = some (.ok ())) ∨
    ∃ start : Scene κ CredentialState, start.record = scene.record ∧
      LifecycleManager.StoreRun meanwhile manager start (fun _ => ()) waits t came := by
  by_cases hHeld : ∃ token,
      AccessToken.decodeStored (scene.record.get manager.key) = .ok (some token)
  · obtain ⟨token, hEntry⟩ := hHeld
    have hWork := run_work_iff.mpr h
    cases hDue : (manager.settings.renewalWindow.decide scene.world.now token.expiresAt).renews with
    | false =>
      rw [work_of_not_due hIssuer hEntry hDue] at hWork
      obtain ⟨rfl, rfl, rfl⟩ := Activity.run_finished_iff.mp hWork
      exact .inl ⟨token, hEntry, hDue, rfl, rfl, rfl, rfl⟩
    | true =>
      rw [work_of_due hIssuer hEntry hDue] at hWork
      obtain ⟨result, hRenewed, rfl⟩ := Activity.run_map_iff.mp hWork
      refine .inr ⟨_, ?_, (LifecycleManager.run_renew hRenewed).map fun _ => ()⟩
      rfl
  · rw [not_exists] at hHeld
    obtain ⟨start, hStart, hIssue⟩ := LifecycleManager.exists_ensureIssued_eq_issueFresh hHeld
    have hRun {waits : List (Wait (Scene κ CredentialState))} {u : Scene κ CredentialState}
        {result : Option (Except CredentialError IssueOutcome)}
        (hIssued : Activity.Run meanwhile (renewer.issuer.ensureIssued scene) waits u result) :
        LifecycleManager.StoreRun meanwhile manager start .issued waits u result := by
      rw [hIssuer] at hIssued
      exact LifecycleManager.run_issueFresh (hIssue ▸ hIssued)
    refine .inr ⟨start, hStart, ?_⟩
    cases h with
    | abandoned hIssued => exact (hRun hIssued).map fun _ => ()
    | failed hIssued => exact (hRun hIssued).map fun _ => ()
    | issued hIssued hChanged => exact (hRun hIssued).map fun _ => ()
    | renewed hIssued hKept hRenewed =>
      -- a token that was issued has changed the record
      cases hRun hIssued
      cases hKept

/-- **What becomes of the record in the work of a tick.** It is as it was loaded, or the entry of the
manager holds a token that was obtained in this tick, and then the work has succeeded. -/
theorem WorkRun.keeps_or_stores (hIssuer : renewer.issuer = manager.issuer)
    {came : Option (Except CredentialError Unit)}
    (h : WorkRun Scene.KeepsRecord renewer scene waits ended came) :
    ended.record = scene.record ∨
    ∃ token, manager.Obtains waits token ∧
      ended.record = scene.record.put manager.key token.encode ∧ came = some (.ok ()) := by
  rcases h.of_manager hIssuer with ⟨-, -, -, -, hRecord, -⟩ | ⟨start, hStart, hRun⟩
  · exact .inl hRecord
  · cases hRun with
    | stored hAsked hRecord hWorld =>
      obtain ⟨hSame, -, hObtains⟩ := LifecycleManager.run_acquire hAsked
      rw [hSame, hStart] at hRecord
      exact .inr ⟨_, hObtains _ rfl, hRecord, rfl⟩
    | failed hAsked hRecord hWorld =>
      obtain ⟨hSame, -, -⟩ := LifecycleManager.run_acquire hAsked
      exact .inl (hRecord.trans (hSame.trans hStart))
    | dropped hAsked hRecord hWorld =>
      obtain ⟨hSame, -, -⟩ := LifecycleManager.run_acquire hAsked
      exact .inl (hRecord.trans (hSame.trans hStart))

/-! ### The tick -/

/-- A tick that is dropped leaves the surroundings alone. -/
theorem untouched_of_dropped (hIssuer : renewer.issuer = manager.issuer)
    (hLoad : renewer.store.load scene.world.storage = .ok loaded)
    (h : Activity.Run meanwhile (renewer.tick scene) waits t none) :
    Activity.Untouched Scene.surroundings scene waits t := by
  obtain ⟨-, hWork⟩ | ⟨_, _, _, hAnswer, -⟩ := run_tick hLoad h
  · have hAlone := leavesAlone_work hIssuer (run_work_iff.mpr hWork)
    exact hAlone.of_eq rfl
  · cases hAnswer

/-- Where nothing is saved, or a save fails, what was held is held. -/
theorem Publishes.undisturbed (hKeeps : renewer.store.Keeps holds)
    {came : Option (Except CredentialError Unit)} {answer : Except Failure TickOutcome}
    (h : Publishes renewer loaded ended came t answer)
    (hSaved : ended.record = loaded ∨
      ∃ failure, (renewer.store.save ended.record ended.world.storage).1 = .error failure) :
    ended.world.Undisturbed holds t.world := by
  intro held hHeld
  rw [h.storage]
  by_cases hSame : ended.record = loaded
  · rw [saved, if_pos hSame, RecordStore.saving_nil]
    exact hHeld
  · obtain ⟨failure, hRefused⟩ := hSaved.resolve_left hSame
    rw [saved, if_neg hSame, RecordStore.saving_singleton]
    exact hKeeps.refuses hHeld (Prod.ext hRefused rfl)

/-- Where a save succeeds, what was saved is held. -/
theorem Publishes.holds_saved (hKeeps : renewer.store.Keeps holds)
    {came : Option (Except CredentialError Unit)} {answer : Except Failure TickOutcome}
    (h : Publishes renewer loaded ended came t answer) (hDiffers : ended.record ≠ loaded)
    (hSave : (renewer.store.save ended.record ended.world.storage).1 = .ok ())
    {held : CredentialRecord} (hHeld : holds ended.world.storage held) :
    holds t.world.storage t.record := by
  rw [h.storage, h.record, saved, if_neg hDiffers, RecordStore.saving_singleton]
  exact hKeeps.saves hHeld (Prod.ext hSave rfl)

/-- A tick succeeds only if its work does. -/
theorem Publishes.came_eq_ok {came : Option (Except CredentialError Unit)} {outcome : TickOutcome}
    (h : Publishes renewer loaded ended came t (.ok outcome)) : came = some (.ok ()) := by
  cases outcome with
  | unchanged => exact (h.unchanged_iff.mp rfl).1
  | published => exact (h.published_iff.mp rfl).1

/-- **What a tick that succeeds leaves in the storage** is the record that it has worked on, if the
storage was in order then, and held what was loaded unless something was to be saved. -/
theorem Publishes.holds_record (hKeeps : renewer.store.Keeps holds)
    {came : Option (Except CredentialError Unit)} {outcome : TickOutcome}
    (h : Publishes renewer loaded ended came t (.ok outcome))
    (hOrder : ∃ record, holds ended.world.storage record)
    (hUnchanged : outcome = .unchanged → holds ended.world.storage loaded) :
    holds t.world.storage t.record := by
  cases outcome with
  | unchanged =>
    obtain ⟨-, hSame⟩ := h.unchanged_iff.mp rfl
    rw [h.storage, h.record, saved, if_pos hSame, hSame]
    exact hUnchanged rfl
  | published =>
    obtain ⟨-, hDiffers, hSave⟩ := h.published_iff.mp rfl
    obtain ⟨record, hHeld⟩ := hOrder
    exact h.holds_saved hKeeps hDiffers hSave hHeld

/-- **What comes of the tick of a manager's control loop.** Up to the end of its work the
surroundings are left to others. Then the storage holds what it held, or a token that was obtained
in this tick is published: it has replaced the entry of the manager in the record that was
loaded. -/
theorem run_managedTick (hIssuer : renewer.issuer = manager.issuer)
    (hKeeps : renewer.store.Keeps holds)
    (hLoad : renewer.store.load scene.world.storage = .ok loaded)
    {answer : Except Failure TickOutcome}
    (h : Activity.Run Scene.KeepsRecord (renewer.tick scene) waits t (some answer)) :
    ∃ ended, Activity.Untouched Scene.surroundings scene waits ended ∧
      ((answer ≠ .ok .published ∧ ended.world.Undisturbed holds t.world) ∨
        (answer = .ok .published ∧ ∃ token, manager.Obtains waits token ∧
          t.record = loaded.put manager.key token.encode ∧ t.record ≠ loaded ∧
          ∀ held, holds ended.world.storage held → holds t.world.storage t.record)) := by
  obtain ⟨hNone, -⟩ | ⟨ended, came, _, hAnswer, hWork, hPublishes⟩ := run_tick hLoad h
  · cases hNone
  obtain rfl := Option.some.inj hAnswer
  have hAlone := leavesAlone_work hIssuer (run_work_iff.mpr hWork)
  refine ⟨ended, hAlone.of_eq rfl, ?_⟩
  by_cases hSame : ended.record = loaded
  · refine .inl ⟨fun hPublished => ?_, hPublishes.undisturbed hKeeps (.inl hSame)⟩
    exact (hPublishes.published_iff.mp hPublished).2.1 hSame
  · obtain ⟨token, hObtains, hStored, hCame⟩ :=
      (hWork.keeps_or_stores hIssuer).resolve_left hSame
    cases hSave : (renewer.store.save ended.record ended.world.storage).1 with
    | error failure =>
      refine .inl ⟨fun hPublished => ?_, hPublishes.undisturbed hKeeps (.inr ⟨failure, hSave⟩)⟩
      rw [hPublishes.refused failure hSame hSave] at hPublished
      cases hPublished
    | ok done =>
      refine .inr ⟨hPublishes.published_iff.mpr ⟨hCame, hSame, hSave⟩, token, hObtains, ?_, ?_,
        fun held hHeld => hPublishes.holds_saved hKeeps hSame hSave hHeld⟩
      · rw [hPublishes.record, hStored]
      · rw [hPublishes.record]
        exact hSame

end Renewer

end CredentialLease
