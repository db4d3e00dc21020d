import CredentialLease.Proofs.Lifecycle.Publishing

/-!
# How often a tick asks for a token

Issuing and renewing each read the entry for themselves. A tick asks for a token exactly when the entry
holds none that can be left alone (`LifecycleManager.NeedsToken`): then one of the two asks and the
other does not, and otherwise neither does (`WorkRun.kept_or_asks`). To ask is to log in once and, if
the login succeeds, to call the endpoint once (`AsksOnce`).

Main statement: `tick_asks_when_needed`. Whatever the entry holds, a tick that succeeds leaves a token
there.
-/

namespace CredentialLease

variable {κ μ : Type}

/-! ### Requests -/

/-- Whether a request is for a login. -/
def Request.isLogin : Request → Bool
  | login _ => true
  | _ => false

/-- Whether a request calls the endpoint. -/
def Request.isIssue : Request → Bool
  | issue _ _ => true
  | _ => false

/-- Whether a wait, if it is for a login, ends with one that succeeds. That the context is active is
a condition on the provider: one that makes a context for every login meets it, and one that gives a
context again whose session has ended does not. -/
def Wait.LogsIn : Wait (Scene κ μ) → Prop
  | ⟨_, .login _, some (.ok admission), resumed⟩ => Admission.IsActive admission resumed.world
  | ⟨_, .login _, _, _⟩ => False
  | _ => True

/-- **What asking for a token waits for**: one login, and one call of the endpoint if that succeeds. -/
structure AsksOnce (waits : List (Wait (Scene κ μ))) : Prop where
  logins : waits.countP (fun wait => wait.request.isLogin) = 1
  calls_le : waits.countP (fun wait => wait.request.isIssue) ≤ 1
  calls : (∀ wait ∈ waits, wait.LogsIn) → waits.countP (fun wait => wait.request.isIssue) = 1

namespace LifecycleManager

variable {manager : LifecycleManager κ} {scene t : Scene κ CredentialState}
  {meanwhile : Scene κ CredentialState → Scene κ CredentialState → Prop}
  {waits : List (Wait (Scene κ CredentialState))} {record : CredentialRecord} {now : Instant}

theorem asksOnce_of_acquire {result : Option (Except CredentialError AccessToken)}
    (h : Activity.Run meanwhile (manager.acquire scene) waits t result) : AsksOnce waits := by
  cases run_withAuthenticatedContext_iff.mp h with
  | abandoned hMeanwhile =>
    exact ⟨rfl, Nat.zero_le 1, fun hLogsIn => (hLogsIn _ List.mem_cons_self).elim⟩
  | refused hMeanwhile =>
    exact ⟨rfl, Nat.zero_le 1, fun hLogsIn => (hLogsIn _ List.mem_cons_self).elim⟩
  | @acted resumed ended admission _ _ hMeanwhile hAction =>
    cases TokenAcquirer.run_acquire_iff.mp hAction with
    | refused hReleased =>
      refine ⟨rfl, Nat.zero_le 1, fun hLogsIn => ?_⟩
      -- the context of the login is active
      have hActive : admission.IsActive resumed.world := hLogsIn _ List.mem_cons_self
      rw [Admission.IsActive, hReleased] at hActive
      cases hActive
    | dropped hActive hAsked => exact ⟨rfl, Nat.le_refl 1, fun _ => rfl⟩
    | answered answer hActive hAsked => exact ⟨rfl, Nat.le_refl 1, fun _ => rfl⟩

theorem StoreRun.asksOnce {ω : Type} {outcome : String → ω}
    {result : Option (Except CredentialError ω)}
    (h : StoreRun meanwhile manager scene outcome waits t result) : AsksOnce waits := by
  cases h with
  | stored hAsked hRecord hWorld => exact asksOnce_of_acquire hAsked
  | failed hAsked hRecord hWorld => exact asksOnce_of_acquire hAsked
  | dropped hAsked hRecord hWorld => exact asksOnce_of_acquire hAsked

/-! ### When a token is needed -/

/-- **Whether an entry needs a token** at an instant: it holds none, or one that is due. -/
def NeedsToken (manager : LifecycleManager κ) (record : CredentialRecord) (now : Instant) : Prop :=
  (∀ token, ¬ manager.Holds record token) ∨
  ∃ token, manager.Holds record token ∧
    (manager.settings.renewalWindow.decide now token.expiresAt).renews = true

/-- Whether a token in an entry can be left alone at an instant. -/
def KeepsToken (manager : LifecycleManager κ) (record : CredentialRecord) (now : Instant)
    (token : AccessToken) : Prop :=
  manager.Holds record token ∧
    (manager.settings.renewalWindow.decide now token.expiresAt).renews = false

theorem needsToken_iff :
    manager.NeedsToken record now ↔ ∀ token, ¬ manager.KeepsToken record now token := by
  constructor
  -- an entry holds one token at most, so not one that is due and another that is not
  · rintro (hNone | ⟨token, hHeld, hDue⟩) other ⟨hOther, hNotDue⟩
    · exact hNone other hOther
    · obtain rfl := hOther.unique hHeld
      rw [hDue] at hNotDue
      cases hNotDue
  · intro hNever
    by_cases hHeld : ∃ token, manager.Holds record token
    · obtain ⟨token, hHeld⟩ := hHeld
      refine .inr ⟨token, hHeld, ?_⟩
      exact (Bool.not_eq_false _).mp fun hNotDue => hNever token ⟨hHeld, hNotDue⟩
    · exact .inl (not_exists.mp hHeld)

end LifecycleManager

namespace Renewer

variable {renewer : Renewer κ CredentialState} {manager : LifecycleManager κ}
  {scene ended t : Scene κ CredentialState} {loaded : CredentialRecord}
  {meanwhile : Scene κ CredentialState → Scene κ CredentialState → Prop}
  {waits : List (Wait (Scene κ CredentialState))} {holds : κ → CredentialRecord → Prop}

/-! ### The work of a tick -/

/-- **A token that can be left alone is; otherwise one is asked for.** -/
theorem WorkRun.kept_or_asks (hIssuer : renewer.issuer = manager.issuer)
    {came : Option (Except CredentialError Unit)}
    (h : WorkRun meanwhile renewer scene waits t came) :
    (∃ token, manager.KeepsToken scene.record scene.world.now token ∧ waits = [] ∧
      t.record = scene.record) ∨
    manager.NeedsToken scene.record scene.world.now ∧ ∃ start : Scene κ CredentialState,
      start.record = scene.record ∧
      LifecycleManager.StoreRun meanwhile manager start (fun _ => ()) waits t came := by
  obtain ⟨token, hHeld, hNotDue, rfl, hRecord, -, -⟩ | ⟨start, hStart, hRun⟩ :=
    h.of_manager hIssuer
  · exact .inl ⟨token, ⟨hHeld, hNotDue⟩, rfl, hRecord⟩
  · refine .inr ⟨LifecycleManager.needsToken_iff.mpr fun token hKeeps => ?_, start, hStart, hRun⟩
    -- with a token that can be left alone the work does not wait for anyone
    have hWork := run_work_iff.mpr h
    rw [work_of_not_due hIssuer hKeeps.1 hKeeps.2] at hWork
    obtain ⟨rfl, -, -⟩ := Activity.run_finished_iff.mp hWork
    have hLogins := hRun.asksOnce.logins
    cases hLogins

/-- What the work of a tick waits for, and when. -/
theorem WorkRun.requests (hIssuer : renewer.issuer = manager.issuer)
    {came : Option (Except CredentialError Unit)}
    (h : WorkRun meanwhile renewer scene waits t came) :
    waits.countP (fun wait => wait.request.isLogin) ≤ 1 ∧
    waits.countP (fun wait => wait.request.isIssue) ≤ 1 ∧
    ((∀ wait ∈ waits, wait.LogsIn) →
      (waits.countP (fun wait => wait.request.isIssue) = 1 ↔
        manager.NeedsToken scene.record scene.world.now)) := by
  obtain ⟨token, hKeeps, rfl, -⟩ | ⟨hNeeds, start, -, hRun⟩ := h.kept_or_asks hIssuer
  · refine ⟨Nat.zero_le 1, Nat.zero_le 1, fun _ => ⟨nofun, fun hNeeds => ?_⟩⟩
    exact absurd hKeeps (LifecycleManager.needsToken_iff.mp hNeeds token)
  · obtain ⟨hLogins, hCallsLe, hCalls⟩ := hRun.asksOnce
    exact ⟨Nat.le_of_eq hLogins, hCallsLe,
      fun hLogsIn => ⟨fun _ => hNeeds, fun _ => hCalls hLogsIn⟩⟩

/-- **Work that succeeds leaves a token in the entry**: the one that was there and can be left alone,
or one that was obtained in these waits. -/
theorem WorkRun.leaves_token (hIssuer : renewer.issuer = manager.issuer)
    (h : WorkRun Scene.KeepsRecord renewer scene waits t (some (.ok ()))) :
    (∃ token, manager.KeepsToken scene.record scene.world.now token ∧ waits = [] ∧
      t.record = scene.record) ∨
    ∃ token, manager.Obtains waits token ∧
      t.record = scene.record.put manager.key token.encode := by
  obtain hKept | ⟨-, start, hStart, hRun⟩ := h.kept_or_asks hIssuer
  · exact .inl hKept
  · cases hRun with
    | stored hAsked hRecord hWorld =>
      obtain ⟨hSame, -, hObtains⟩ := LifecycleManager.run_acquire hAsked
      exact .inr ⟨_, hObtains _ rfl, by rw [hRecord, hSame, hStart]⟩

/-! ### Ticks -/

/-- **When a tick asks for a token, and what it leaves**, for every record that is stored, every clock and
window, and whatever others do while it waits. It logs in at most once and calls the endpoint at most
once. If its login succeeds, it calls the endpoint exactly when the entry needs a token: when what is
stored there is no token, or one that is due. After a tick that succeeds the stored entry holds the token
that was there and can be left alone, or the one that was obtained in this tick. The latter can be read
back if its secret is shorter than `2 ^ 32` bytes. For that, others must leave the storage in order, and
leave it alone if the tick itself had nothing to save. -/
theorem tick_asks_when_needed (hIssuer : renewer.issuer = manager.issuer)
    (hKeeps : renewer.store.Keeps holds) {held : CredentialRecord}
    (hHeld : holds scene.world.storage held) {result : Option (Except Failure TickOutcome)}
    (h : Activity.Run Scene.KeepsRecord (renewer.tick scene) waits t result) :
    waits.countP (fun wait => wait.request.isLogin) ≤ 1 ∧
    waits.countP (fun wait => wait.request.isIssue) ≤ 1 ∧
    ((∃ loaded, renewer.store.load scene.world.storage = .ok loaded) →
      (∀ wait ∈ waits, wait.LogsIn) →
      (waits.countP (fun wait => wait.request.isIssue) = 1 ↔
        manager.NeedsToken held scene.world.now)) ∧
    ∀ outcome, result = some (.ok outcome) →
      (∀ wait ∈ waits, (∃ record, holds wait.began.world.storage record) →
        ∃ record, holds wait.resumed.world.storage record) →
      (outcome = .unchanged →
        ∀ wait ∈ waits, wait.began.world.Undisturbed holds wait.resumed.world) →
      ∃ record, holds t.world.storage record ∧
        ((∃ token, manager.KeepsToken held scene.world.now token ∧ manager.Holds record token) ∨
          ∃ token, manager.Obtains waits token ∧ record.get manager.key = some token.encode ∧
            (token.secret.length < 2 ^ 32 → manager.Holds record token)) := by
  cases hLoad : renewer.store.load scene.world.storage with
  | error failure =>
    rw [tick_of_load_error hLoad] at h
    obtain ⟨rfl, rfl, rfl⟩ := Activity.run_finished_iff.mp h
    exact ⟨Nat.zero_le 1, Nat.zero_le 1, nofun, nofun⟩
  | ok loaded =>
    obtain rfl : loaded = held := hKeeps.loads hHeld hLoad
    obtain ⟨rfl, hWork⟩ | ⟨ended, came, answer, rfl, hWork, hPublishes⟩ := run_tick hLoad h
    · obtain ⟨hLogins, hCallsLe, hCalls⟩ := hWork.requests hIssuer
      exact ⟨hLogins, hCallsLe, fun _ => hCalls, nofun⟩
    · obtain ⟨hLogins, hCallsLe, hCalls⟩ := hWork.requests hIssuer
      refine ⟨hLogins, hCallsLe, fun _ => hCalls, fun outcome hOutcome hOrder hUndisturbed => ?_⟩
      obtain rfl := Option.some.inj hOutcome
      obtain rfl := hPublishes.came_eq_ok
      -- until the end of its work a tick leaves the storage to others
      have hAlone : Activity.Untouched Scene.surroundings scene waits ended :=
        (leavesAlone_work hIssuer (run_work_iff.mpr hWork)).of_eq rfl
      have hRecord := hPublishes.holds_record hKeeps
        (hAlone.kept (P := fun around => ∃ record, holds around.2.2 record) hOrder ⟨_, hHeld⟩)
        fun hSame => hAlone.kept (P := fun around => holds around.2.2 loaded)
          (fun wait hWait => hUndisturbed hSame wait hWait loaded) hHeld
      refine ⟨t.record, hRecord, ?_⟩
      rw [hPublishes.record]
      obtain ⟨token, hToken, -, hSame⟩ | ⟨token, hObtains, hStored⟩ :=
        hWork.leaves_token hIssuer
      · rw [hSame]
        exact .inl ⟨token, hToken, hToken.1⟩
      · have hEntry : ended.record.get manager.key = some token.encode := by
          rw [hStored, CredentialRecord.get_put_self]
        refine .inr ⟨token, hObtains, hEntry, fun hSecret => ?_⟩
        rw [LifecycleManager.Holds, hEntry]
        exact AccessToken.decodeStored_encode hSecret

/-- A tick that finds the placeholder calls the endpoint once, and its token is stored. -/
theorem tick_asks_when_needed_placeholder :
    ∃ (manager : LifecycleManager CredentialRecord)
      (renewer : Renewer CredentialRecord CredentialState)
      (scene t : Scene CredentialRecord CredentialState)
      (waits : List (Wait (Scene CredentialRecord CredentialState))) (token : AccessToken),
      scene.world.storage.get manager.key = some placeholder ∧
      Activity.Run Scene.KeepsRecord (renewer.tick scene) waits t (some (.ok .published)) ∧
      waits.countP (fun wait => wait.request.isIssue) = 1 ∧ manager.Obtains waits token ∧
      manager.Holds t.world.storage token := by
  obtain ⟨manager, hManager⟩ : ∃ manager : LifecycleManager CredentialRecord,
      manager = .plain "key" .invalid := ⟨_, rfl⟩
  obtain ⟨renewer, hRenewer⟩ : ∃ renewer : Renewer CredentialRecord CredentialState,
      renewer = ⟨manager.issuer, .memory, defaultPeriod, defaultTickTimeout⟩ := ⟨_, rfl⟩
  obtain ⟨granted, hName, hSecret⟩ : ∃ granted : AccessToken,
      granted.name = "lease-1" ∧ granted.secret.length < 2 ^ 32 :=
    ⟨⟨"lease-1", ⟨[]⟩, 0, 1, by decide, by decide, by decide⟩, rfl, by decide⟩
  obtain ⟨loaded, hLoaded⟩ : ∃ loaded : CredentialRecord,
      loaded = CredentialRecord.empty.put "key" placeholder := ⟨_, rfl⟩
  obtain ⟨scene, hScene⟩ : ∃ scene : Scene CredentialRecord CredentialState,
      scene = ⟨.start ⟨0⟩ loaded fun _ => "1", loaded, .unissued⟩ := ⟨_, rfl⟩
  have hIssuer : renewer.issuer = manager.issuer := by rw [hRenewer]
  have hStore : renewer.store = .memory := by rw [hRenewer]
  have hStorage : scene.world.storage = loaded := by
    rw [hScene]
    rfl
  have hLoad : renewer.store.load scene.world.storage = .ok loaded := by
    rw [hStore, hStorage]
    rfl
  have hReserved : loaded.get manager.key = some placeholder := by
    rw [hLoaded, hManager]
    exact CredentialRecord.get_put_self _ _ _
  have hEntry : AccessToken.decodeStored (loaded.get manager.key) = .ok none := by
    rw [hReserved]
    rfl
  have hNamed : granted.name
      = manager.settings.tokenPrefix ++ scene.world.identifiers scene.world.drawn := by
    rw [hName, hManager, hScene]
    rfl
  have hNew : scene.world.contexts ∉ scene.world.released := by
    rw [hScene]
    exact List.not_mem_nil
  obtain ⟨t, hRun, -⟩ := exists_run_published hIssuer hLoad hEntry
    (by rw [hScene]; rfl : Scene.KeepsRecord _ scene) (by rw [hScene]) (fun _ => rfl) hNew hNamed
    (by rw [hStore]; rfl)
  obtain ⟨-, -, hCalls, hLeft⟩ :=
    tick_asks_when_needed hIssuer (hStore ▸ RecordStore.keeps_memory) hStorage hRun
  have hNeeds : manager.NeedsToken loaded scene.world.now := by
    refine .inl fun token hToken => ?_
    cases hEntry.symm.trans hToken
  have hLogsIn : ∀ wait ∈ manager.obtaining { scene with record := loaded } scene granted,
      wait.LogsIn := by
    rw [LifecycleManager.obtaining, List.forall_mem_cons, List.forall_mem_singleton]
    exact ⟨Admission.isActive_fresh hNew default, trivial⟩
  obtain ⟨record, rfl, ⟨token, hToken, -⟩ | ⟨token, hObtains, -, hReads⟩⟩ :=
    hLeft .published rfl (fun _ _ _ => ⟨_, rfl⟩) fun hUnchanged => by cases hUnchanged
  · cases hEntry.symm.trans hToken.1
  · obtain rfl := hObtains.unique (LifecycleManager.obtains_obtaining hNamed)
    exact ⟨manager, renewer, scene, t, _, token, hStorage ▸ hReserved, hRun,
      (hCalls ⟨_, hLoad⟩ hLogsIn).mpr hNeeds, hObtains, hReads hSecret⟩

end Renewer
end CredentialLease
