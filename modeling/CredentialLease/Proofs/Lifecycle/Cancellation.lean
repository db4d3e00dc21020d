import CredentialLease.Proofs.Lifecycle.TickEndings

/-!
# The control loop can be dropped at any time

A control loop sleeps and ticks in turn, until it is dropped in its sleep or in a tick (`LoopRun`). By
induction over its ticks it inherits what holds of each of them at its end: it has logged out as often
as it has logged in, no renewal is left under way, and the storage holds what the ticks that have ended
have saved, in this order. A tick that is dropped adds nothing to that, and no token that was granted is
in a tick that is dropped.

Main statement: `cancellation_is_clean`.
-/

namespace CredentialLease

variable {κ : Type}

theorem RecordStore.saving_append (store : RecordStore κ) (records more : List CredentialRecord)
    (storage : κ) :
    store.saving (records ++ more) storage = store.saving more (store.saving records storage) :=
  List.foldl_append

namespace Renewer

variable {renewer : Renewer κ CredentialState} {manager : LifecycleManager κ}
  {scene t : Scene κ CredentialState} {ticks : List (TickRun κ)}
  {waits : List (Wait (Scene κ CredentialState))}

/-! ### Reports -/

/-- Logging what a tick came to has nothing to do with logins. -/
theorem report_journal (result : Except Failure TickOutcome) (world : World κ) :
    (report result world).journal = world.journal := by
  unfold report
  split
  · rfl
  · split <;> rfl
  · rfl

theorem report_storage (result : Except Failure TickOutcome) (world : World κ) :
    (report result world).storage = world.storage := by
  unfold report
  split
  · rfl
  · split <;> rfl
  · rfl

/-! ### The ways through the loop -/

/-- **The ways through a control loop**, with its ticks. Only the last tick can be one that is
dropped. -/
inductive LoopRun (renewer : Renewer κ CredentialState) : Scene κ CredentialState →
    List (TickRun κ) → List (Wait (Scene κ CredentialState)) → Scene κ CredentialState → Prop where
  /-- No tick is left. -/
  | stopped (scene : Scene κ CredentialState) : LoopRun renewer scene [] [] scene
  /-- The loop is dropped in its sleep. -/
  | idle {scene resumed : Scene κ CredentialState} (hMeanwhile : scene.KeepsOwn resumed) :
      LoopRun renewer scene [] [⟨scene, .pause, none, resumed⟩] resumed
  /-- The loop is dropped in a tick. -/
  | interrupted {scene t : Scene κ CredentialState} {waits : List (Wait (Scene κ CredentialState))}
      (hTick : TickRun.IsRun renewer ⟨scene, waits, t, none⟩) :
      LoopRun renewer scene [⟨scene, waits, t, none⟩] waits t
  /-- The loop sleeps and then goes on. -/
  | slept {scene resumed t : Scene κ CredentialState} {ticks : List (TickRun κ)}
      {waits : List (Wait (Scene κ CredentialState))} (hMeanwhile : scene.KeepsOwn resumed)
      (hRest : LoopRun renewer resumed ticks waits t) :
      LoopRun renewer scene ticks (⟨scene, .pause, none, resumed⟩ :: waits) t
  /-- A tick ends, which is logged, and the loop goes on. -/
  | ticked {scene ended t : Scene κ CredentialState} {ticks : List (TickRun κ)}
      {first more : List (Wait (Scene κ CredentialState))} {answer : Except Failure TickOutcome}
      (hTick : TickRun.IsRun renewer ⟨scene, first, ended, some answer⟩)
      (hRest : LoopRun renewer (ended.mapWorld (report answer)) ticks more t) :
      LoopRun renewer scene (⟨scene, first, ended, some answer⟩ :: ticks) (first ++ more) t

/-- A tick and what follows it. -/
theorem exists_loopRun_of_tick
    {next : Scene κ CredentialState → Activity (Scene κ CredentialState) Unit}
    (hNext : ∀ {scene waits result}, Activity.Run Scene.KeepsOwn (next scene) waits t result →
      ∃ ticks, LoopRun renewer scene ticks waits t) {result : Option Unit}
    (h : Activity.Run Scene.KeepsOwn ((renewer.loggedTick scene).bind fun after () => next after)
      waits t result) :
    ∃ ticks, LoopRun renewer scene ticks waits t := by
  obtain ⟨rfl, hLogged⟩ | ⟨first, more, middle, _, rfl, hLogged, hRest⟩ :=
    Activity.run_bind_iff.mp h
  -- a logged tick can be dropped only in the tick itself, as its report does not wait
  · obtain ⟨-, hTick⟩ | ⟨_, _, _, _, -, -, hNever⟩ := Activity.run_bind_iff.mp hLogged
    · exact ⟨_, .interrupted hTick⟩
    · obtain ⟨-, -, hNone⟩ := Activity.run_finished_iff.mp hNever
      cases hNone
  · obtain ⟨hNone, -⟩ | ⟨_, _, ended, answer, rfl, hTick, hReported⟩ :=
      Activity.run_bind_iff.mp hLogged
    · cases hNone
    · obtain ⟨rfl, rfl, -⟩ := Activity.run_finished_iff.mp hReported
      obtain ⟨ticks, hTicks⟩ := hNext hRest
      rw [List.append_nil]
      exact ⟨_, .ticked hTick hTicks⟩

/-- **The loop goes one of these ways**, with any number of ticks. -/
theorem exists_loopRun_runFrom {n : Nat} {due : Duration} {result : Option Unit}
    (h : Activity.Run Scene.KeepsOwn (renewer.runFrom n due scene) waits t result) :
    ∃ ticks, LoopRun renewer scene ticks waits t := by
  -- induction on the number of ticks that are left; before each of them the loop may sleep
  induction n generalizing due scene waits result with
  | zero =>
    obtain ⟨rfl, rfl, -⟩ := Activity.run_finished_iff.mp h
    exact ⟨[], .stopped _⟩
  | succ n ih =>
    rw [runFrom] at h
    split at h
    · cases h with
      | answered answer => cases answer
      | alarmed hAlarm hMeanwhile hRest =>
        obtain ⟨ticks, hTicks⟩ := exists_loopRun_of_tick ih hRest
        exact ⟨ticks, .slept hMeanwhile hTicks⟩
      | dropped hMeanwhile => exact ⟨[], .idle hMeanwhile⟩
    · exact exists_loopRun_of_tick ih h

/-! ### What holds of the loop -/

namespace LoopRun

theorem forall_isRun (h : LoopRun renewer scene ticks waits t) :
    ∀ tick ∈ ticks, tick.IsRun renewer := by
  induction h with
  | stopped scene => exact List.forall_mem_nil _
  | idle hMeanwhile => exact List.forall_mem_nil _
  | interrupted hTick => exact List.forall_mem_singleton.mpr hTick
  | slept hMeanwhile _ ih => exact ih
  | ticked hTick _ ih => exact List.forall_mem_cons.mpr ⟨hTick, ih⟩

/-- **The loop leaves no renewal under way.** -/
theorem memory_ne_renewing (hIssuer : renewer.issuer = manager.issuer)
    (h : LoopRun renewer scene ticks waits t) (hStart : scene.memory ≠ .renewing) :
    t.memory ≠ .renewing := by
  induction h with
  | stopped scene => exact hStart
  | idle hMeanwhile => exact hMeanwhile.keepsMemory ▸ hStart
  | interrupted hTick => exact (hTick.clean hIssuer).settled hStart
  | slept hMeanwhile _ ih => exact ih (hMeanwhile.keepsMemory ▸ hStart)
  | ticked hTick _ ih => exact ih ((hTick.clean hIssuer).settled hStart)

/-- **The loop logs out as often as it logs in.** -/
theorem exists_balanced (hIssuer : renewer.issuer = manager.issuer)
    (h : LoopRun renewer scene ticks waits t) :
    ∃ exchanges, Balanced exchanges ∧ Exchanged scene.world waits t.world exchanges := by
  -- each tick is balanced by itself, and a sleep exchanges nothing
  induction h with
  | stopped scene => exact ⟨[], balanced_nil, (List.append_nil _).symm⟩
  | idle hMeanwhile =>
    exact ⟨[], balanced_nil, [], [], rfl, (List.append_nil _).symm, (List.append_nil _).symm⟩
  | interrupted hTick => exact (hTick.clean hIssuer).balanced
  | slept hMeanwhile _ ih =>
    obtain ⟨exchanges, hBalanced, hExchanged⟩ := ih
    exact ⟨exchanges, hBalanced, [], exchanges, rfl, (List.append_nil _).symm, hExchanged⟩
  | @ticked _ ended _ _ _ _ answer hTick _ ih =>
    obtain ⟨exchanges, hBalanced, hExchanged⟩ := (hTick.clean hIssuer).balanced
    obtain ⟨more, hMore, hRest⟩ := ih
    -- the report of the tick adds nothing
    have hReported : (ended.mapWorld (report answer)).world.journal = ended.world.journal ++ [] := by
      rw [List.append_nil]
      exact report_journal answer ended.world
    exact ⟨exchanges ++ more, hBalanced.append hMore, hExchanged.append (hRest.after hReported)⟩

/-- **The storage holds what the ticks have saved**, if others leave it alone. -/
theorem storage (hIssuer : renewer.issuer = manager.issuer)
    (h : LoopRun renewer scene ticks waits t)
    (hOthers : ∀ wait ∈ waits, wait.resumed.world.storage = wait.began.world.storage) :
    t.world.storage
      = renewer.store.saving (ticks.flatMap (TickRun.saves renewer)) scene.world.storage := by
  -- up to the end of its work a tick leaves the storage to others, and they leave it alone
  have hTickStorage {tick : TickRun κ} (hTick : tick.IsRun renewer)
      (hOthers : ∀ wait ∈ tick.waits, wait.resumed.world.storage = wait.began.world.storage) :
      tick.ended.world.storage
        = renewer.store.saving (tick.saves renewer) tick.began.world.storage := by
    obtain ⟨worked, hAlone, hStored⟩ := (hTick.clean hIssuer).stored
    have hWorked : worked.world.storage = tick.began.world.storage :=
      hAlone.kept (P := fun around => around.2.2 = tick.began.world.storage)
        (fun wait hWait hBegan => (hOthers wait hWait).trans hBegan) rfl
    rw [hStored, hWorked]
  induction h with
  | stopped scene => rfl
  | idle hMeanwhile => exact hOthers _ List.mem_cons_self
  | interrupted hTick =>
    rw [List.flatMap_singleton]
    exact hTickStorage hTick hOthers
  | slept hMeanwhile _ ih =>
    obtain ⟨hSlept, hOthers⟩ := List.forall_mem_cons.mp hOthers
    rw [ih hOthers, hSlept]
  | @ticked _ ended _ _ _ _ answer hTick _ ih =>
    obtain ⟨hFirst, hMore⟩ := List.forall_mem_append.mp hOthers
    have hReported : (ended.mapWorld (report answer)).world.storage = ended.world.storage :=
      report_storage answer ended.world
    rw [ih hMore, hReported, List.flatMap_cons, RecordStore.saving_append]
    exact congrArg _ (hTickStorage hTick hFirst)

/-- A token is accepted in a tick. -/
theorem exists_tick_of_accepts (h : LoopRun renewer scene ticks waits t)
    {wait : Wait (Scene κ CredentialState)} (hWait : wait ∈ waits) {token : AccessToken}
    (hAccepts : wait.Accepts token) : ∃ tick ∈ ticks, wait ∈ tick.waits := by
  -- a sleep asks the endpoint for nothing
  have hNotPaused {scene resumed : Scene κ CredentialState} :
      ¬ Wait.Accepts ⟨scene, .pause, none, resumed⟩ token := by
    rintro ⟨_, _, hIssue, -⟩
    cases hIssue
  induction h with
  | stopped scene => cases hWait
  | idle hMeanwhile =>
    obtain rfl := List.mem_singleton.mp hWait
    exact absurd hAccepts hNotPaused
  | interrupted hTick => exact ⟨_, List.mem_cons_self, hWait⟩
  | slept hMeanwhile _ ih =>
    obtain rfl | hWait := List.mem_cons.mp hWait
    · exact absurd hAccepts hNotPaused
    · exact ih hWait
  | ticked hTick _ ih =>
    obtain hWait | hWait := List.mem_append.mp hWait
    · exact ⟨_, List.mem_cons_self, hWait⟩
    · obtain ⟨tick, hTick, hWait⟩ := ih hWait
      exact ⟨tick, List.mem_cons_of_mem _ hTick, hWait⟩

end LoopRun

/-- **Dropping a control loop is clean**, for every provider, endpoint and store, whatever others do in
the world meanwhile, and wherever the loop or one of its ticks is dropped. Every end of a tick is clean
(`TickRun.Clean`): one that is dropped leaves the storage to others and has put nothing into its record.
So the loop leaves no renewal under way, it has logged out as often as it has logged in, and where others
leave the storage alone it holds what the ticks that have ended have saved. When the endpoint has granted
a token of the name that it was asked for, the tick is not dropped any more: it ends, with the token in
its record, and has saved that if it differs from the one that was loaded. -/
theorem cancellation_is_clean (hIssuer : renewer.issuer = manager.issuer) :
    (∀ tick : TickRun κ, tick.IsRun renewer → tick.Clean renewer manager) ∧
    ∀ (n : Nat) (scene t : Scene κ CredentialState) (waits : List (Wait (Scene κ CredentialState)))
      (result : Option Unit), Activity.Run Scene.KeepsOwn (renewer.run n scene) waits t result →
      ∃ ticks, LoopRun renewer scene ticks waits t ∧ (∀ tick ∈ ticks, tick.IsRun renewer) ∧
        (scene.memory ≠ .renewing → t.memory ≠ .renewing) ∧
        (∃ exchanges, Balanced exchanges ∧ Exchanged scene.world waits t.world exchanges) ∧
        ((∀ wait ∈ waits, wait.resumed.world.storage = wait.began.world.storage) →
          t.world.storage
            = renewer.store.saving (ticks.flatMap (TickRun.saves renewer)) scene.world.storage) ∧
        ∀ wait ∈ waits, ∀ token, wait.Accepts token →
          ∃ tick ∈ ticks, wait ∈ tick.waits ∧ tick.result ≠ none ∧
            ∃ loaded, renewer.store.load tick.began.world.storage = .ok loaded ∧
              tick.ended.record = loaded.put manager.key token.encode ∧
              tick.saves renewer = saved loaded tick.ended := by
  refine ⟨fun tick hTick => hTick.clean hIssuer, fun n scene t waits result h => ?_⟩
  obtain ⟨ticks, hLoop⟩ := exists_loopRun_runFrom h
  refine ⟨ticks, hLoop, hLoop.forall_isRun, hLoop.memory_ne_renewing hIssuer,
    hLoop.exists_balanced hIssuer, hLoop.storage hIssuer, fun wait hWait token hAccepts => ?_⟩
  obtain ⟨tick, hTick, hWait⟩ := hLoop.exists_tick_of_accepts hWait hAccepts
  obtain ⟨hEnded, loaded, hLoad, hRecord⟩ :=
    ((hLoop.forall_isRun tick hTick).clean hIssuer).accepted wait hWait token hAccepts
  obtain ⟨answer, hAnswer⟩ := Option.ne_none_iff_exists'.mp hEnded
  exact ⟨tick, hTick, hWait, hEnded, loaded, hLoad, hRecord, TickRun.saves_of_loaded hAnswer hLoad⟩

/-- A loop is dropped while a renewal waits for an endpoint that does not answer. -/
theorem cancellation_is_clean_renewing :
    ∃ (renewer : Renewer CredentialRecord CredentialState)
      (scene t : Scene CredentialRecord CredentialState)
      (waits : List (Wait (Scene CredentialRecord CredentialState))),
      Activity.Run Scene.KeepsOwn (renewer.run 1 scene) waits t none ∧
      (∃ wait ∈ waits, wait.began.memory = .renewing) ∧ t.memory ≠ .renewing ∧
      ∃ exchanges, Balanced exchanges ∧ Exchanged scene.world waits t.world exchanges := by
  obtain ⟨manager, hManager⟩ : ∃ manager : LifecycleManager CredentialRecord, manager =
      ⟨⟨none, none, .invalid, "key", "lease-", none⟩, default,
        ⟨fun _ _ => .now (.ok default), fun _ _ => .ok ()⟩⟩ := ⟨_, rfl⟩
  obtain ⟨renewer, hRenewer⟩ : ∃ renewer : Renewer CredentialRecord CredentialState,
      renewer = ⟨manager.issuer, .memory, defaultPeriod, defaultTickTimeout⟩ := ⟨_, rfl⟩
  obtain ⟨token, hToken⟩ : ∃ token : AccessToken,
      token = ⟨"lease-0", ⟨[]⟩, 0, 1000, by decide, by decide, by decide⟩ := ⟨_, rfl⟩
  obtain ⟨scene, hScene⟩ : ∃ scene : Scene CredentialRecord CredentialState,
      scene = ⟨.start ⟨0⟩ (.put .empty "key" token.encode) fun _ => "1", .empty, .issued⟩ :=
    ⟨_, rfl⟩
  obtain ⟨execution, hExecution⟩ : ∃ execution, execution = (renewer.run 1 scene).execute
      (.of manager.provider ⟨fun _ _ _ => .never⟩) (some ⟨5⟩) := ⟨_, rfl⟩
  have hEnding : (match execution.ending with | .dropped => true | _ => false) = true := by
    rw [hExecution, hRenewer, hManager, hScene, hToken]
    decide +kernel
  have hDropped : execution.ending = .dropped := by
    cases h : execution.ending with
    | dropped => rfl
    | finished value => rw [h] at hEnding; cases hEnding
    | stuck => rw [h] at hEnding; cases hEnding
  have hRenewing : (execution.requests.any fun request => request.1.memory = .renewing) = true := by
    rw [hExecution, hRenewer, hManager, hScene, hToken]
    decide +kernel
  obtain hStuck | ⟨waits, hLasts, hWaits⟩ := Activity.exists_run_of_execute
    (.of manager.provider ⟨fun _ _ _ => .never⟩) (some ⟨5⟩) (renewer.run 1 scene)
  · rw [← hExecution, hDropped] at hStuck
    cases hStuck
  rw [← hExecution] at hLasts hWaits
  rw [hDropped] at hLasts
  have hRun : Activity.Run Scene.KeepsOwn (renewer.run 1 scene) waits execution.scene none :=
    hLasts.mono fun _ _ => Scene.Lasts.keepsOwn
  have hUnderWay : ∃ wait ∈ waits, wait.began.memory = .renewing := by
    rw [hWaits, List.any_map, List.any_eq_true] at hRenewing
    obtain ⟨wait, hWait, hMemory⟩ := hRenewing
    exact ⟨wait, hWait, of_decide_eq_true hMemory⟩
  obtain ⟨ticks, -, -, hMemory, hBalanced, -⟩ :=
    (cancellation_is_clean (by rw [hRenewer] : renewer.issuer = manager.issuer)).2 1 scene _ waits
      none hRun
  exact ⟨renewer, scene, _, waits, hRun, hUnderWay, hMemory (by rw [hScene]; exact nofun), hBalanced⟩

end Renewer

end CredentialLease
