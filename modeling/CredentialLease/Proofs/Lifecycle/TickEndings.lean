import CredentialLease.Proofs.Lifecycle.Exchanges
import CredentialLease.Proofs.Lifecycle.TrackedState

/-!
# How a tick ends, also when it is dropped

A tick can be dropped at any of its waits. `TickRun.Clean` says what holds then and at every other end:
it has logged out as often as it has logged in, no renewal is left under way, and the storage is as
others left it, up to the one save of a tick that has ended. A tick does not wait any more once the
endpoint has granted a token of the name that it was asked for: the token is put into the record and a
save is attempted before anything else can happen (`TickRun.Clean.accepted`).

Main statement: `TickRun.IsRun.clean`.
-/

namespace CredentialLease

variable {κ μ : Type}

theorem Scene.KeepsOwn.keepsRecord {before after : Scene κ μ} (h : before.KeepsOwn after) :
    before.KeepsRecord after := by
  have hSame : after = { before with world := after.world } := h
  rw [Scene.KeepsRecord, hSame]

theorem Scene.KeepsOwn.keepsMemory {before after : Scene κ μ} (h : before.KeepsOwn after) :
    before.KeepsMemory after := by
  have hSame : after = { before with world := after.world } := h
  rw [Scene.KeepsMemory, hSame]

/-- Time that passes changes nothing but the world. -/
theorem Scene.Lasts.keepsOwn {before after : Scene κ μ} (h : before.Lasts after) :
    before.KeepsOwn after := by
  obtain ⟨delay, rfl⟩ := h
  rfl

/-! ### Balanced exchanges -/

/-- **Whether there are as many logouts as logins**, of every context and in all. -/
def Balanced (exchanges : List Exchange) : Prop :=
  ∀ property, logins exchanges property = logouts exchanges property

theorem balanced_nil : Balanced [] := fun _ => rfl

theorem Balanced.append {exchanges more : List Exchange} (h : Balanced exchanges)
    (hMore : Balanced more) : Balanced (exchanges ++ more) := by
  intro property
  rw [logins_append, logouts_append, h property, hMore property]

/-- A session is balanced. -/
theorem OneSession.balanced {exchanges : List Exchange} (h : OneSession exchanges) :
    Balanced exchanges := by
  intro property
  cases h with
  | none => rfl
  | uncalled logout => cases hProperty : property logout.context <;>
      simp [logins, logouts, Exchange.logsIn, Exchange.logsOut, hProperty]
  | called logout request => cases hProperty : property logout.context <;>
      simp [logins, logouts, Exchange.logsIn, Exchange.logsOut, hProperty]

/-! ### Accepted tokens -/

/-- Whether a wait ends with a token of the name that was asked for. -/
def Wait.Accepts {σ : Type} (wait : Wait σ) (token : AccessToken) : Prop :=
  ∃ context request, wait = ⟨wait.began, .issue context request,
    some (Except.ok token : Except Failure AccessToken), wait.resumed⟩ ∧ token.name = request.name

namespace LifecycleManager

variable {manager : LifecycleManager κ} {scene t : Scene κ CredentialState}
  {meanwhile : Scene κ CredentialState → Scene κ CredentialState → Prop}
  {waits : List (Wait (Scene κ CredentialState))} {wait : Wait (Scene κ CredentialState)}
  {token : AccessToken}

/-- **A token that is granted is what comes of asking for one.** -/
theorem eq_ok_of_accepts {result : Option (Except CredentialError AccessToken)}
    (h : Activity.Run meanwhile (manager.acquire scene) waits t result) (hWait : wait ∈ waits)
    (hAccepts : wait.Accepts token) : result = some (.ok token) := by
  obtain ⟨began, _, _, wentOn⟩ := wait
  obtain ⟨context, request, hIssue, hName⟩ := hAccepts
  cases hIssue
  cases run_withAuthenticatedContext_iff.mp h with
  | abandoned hMeanwhile => cases List.mem_singleton.mp hWait
  | refused hMeanwhile => cases List.mem_singleton.mp hWait
  | acted hMeanwhile hAction =>
    obtain hLogin | hWait := List.mem_cons.mp hWait
    · cases hLogin
    cases TokenAcquirer.run_acquire_iff.mp hAction with
    | refused hReleased => cases hWait
    | dropped hActive hAsked => cases List.mem_singleton.mp hWait
    | answered answer hActive hAsked =>
      -- the call is the last wait: the context is released and the name compared without another
      cases List.mem_singleton.mp hWait
      exact congrArg some (TokenAcquirer.accept_eq_ok_iff.mpr ⟨rfl, hName⟩)

theorem StoreRun.of_accepts {ω : Type} {outcome : String → ω}
    {result : Option (Except CredentialError ω)}
    (h : StoreRun Scene.KeepsRecord manager scene outcome waits t result) (hWait : wait ∈ waits)
    (hAccepts : wait.Accepts token) :
    result = some (.ok (outcome token.name)) ∧
      t.record = scene.record.put manager.key token.encode := by
  cases h with
  | stored hAsked hRecord hWorld =>
    obtain rfl := Except.ok.inj (Option.some.inj (eq_ok_of_accepts hAsked hWait hAccepts))
    rw [hRecord, (run_acquire hAsked).1]
    exact ⟨rfl, rfl⟩
  | failed hAsked hRecord hWorld => cases eq_ok_of_accepts hAsked hWait hAccepts
  | dropped hAsked hRecord hWorld => cases eq_ok_of_accepts hAsked hWait hAccepts

end LifecycleManager

namespace Renewer

variable {renewer : Renewer κ CredentialState} {manager : LifecycleManager κ}
  {scene t : Scene κ CredentialState} {loaded : CredentialRecord}
  {waits : List (Wait (Scene κ CredentialState))} {wait : Wait (Scene κ CredentialState)}
  {token : AccessToken} {came : Option (Except CredentialError Unit)}

/-! ### The work of a tick -/

/-- A way through the work is one also where more may happen meanwhile. -/
theorem WorkRun.mono {meanwhile others : Scene κ CredentialState → Scene κ CredentialState → Prop}
    (hMore : ∀ before after, meanwhile before after → others before after)
    (h : WorkRun meanwhile renewer scene waits t came) : WorkRun others renewer scene waits t came :=
  run_work_iff.mp ((run_work_iff.mpr h).mono hMore)

/-- A token that is granted in the work of a tick is put into the record, and then the work has
succeeded. -/
theorem WorkRun.of_accepts (hIssuer : renewer.issuer = manager.issuer)
    (h : WorkRun Scene.KeepsRecord renewer scene waits t came) (hWait : wait ∈ waits)
    (hAccepts : wait.Accepts token) :
    came = some (.ok ()) ∧ t.record = scene.record.put manager.key token.encode := by
  obtain ⟨-, -, -, rfl, -⟩ | ⟨start, hStart, hRun⟩ := h.of_manager hIssuer
  · cases hWait
  · obtain ⟨hCame, hRecord⟩ := hRun.of_accepts hWait hAccepts
    rw [hStart] at hRecord
    exact ⟨hCame, hRecord⟩

/-- Work that is cut short has not changed the record. -/
theorem WorkRun.record_of_none (hIssuer : renewer.issuer = manager.issuer)
    (h : WorkRun Scene.KeepsRecord renewer scene waits t none) : t.record = scene.record := by
  obtain hSame | ⟨-, -, -, hCame⟩ := h.keeps_or_stores hIssuer
  · exact hSame
  · cases hCame

/-- **The work of a tick leaves no renewal under way.** -/
theorem WorkRun.memory_ne_renewing (hIssuer : renewer.issuer = manager.issuer)
    (h : WorkRun Scene.KeepsMemory renewer scene waits t came) (hStart : scene.memory ≠ .renewing) :
    t.memory ≠ .renewing := by
  have hIssues {waits : List (Wait (Scene κ CredentialState))} {u : Scene κ CredentialState}
      {result : Option (Except CredentialError IssueOutcome)}
      (hIssued : Activity.Run Scene.KeepsMemory (renewer.issuer.ensureIssued scene) waits u result) :
      u.memory ≠ .renewing := by
    rw [hIssuer] at hIssued
    exact (LifecycleManager.tracks_ensureIssued hIssued).settles hStart
  cases h with
  | abandoned hIssued => exact hIssues hIssued
  | failed hIssued => exact hIssues hIssued
  | issued hIssued hChanged => exact hIssues hIssued
  | renewed hIssued hKept hRenewed =>
    have hMiddle := hIssues hIssued
    rw [hIssuer] at hRenewed
    exact (LifecycleManager.tracks_maybeRenew hRenewed).settles hMiddle

end Renewer

/-! ### Ticks -/

/-- A tick that has ended in some way: with a result, or without one if it was dropped. -/
structure TickRun (κ : Type) where
  began : Scene κ CredentialState
  waits : List (Wait (Scene κ CredentialState))
  ended : Scene κ CredentialState
  result : Option (Except Failure TickOutcome)

namespace TickRun

variable {renewer : Renewer κ CredentialState} {manager : LifecycleManager κ} {tick : TickRun κ}

/-- Whether a tick can go as it did. While it waits anything may happen in the world. -/
def IsRun (renewer : Renewer κ CredentialState) (tick : TickRun κ) : Prop :=
  Activity.Run Scene.KeepsOwn (renewer.tick tick.began) tick.waits tick.ended tick.result

/-- The records that a tick saves. -/
def saves (renewer : Renewer κ CredentialState) (tick : TickRun κ) : List CredentialRecord :=
  match tick.result, renewer.store.load tick.began.world.storage with
  | some _, .ok loaded => Renewer.saved loaded tick.ended
  | _, _ => []

/-- **What holds of a tick at every end.** -/
structure Clean (renewer : Renewer κ CredentialState) (manager : LifecycleManager κ)
    (tick : TickRun κ) : Prop where
  /-- It has logged out as often as it has logged in. -/
  balanced : ∃ exchanges, Balanced exchanges ∧
    Exchanged tick.began.world tick.waits tick.ended.world exchanges
  /-- No renewal is left under way. -/
  settled : tick.began.memory ≠ .renewing → tick.ended.memory ≠ .renewing
  /-- The storage is left to others, up to what is saved at the end. -/
  stored : ∃ worked, Activity.Untouched Scene.surroundings tick.began tick.waits worked ∧
    tick.ended.world.storage = renewer.store.saving (tick.saves renewer) worked.world.storage
  /-- A tick that is dropped leaves the storage to others to the end, and has put nothing into the
  record that it had loaded. -/
  dropped : tick.result = none →
    Activity.Untouched Scene.surroundings tick.began tick.waits tick.ended ∧
      renewer.store.load tick.began.world.storage = .ok tick.ended.record
  /-- After a token was granted the tick is not dropped, and the token is in the record. -/
  accepted : ∀ wait ∈ tick.waits, ∀ token, wait.Accepts token → tick.result ≠ none ∧
    ∃ loaded, renewer.store.load tick.began.world.storage = .ok loaded ∧
      tick.ended.record = loaded.put manager.key token.encode

/-- A tick that has ended saves the record that it had loaded if that has changed. -/
theorem saves_of_loaded {answer : Except Failure TickOutcome} {loaded : CredentialRecord}
    (h : tick.result = some answer)
    (hLoad : renewer.store.load tick.began.world.storage = .ok loaded) :
    tick.saves renewer = Renewer.saved loaded tick.ended := by
  rw [saves, h, hLoad]

/-! ### Every end of a tick is clean -/

variable {began ended worked : Scene κ CredentialState} {waits : List (Wait (Scene κ CredentialState))}
  {loaded : CredentialRecord}

/-- A tick that cannot load the record does nothing. -/
theorem clean_of_load_error {failure : Failure} (hIssuer : renewer.issuer = manager.issuer)
    (hLoad : renewer.store.load tick.began.world.storage = .error failure)
    (h : tick.IsRun renewer) : tick.Clean renewer manager := by
  obtain ⟨exchanges, hOne, hExchanged⟩ := Renewer.tick_exchanged hIssuer h
  obtain ⟨began, waits, ended, result⟩ := tick
  have hRun : Activity.Run Scene.KeepsOwn (renewer.tick began) waits ended result := h
  rw [Renewer.tick_of_load_error hLoad] at hRun
  obtain ⟨rfl, rfl, rfl⟩ := Activity.run_finished_iff.mp hRun
  constructor
  case balanced => exact ⟨exchanges, hOne.balanced, hExchanged⟩
  case settled => exact id
  case stored =>
    refine ⟨ended, rfl, ?_⟩
    rw [saves, hLoad]
    rfl
  case dropped =>
    intro hNone
    cases hNone
  case accepted =>
    intro wait hWait
    cases hWait

/-- A tick that is dropped has neither saved anything nor changed the record that it had loaded. -/
theorem clean_of_dropped (hIssuer : renewer.issuer = manager.issuer)
    (hLoad : renewer.store.load began.world.storage = .ok loaded)
    (h : IsRun renewer ⟨began, waits, ended, none⟩)
    (hWork : Renewer.WorkRun Scene.KeepsOwn renewer { began with record := loaded } waits ended none) :
    Clean renewer manager ⟨began, waits, ended, none⟩ := by
  obtain ⟨exchanges, hOne, hExchanged⟩ := Renewer.tick_exchanged hIssuer h
  have hAlone := Renewer.untouched_of_dropped hIssuer hLoad h
  have hKeeps := hWork.mono fun _ _ => Scene.KeepsOwn.keepsRecord
  constructor
  case balanced => exact ⟨exchanges, hOne.balanced, hExchanged⟩
  case settled =>
    intro hBegan
    have hMemory := hWork.mono fun _ _ => Scene.KeepsOwn.keepsMemory
    exact hMemory.memory_ne_renewing hIssuer hBegan
  case stored => exact ⟨ended, hAlone, rfl⟩
  case dropped =>
    intro _
    refine ⟨hAlone, ?_⟩
    rw [hKeeps.record_of_none hIssuer]
    exact hLoad
  case accepted =>
    -- with a token that was granted the work would have come to its end
    intro wait hWait token hAccepts
    obtain ⟨hCame, -⟩ := hKeeps.of_accepts hIssuer hWait hAccepts
    cases hCame

/-- A tick that has ended has saved what its work has changed. -/
theorem clean_of_ended (hIssuer : renewer.issuer = manager.issuer)
    (hLoad : renewer.store.load began.world.storage = .ok loaded)
    {came : Option (Except CredentialError Unit)} {answer : Except Failure TickOutcome}
    (h : IsRun renewer ⟨began, waits, ended, some answer⟩)
    (hWork : Renewer.WorkRun Scene.KeepsOwn renewer { began with record := loaded } waits worked came)
    (hMemory : ended.memory = worked.memory)
    (hPublishes : Renewer.Publishes renewer loaded worked came ended answer) :
    Clean renewer manager ⟨began, waits, ended, some answer⟩ := by
  obtain ⟨exchanges, hOne, hExchanged⟩ := Renewer.tick_exchanged hIssuer h
  have hAlone : Activity.Untouched Scene.surroundings began waits worked :=
    (Renewer.leavesAlone_work hIssuer (Renewer.run_work_iff.mpr hWork)).of_eq rfl
  constructor
  case balanced => exact ⟨exchanges, hOne.balanced, hExchanged⟩
  case settled =>
    intro hBegan
    have hWorked := hWork.mono fun _ _ => Scene.KeepsOwn.keepsMemory
    rw [hMemory]
    exact hWorked.memory_ne_renewing hIssuer hBegan
  case stored =>
    refine ⟨worked, hAlone, ?_⟩
    rw [saves_of_loaded rfl hLoad, Renewer.saved, hPublishes.record]
    exact hPublishes.storage
  case dropped =>
    intro hNone
    cases hNone
  case accepted =>
    intro wait hWait token hAccepts
    obtain ⟨-, hRecord⟩ := (hWork.mono fun _ _ => Scene.KeepsOwn.keepsRecord).of_accepts hIssuer
      hWait hAccepts
    exact ⟨Option.some_ne_none _, loaded, hLoad, hPublishes.record.trans hRecord⟩

/-- **Every end of a tick is clean**, for every provider, endpoint and store, whenever it is dropped. -/
theorem IsRun.clean (hIssuer : renewer.issuer = manager.issuer) (h : tick.IsRun renewer) :
    tick.Clean renewer manager := by
  cases hLoad : renewer.store.load tick.began.world.storage with
  | error failure => exact clean_of_load_error hIssuer hLoad h
  | ok loaded =>
    obtain ⟨began, waits, ended, result⟩ := tick
    obtain ⟨rfl, hWork⟩ | ⟨worked, came, hWork, rfl, rfl⟩ := Renewer.run_tick_cases hLoad h
    · exact clean_of_dropped hIssuer hLoad h hWork
    · exact clean_of_ended hIssuer hLoad h hWork (renewer.publish_memory _ _ _)
        (Renewer.publishes_publish renewer loaded worked came)

end TickRun

end CredentialLease
