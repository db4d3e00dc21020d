import CredentialLease.Proofs.Lifecycle.Freshness
import CredentialLease.Proofs.Lifecycle.StatusFields

/-!
# The tracked state over all calls of a manager

The state that a manager tracks is the memory of the scene. While a call waits nobody else changes it
(`Scene.KeepsMemory`), since the calls of a manager do not overlap. They follow one another, each in a
scene of its own: the record, the clock and all else may have changed since the last one. Only the
tracked state is handed on, which is `unissued` at first (`Calls`). `ManagerCall.Tracks` says what one
call does to it, whether it ends with an outcome, fails or is dropped. By induction over the calls the
state is never left `renewing` and is `unissued` exactly as long as no call has met a token.

Main statement: `tracked_state`.
-/

namespace CredentialLease

variable {κ ω : Type}

/-- What nobody else does to a scene while a call waits: the memory stays as it is. -/
def Scene.KeepsMemory {μ : Type} (before after : Scene κ μ) : Prop := after.memory = before.memory

/-! ### Asking for a token -/

namespace LifecycleManager

variable {manager : LifecycleManager κ} {scene start t : Scene κ CredentialState}
  {waits : List (Wait (Scene κ CredentialState))}
  {settled : Scene κ CredentialState → Scene κ CredentialState} {outcome : String → ω}

/-- Asking for a token leaves the tracked state alone, and so do others. -/
theorem memory_of_acquire {result : Option (Except CredentialError AccessToken)}
    (h : Activity.Run Scene.KeepsMemory (manager.acquire scene) waits t result) :
    t.memory = scene.memory ∧
    ∀ wait ∈ waits, wait.began.memory = scene.memory ∧ wait.resumed.memory = scene.memory :=
  run_acquire_view (fun _ memory => memory) h

/-- **What becomes of the tracked state when a token is asked for.** It stays while the call waits.
At the end it is `issued` if a token was stored; otherwise the scene is settled. -/
theorem TrackedRun.memory {result : Option (Except CredentialError ω)}
    (h : TrackedRun Scene.KeepsMemory manager start settled outcome waits t result) :
    (∀ wait ∈ waits, wait.began.memory = start.memory ∧ wait.resumed.memory = start.memory) ∧
    ((∃ name, result = some (.ok (outcome name)) ∧ t.memory = .issued) ∨
      (∀ value, result ≠ some (.ok value)) ∧
        ∃ asked, asked.memory = start.memory ∧ t = settled asked) := by
  cases h with
  | stored message more hAsked =>
    exact ⟨(memory_of_acquire hAsked).2, .inl ⟨_, rfl, rfl⟩⟩
  | failed hAsked =>
    obtain ⟨hMemory, hWaits⟩ := memory_of_acquire hAsked
    exact ⟨hWaits, .inr ⟨nofun, _, hMemory, rfl⟩⟩
  | dropped hAsked =>
    obtain ⟨hMemory, hWaits⟩ := memory_of_acquire hAsked
    exact ⟨hWaits, .inr ⟨nofun, _, hMemory, rfl⟩⟩

end LifecycleManager

/-! ### Calls -/

/-- What a call came to, or nothing if it was dropped. -/
inductive CallResult where
  | issuing (result : Option (Except CredentialError IssueOutcome))
  | renewing (result : Option (Except CredentialError RenewOutcome))

/-- The name of the token that a call has stored, if it has. -/
def CallResult.storedName : CallResult → Option String
  | issuing (some (.ok outcome)) => outcome.storedName
  | renewing (some (.ok outcome)) => outcome.storedName
  | _ => none

/-- A call of a manager that has ended in some way. -/
structure ManagerCall (κ : Type) where
  began : Scene κ CredentialState
  waits : List (Wait (Scene κ CredentialState))
  ended : Scene κ CredentialState
  came : CallResult

namespace ManagerCall

variable (manager : LifecycleManager κ) (call : ManagerCall κ)

/-- Whether a call can go as it did. While it waits anything may happen, but no other call of the
manager. -/
def IsRun : Prop :=
  match call.came with
  | .issuing result =>
    Activity.Run Scene.KeepsMemory (manager.ensureIssued call.began) call.waits call.ended result
  | .renewing result =>
    Activity.Run Scene.KeepsMemory (manager.maybeRenew call.began) call.waits call.ended result

/-- Whether a call found a token in its record, or stored one. -/
def MeetsToken : Prop :=
  (∃ token, manager.Holds call.began.record token) ∨ call.came.storedName ≠ none

/-- Whether a call is the renewal of a token that is due. -/
def Renews (current : AccessToken) : Prop :=
  (∃ result, call.came = .renewing result) ∧ manager.Holds call.began.record current ∧
    (manager.settings.renewalWindow.decide call.began.world.now current.expiresAt).renews = true

/-- The instant at which a call last went on, or was dropped. -/
def endedAt : Instant := (Activity.wentOn call.began call.waits).world.now

/-- **What a call does to the tracked state.** -/
structure Tracks : Prop where
  /-- A renewal is not left under way. -/
  settles : call.began.memory ≠ .renewing → call.ended.memory ≠ .renewing
  unissued_iff : call.ended.memory = .unissued ↔
    call.began.memory = .unissued ∧ ¬ call.MeetsToken manager
  /-- While a renewal waits it shows. -/
  renewing : ∀ current, call.Renews manager current → ∀ wait ∈ call.waits,
    wait.began.memory = .renewing ∧ wait.resumed.memory = .renewing
  /-- Without a new token the state is what the old one deserves when the call ends. -/
  failed : ∀ current, call.Renews manager current →
    (∀ outcome, call.came ≠ .renewing (some (.ok outcome))) →
    call.ended.memory = .atExpiry current.expiresAt call.endedAt

variable {manager call}

/-- A call that meets no token and leaves the state as it was. -/
theorem Tracks.of_same (hMemory : call.ended.memory = call.began.memory)
    (hNever : ¬ call.MeetsToken manager) : call.Tracks manager where
  settles := by
    rw [hMemory]
    exact id
  unissued_iff := by
    rw [hMemory]
    exact ⟨fun h => ⟨h, hNever⟩, And.left⟩
  renewing := fun current hRenews => absurd (.inl ⟨current, hRenews.2.1⟩) hNever
  failed := fun current hRenews => absurd (.inl ⟨current, hRenews.2.1⟩) hNever

/-- A call that meets a token and leaves the state `issued` or `expired`. -/
theorem Tracks.of_met (hMet : call.MeetsToken manager)
    (hState : call.ended.memory = .issued ∨ call.ended.memory = .expired)
    (hDue : ∀ current, call.Renews manager current →
      (∀ wait ∈ call.waits, wait.began.memory = .renewing ∧ wait.resumed.memory = .renewing) ∧
      ((∀ outcome, call.came ≠ .renewing (some (.ok outcome))) →
        call.ended.memory = .atExpiry current.expiresAt call.endedAt)) :
    call.Tracks manager where
  settles := by
    intro _
    rcases hState with hState | hState <;> rw [hState] <;> decide
  unissued_iff := by
    refine ⟨fun hUnissued => ?_, fun h => absurd hMet h.2⟩
    rw [hUnissued] at hState
    rcases hState with hState | hState <;> cases hState
  renewing := fun current hRenews => (hDue current hRenews).1
  failed := fun current hRenews => (hDue current hRenews).2

end ManagerCall

/-! ### What one call does -/

namespace LifecycleManager

variable {manager : LifecycleManager κ} {scene t : Scene κ CredentialState}
  {waits : List (Wait (Scene κ CredentialState))}

/-- **What issuing does to the tracked state.** -/
theorem tracks_ensureIssued {result : Option (Except CredentialError IssueOutcome)}
    (h : Activity.Run Scene.KeepsMemory (manager.ensureIssued scene) waits t result) :
    ManagerCall.Tracks manager ⟨scene, waits, t, .issuing result⟩ := by
  have hNever (current : AccessToken) :
      ¬ ManagerCall.Renews manager ⟨scene, waits, t, .issuing result⟩ current := by
    rintro ⟨⟨_, hCame⟩, -⟩
    cases hCame
  obtain ⟨token, hHeld, -, rfl, rfl⟩ | ⟨hNone, start, -, hStart, -, hRun⟩ := ensureIssued_cases h
  · exact .of_met (.inl ⟨token, hHeld⟩) (CredentialState.atExpiry_cases _ _)
      fun current hRenews => absurd hRenews (hNever current)
  obtain ⟨name, rfl, hMemory⟩ | ⟨hFailed, asked, hMemory, rfl⟩ := hRun.memory.2
  · exact .of_met (.inr (Option.some_ne_none name)) (.inl hMemory)
      fun current hRenews => absurd hRenews (hNever current)
  · refine .of_same (hMemory.trans hStart) ?_
    rintro (⟨token, hHeld⟩ | hStored)
    · exact hNone token hHeld
    · match result with
      | none => exact hStored rfl
      | some (.error error) => exact hStored rfl
      | some (.ok outcome) => exact hFailed outcome rfl

/-- **What renewing does to the tracked state.** -/
theorem tracks_maybeRenew {result : Option (Except CredentialError RenewOutcome)}
    (h : Activity.Run Scene.KeepsMemory (manager.maybeRenew scene) waits t result) :
    ManagerCall.Tracks manager ⟨scene, waits, t, .renewing result⟩ := by
  have hAlone : Activity.Untouched Scene.surroundings scene waits t := leavesAlone_maybeRenew h
  have hNow : t.world.now = (Activity.wentOn scene waits).world.now :=
    congrArg Prod.fst hAlone.eq_wentOn
  obtain ⟨token, hHeld, ⟨hNotDue, -, rfl, rfl⟩ | ⟨-, hRun⟩⟩ | ⟨hNone, -, -, hMemory, -, rfl⟩ :=
    maybeRenew_cases h
  -- the token is not due
  · refine .of_met (.inl ⟨token, hHeld⟩) (.inl rfl) ?_
    rintro current ⟨-, hCurrent, hRenews⟩
    obtain rfl := hCurrent.unique hHeld
    rw [hNotDue] at hRenews
    cases hRenews
  -- it is due, and another one is asked for
  · obtain ⟨hWaits, ⟨name, rfl, hMemory⟩ | ⟨-, asked, -, rfl⟩⟩ := hRun.memory
    · exact .of_met (.inl ⟨token, hHeld⟩) (.inl hMemory)
        fun current _ => ⟨hWaits, fun hFailed => absurd rfl (hFailed _)⟩
    · refine .of_met (.inl ⟨token, hHeld⟩) (CredentialState.atExpiry_cases _ _) ?_
      rintro current ⟨-, hCurrent, -⟩
      obtain rfl := hCurrent.unique hHeld
      exact ⟨hWaits, fun _ => congrArg (CredentialState.atExpiry _) hNow⟩
  -- there is none
  · refine .of_same hMemory ?_
    rintro (⟨token, hHeld⟩ | hStored)
    · exact hNone token hHeld
    · exact hStored rfl

end LifecycleManager

/-! ### All calls -/

/-- **The calls that a manager has ended one after the other**, and the state that it tracks then. -/
inductive Calls (manager : LifecycleManager κ) : List (ManagerCall κ) → CredentialState → Prop where
  | nil : Calls manager [] .unissued
  | concat {calls : List (ManagerCall κ)} {state : CredentialState} {call : ManagerCall κ}
      (hCalls : Calls manager calls state) (hBegan : call.began.memory = state)
      (hRun : call.IsRun manager) : Calls manager (calls ++ [call]) call.ended.memory

/-- Every call does to the tracked state what it may. -/
theorem ManagerCall.IsRun.tracks {manager : LifecycleManager κ} {call : ManagerCall κ}
    (h : call.IsRun manager) : call.Tracks manager := by
  obtain ⟨began, waits, ended, came⟩ := call
  cases came with
  | issuing result => exact LifecycleManager.tracks_ensureIssued h
  | renewing result => exact LifecycleManager.tracks_maybeRenew h

namespace Calls

variable {manager : LifecycleManager κ} {calls : List (ManagerCall κ)} {state : CredentialState}

theorem isRun (h : Calls manager calls state) : ∀ call ∈ calls, call.IsRun manager := by
  induction h with
  | nil => exact List.forall_mem_nil _
  | concat _ _ hRun ih => exact List.forall_mem_append.mpr ⟨ih, List.forall_mem_singleton.mpr hRun⟩

/-- No call leaves a renewal under way. -/
theorem ne_renewing (h : Calls manager calls state) : state ≠ .renewing := by
  induction h with
  | nil => decide
  | concat _ hBegan hRun ih => exact hRun.tracks.settles (hBegan ▸ ih)

/-- **The state is `unissued` until a call meets a token.** -/
theorem eq_unissued_iff (h : Calls manager calls state) :
    state = .unissued ↔ ∀ call ∈ calls, ¬ call.MeetsToken manager := by
  induction h with
  | nil => simp
  | concat _ hBegan hRun ih =>
    rw [hRun.tracks.unissued_iff, hBegan, ih, List.forall_mem_append, List.forall_mem_singleton]

end Calls

/-- **What a manager tracks**, after any calls that have ended one after the other with an outcome, in
failure or by being dropped, for every provider and endpoint and whatever has become of the records
and the clock. No renewal is left under way, so the status that the manager gives of a record is the
one that the record has. The state is `unissued` exactly as long as no call has found a token in its
record or stored one. A renewal that is due shows while it waits; if it fails or is dropped, the state
at the end is `expired` if the old token expired before the instant at which that happened, and
`issued` otherwise. -/
theorem tracked_state {manager : LifecycleManager κ} {calls : List (ManagerCall κ)}
    {state : CredentialState} (h : Calls manager calls state) :
    state ≠ .renewing ∧
    (∀ record now, manager.status state record now = record.status manager.key now) ∧
    (state = .unissued ↔ ∀ call ∈ calls, ¬ call.MeetsToken manager) ∧
    ∀ call ∈ calls, ∀ current, call.Renews manager current →
      (∀ wait ∈ call.waits, wait.began.memory = .renewing ∧ wait.resumed.memory = .renewing) ∧
      ((∀ outcome, call.came ≠ .renewing (some (.ok outcome))) →
        call.ended.memory = if current.expiresAt < call.endedAt then .expired else .issued) := by
  refine ⟨h.ne_renewing, fun record now => ?_, h.eq_unissued_iff, fun call hCall current hRenews => ?_⟩
  · rw [LifecycleManager.status, if_neg h.ne_renewing]
  · have hTracks := (h.isRun call hCall).tracks
    exact ⟨hTracks.renewing current hRenews, hTracks.failed current hRenews⟩

/-- A token is issued, and its renewal is dropped while it logs in, after the token has expired. -/
theorem tracked_state_dropped :
    ∃ (manager : LifecycleManager Unit) (calls : List (ManagerCall Unit)) (state : CredentialState),
      Calls manager calls state ∧ calls.length = 2 ∧ state = .expired := by
  obtain ⟨manager, hManager⟩ : ∃ manager : LifecycleManager Unit, manager = .plain "key" .invalid :=
    ⟨_, rfl⟩
  obtain ⟨token, hName, hExpires, hSecret⟩ : ∃ token : AccessToken,
      token.name = "lease-1" ∧ token.expires = 1000 ∧ token.secret.length = 0 :=
    ⟨⟨"lease-1", ⟨[]⟩, 0, 1000, by decide, by decide, by decide⟩, rfl, rfl, rfl⟩
  have hStays (scene : Scene Unit CredentialState) : scene.KeepsMemory scene := rfl
  -- the token is issued
  obtain ⟨scene, hScene⟩ : ∃ scene : Scene Unit CredentialState,
      scene = ⟨.start ⟨0⟩ () fun _ => "1", .empty, .unissued⟩ := ⟨_, rfl⟩
  obtain ⟨waits, t, hIssued⟩ := manager.exists_run_issued hStays
    (show AccessToken.decodeStored (scene.record.get manager.key) = .ok none by
      rw [hScene, hManager]
      rfl)
    (show scene.world.contexts ∉ scene.world.released by
      rw [hScene]
      exact List.not_mem_nil)
    (show token.name = _ by
      rw [hName, hManager, hScene]
      rfl)
  -- two seconds later it is due and has expired
  obtain ⟨later, hLater⟩ : ∃ later : Scene Unit CredentialState, later =
      ⟨.start ⟨2000000000⟩ () fun _ => "2", CredentialRecord.empty.put manager.key token.encode,
        t.memory⟩ := ⟨_, rfl⟩
  have hHeld : manager.Holds later.record token := by
    rw [LifecycleManager.Holds, hLater, CredentialRecord.get_put_self]
    exact AccessToken.decodeStored_encode (by omega)
  have hDue : (manager.settings.renewalWindow.decide later.world.now token.expiresAt).renews
      = true := by
    rw [hManager, LifecycleManager.plain, RenewalWindow.decide]
    split <;> rfl
  obtain ⟨wait, hWait⟩ : ∃ wait : Wait (Scene Unit CredentialState),
      wait = ⟨{ later with memory := .renewing }, .login manager.credentials, none,
        { later with memory := .renewing }⟩ := ⟨_, rfl⟩
  obtain ⟨ended, hDropped⟩ : ∃ ended,
      Activity.Run Scene.KeepsMemory (manager.maybeRenew later) [wait] ended none := by
    rw [LifecycleManager.maybeRenew_of_due hHeld hDue, hWait]
    exact ⟨_, Activity.run_andThen_iff.mpr (.inl ⟨rfl, Activity.run_ensuring_iff.mpr
      ⟨_, run_withAuthenticatedContext_iff.mpr (.abandoned rfl), rfl⟩⟩)⟩
  have hFirst : Calls manager [⟨scene, waits, t, .issuing (some (.ok (.issued token.name)))⟩] t.memory :=
    .concat .nil (by rw [hScene]) hIssued
  have hBoth : Calls manager [⟨scene, waits, t, .issuing (some (.ok (.issued token.name)))⟩,
      ⟨later, [wait], ended, .renewing none⟩] ended.memory :=
    .concat hFirst (by rw [hLater]) hDropped
  obtain ⟨-, -, -, hRenewals⟩ := tracked_state hBoth
  obtain ⟨-, hFailed⟩ := hRenewals ⟨later, [wait], ended, .renewing none⟩
    (List.mem_cons_of_mem _ List.mem_cons_self) token ⟨⟨_, rfl⟩, hHeld, hDue⟩
  have hLate : token.expiresAt
      < ManagerCall.endedAt ⟨later, [wait], ended, .renewing none⟩ := by
    show token.expiresAt < wait.resumed.world.now
    rw [AccessToken.expiresAt, hExpires, hWait, hLater]
    show Instant.ofEpochMillis 1000 < ⟨2000000000⟩
    decide
  refine ⟨manager, _, _, hBoth, rfl, ?_⟩
  rw [hFailed fun _ h => (by cases h), if_pos hLate]

end CredentialLease
