import CredentialLease.Proofs.Lifecycle.Runs
import CredentialLease.Proofs.Record.Replacement

/-!
# A call changes its own entry or nothing

A call has the record to itself: while it waits nobody else changes it (`Scene.KeepsRecord`). Then
issuing and renewing are all or nothing on the record. If a token was stored, it is the very token
that the endpoint gave in this call, its name is the one that was asked for, and it is in the entry
of the manager while the other entries are as before. In every other case, a drop at any wait among
them, the record is as before.

Main statement: `run_allOrNothing`.
-/

namespace CredentialLease

variable {κ : Type}

/-- What nobody else does to a scene while a call waits: the record stays as it is. -/
def Scene.KeepsRecord {μ : Type} (before after : Scene κ μ) : Prop := after.record = before.record

/-- What others do to the scene of a tick: they replace its world. -/
def Scene.KeepsOwn {μ : Type} (before after : Scene κ μ) : Prop :=
  after = { before with world := after.world }

/-- The name of the token that was stored, if one was. -/
def IssueOutcome.storedName : IssueOutcome → Option String
  | issued name => some name
  | alreadyIssued _ => none

/-- The name of the token that was stored, if one was. -/
def RenewOutcome.storedName : RenewOutcome → Option String
  | renewed _ name => some name
  | _ => none

namespace LifecycleManager

variable {manager : LifecycleManager κ} {scene t : Scene κ CredentialState}
  {waits : List (Wait (Scene κ CredentialState))} {ω : Type}
  {result : Option (Except CredentialError ω)} {stored : ω → Option String} {changed : ω → Bool}

/-! ### Obtaining a token -/

/-- Whether these are the waits in which a manager obtains a token: it logs in, and is then given
the token for a name that it makes of the identifier drawn in this call. -/
def Obtains (manager : LifecycleManager κ) (waits : List (Wait (Scene κ CredentialState)))
    (token : AccessToken) : Prop :=
  ∃ (began loggedIn calling answered : Scene κ CredentialState) (admission : Admission)
    (context : AuthenticatedContext) (request : IssueRequest),
    waits = [⟨began, .login manager.credentials,
        some (Except.ok admission : Except CredentialError Admission), loggedIn⟩,
      ⟨calling, .issue context request, some (Except.ok token : Except Failure AccessToken),
        answered⟩] ∧
    request.name
      = manager.settings.tokenPrefix ++ loggedIn.world.identifiers loggedIn.world.drawn ∧
    token.name = request.name

/-- Only one token is obtained in the same waits. -/
theorem Obtains.unique {token other : AccessToken} (h : manager.Obtains waits token)
    (hOther : manager.Obtains waits other) : token = other := by
  obtain ⟨_, _, _, _, _, _, _, rfl, -, -⟩ := h
  obtain ⟨_, _, _, _, _, _, _, hSame, -, -⟩ := hOther
  cases hSame
  rfl

/-- Asking for a token leaves the record alone at every moment, and a token that comes of it was
obtained in these waits. -/
theorem run_acquire {result : Option (Except CredentialError AccessToken)}
    (h : Activity.Run Scene.KeepsRecord (manager.acquire scene) waits t result) :
    t.record = scene.record ∧
    (∀ wait ∈ waits, wait.began.record = scene.record ∧ wait.resumed.record = scene.record) ∧
    ∀ token, result = some (.ok token) → manager.Obtains waits token := by
  obtain ⟨hRecord, hWaits⟩ := run_acquire_view (fun record _ => record) h
  refine ⟨hRecord, hWaits, fun token hToken => ?_⟩
  cases run_withAuthenticatedContext_iff.mp h with
  | abandoned => cases hToken
  | refused => cases hToken
  | @acted resumed ended admission _ _ hMeanwhile hAction =>
    cases TokenAcquirer.run_acquire_iff.mp hAction with
    | refused => cases hToken
    | dropped => cases hToken
    | answered answer hActive hAsked =>
      obtain ⟨rfl, hName⟩ := TokenAcquirer.accept_eq_ok_iff.mp (Option.some.inj hToken)
      refine ⟨scene, resumed, _, ended, admission, _, _, rfl, ?_, hName⟩
      exact congrArg IssueRequest.name (manager.acquirer.nextRequest_enter admission resumed.world)

/-! ### All or nothing -/

/-- **A call is all or nothing on the record**, where `stored` tells which outcomes come with a
token of which name. -/
structure AllOrNothing (manager : LifecycleManager κ) (scene : Scene κ CredentialState)
    (waits : List (Wait (Scene κ CredentialState))) (t : Scene κ CredentialState)
    (result : Option (Except CredentialError ω)) (stored : ω → Option String)
    (changed : ω → Bool) : Prop where
  /-- Nothing happens to the record before the end. -/
  untouched : ∀ wait ∈ waits,
    wait.began.record = scene.record ∧ wait.resumed.record = scene.record
  /-- A token that was stored was obtained in this call and replaces the entry of the manager. -/
  all : ∀ outcome name, result = some (.ok outcome) → stored outcome = some name →
    ∃ token : AccessToken, manager.Obtains waits token ∧ token.name = name ∧
      t.record = scene.record.put manager.key token.encode ∧
      ∀ key, t.record.get key
        = if key = manager.key then some token.encode else scene.record.get key
  /-- Unless a token was stored, the record is as before. -/
  nothing : (∀ outcome, result = some (.ok outcome) → stored outcome = none) →
    t.record = scene.record
  /-- If the name of what was stored is fresh, the outcome tells whether the record differs. -/
  changed_iff : ∀ outcome, result = some (.ok outcome) →
    (∀ name, stored outcome = some name → scene.record.IsFresh manager.key name) →
    (changed outcome = true ↔ t.record ≠ scene.record)

/-- A call that does not wait and leaves the record alone is all or nothing. -/
theorem AllOrNothing.of_unchanged {outcome : ω} (hRecord : t.record = scene.record)
    (hStored : stored outcome = none) (hChanged : changed outcome = false) :
    AllOrNothing manager scene [] t (some (.ok outcome)) stored changed where
  untouched := by
    intro wait hWait
    cases hWait
  all := by
    intro other name hOutcome hName
    obtain rfl := Except.ok.inj (Option.some.inj hOutcome)
    rw [hStored] at hName
    cases hName
  nothing := fun _ => hRecord
  changed_iff := by
    intro other hOutcome _
    obtain rfl := Except.ok.inj (Option.some.inj hOutcome)
    rw [hChanged, hRecord]
    simp

/-- A call that asks for a token and stores it is all or nothing. -/
theorem StoreRun.allOrNothing {start : Scene κ CredentialState} {outcome : String → ω}
    (hStart : start.record = scene.record) (hStored : ∀ name, stored (outcome name) = some name)
    (hChanged : ∀ name, changed (outcome name) = true)
    (h : StoreRun Scene.KeepsRecord manager start outcome waits t result) :
    AllOrNothing manager scene waits t result stored changed := by
  cases h with
  | stored hAsked hRecord hWorld =>
    obtain ⟨hSame, hWaits, hObtains⟩ := run_acquire hAsked
    rw [hSame, hStart] at hRecord
    rw [hStart] at hWaits
    refine ⟨hWaits, ?_, ?_, ?_⟩
    · intro other name hOutcome hName
      obtain rfl := Except.ok.inj (Option.some.inj hOutcome)
      obtain rfl := Option.some.inj ((hStored _).symm.trans hName)
      refine ⟨_, hObtains _ rfl, rfl, hRecord, fun key => ?_⟩
      rw [hRecord, CredentialRecord.get_put]
    -- a token was stored, so this case does not arise
    · intro hNothing
      have hNone := hNothing _ rfl
      rw [hStored] at hNone
      cases hNone
    · intro other hOutcome hFresh
      obtain rfl := Except.ok.inj (Option.some.inj hOutcome)
      refine ⟨fun _ => ?_, fun _ => hChanged _⟩
      rw [hRecord]
      exact CredentialRecord.put_encode_ne (hFresh _ (hStored _))
  | failed hAsked hRecord hWorld =>
    obtain ⟨hSame, hWaits, -⟩ := run_acquire hAsked
    rw [hStart] at hSame hWaits
    refine ⟨hWaits, ?_, fun _ => hRecord.trans hSame, ?_⟩
    · intro other name hOutcome
      cases hOutcome
    · intro other hOutcome
      cases hOutcome
  | dropped hAsked hRecord hWorld =>
    obtain ⟨hSame, hWaits, -⟩ := run_acquire hAsked
    rw [hStart] at hSame hWaits
    refine ⟨hWaits, ?_, fun _ => hRecord.trans hSame, ?_⟩
    · intro other name hOutcome
      cases hOutcome
    · intro other hOutcome
      cases hOutcome

/-- Issuing is all or nothing. -/
theorem ensureIssued_allOrNothing {result : Option (Except CredentialError IssueOutcome)}
    (h : Activity.Run Scene.KeepsRecord (manager.ensureIssued scene) waits t result) :
    AllOrNothing manager scene waits t result IssueOutcome.storedName
      IssueOutcome.changedRecord := by
  rcases run_ensureIssued h with ⟨token, rfl, hRecord, -, rfl⟩ | ⟨start, hStart, -, hRun⟩
  · exact .of_unchanged hRecord rfl rfl
  · exact hRun.allOrNothing hStart (fun _ => rfl) (fun _ => rfl)

/-- Renewing is all or nothing. -/
theorem maybeRenew_allOrNothing {result : Option (Except CredentialError RenewOutcome)}
    (h : Activity.Run Scene.KeepsRecord (manager.maybeRenew scene) waits t result) :
    AllOrNothing manager scene waits t result RenewOutcome.storedName
      RenewOutcome.changedRecord := by
  rcases run_maybeRenew h with
    ⟨outcome, hOutcome, rfl, hRecord, -, rfl⟩ | ⟨start, decision, hStart, -, hRun⟩
  · have hStored : outcome.storedName = none := by
      cases outcome with
      | nothingToRenew => rfl
      | notDue decision => rfl
      | renewed decision name => cases hOutcome
    exact .of_unchanged hRecord hStored hOutcome
  · exact hRun.allOrNothing hStart (fun _ => rfl) (fun _ => rfl)

/-- **Issuing and renewing are all or nothing on the record**, for every provider and endpoint,
wherever the call is dropped, and under every time limit. -/
theorem run_allOrNothing (manager : LifecycleManager κ) (scene : Scene κ CredentialState) :
    (∀ waits t result,
      Activity.Run Scene.KeepsRecord (manager.ensureIssued scene) waits t result →
      AllOrNothing manager scene waits t result IssueOutcome.storedName
        IssueOutcome.changedRecord) ∧
    (∀ waits t result,
      Activity.Run Scene.KeepsRecord (manager.maybeRenew scene) waits t result →
      AllOrNothing manager scene waits t result RenewOutcome.storedName
        RenewOutcome.changedRecord) ∧
    (∀ limit waits t result,
      Activity.Run Scene.KeepsRecord ((manager.ensureIssued scene).within limit) waits t result →
      AllOrNothing manager scene waits t result.join IssueOutcome.storedName
        IssueOutcome.changedRecord) ∧
    ∀ limit waits t result,
      Activity.Run Scene.KeepsRecord ((manager.maybeRenew scene).within limit) waits t result →
      AllOrNothing manager scene waits t result.join RenewOutcome.storedName
        RenewOutcome.changedRecord := by
  refine ⟨?_, ?_, ?_, ?_⟩
  · intro waits t result h
    exact ensureIssued_allOrNothing h
  · intro waits t result h
    exact maybeRenew_allOrNothing h
  · intro limit waits t result h
    exact ensureIssued_allOrNothing (Activity.run_of_within h)
  · intro limit waits t result h
    exact maybeRenew_allOrNothing (Activity.run_of_within h)

/-- A first token is issued into an empty record, and under an invalid renewal window it is renewed
at once. Both calls change the record. -/
theorem run_allOrNothing_changes :
    ∃ (manager : LifecycleManager Unit) (scene later : Scene Unit CredentialState),
      (∃ waits t, Activity.Run Scene.KeepsRecord (manager.ensureIssued scene) waits t
        (some (.ok (.issued "lease-1"))) ∧ t.record ≠ scene.record) ∧
      ∃ waits t decision, Activity.Run Scene.KeepsRecord (manager.maybeRenew later) waits t
        (some (.ok (.renewed decision "lease-2"))) ∧ t.record ≠ later.record := by
  obtain ⟨manager, hManager⟩ : ∃ manager : LifecycleManager Unit,
      manager = ⟨⟨none, none, .invalid, "key", "lease-", none⟩, default,
        ⟨fun _ _ => .never, fun _ _ => .ok ()⟩⟩ := ⟨_, rfl⟩
  obtain ⟨first, hFirst⟩ : ∃ token : AccessToken, token.name = "lease-1" ∧
      token.secret.length < Bytes.capacity 4 :=
    ⟨⟨"lease-1", ⟨[115]⟩, 1, 2, by decide, by decide, by decide⟩, rfl, by decide⟩
  obtain ⟨second, hSecond⟩ : ∃ token : AccessToken, token.name = "lease-2" :=
    ⟨⟨"lease-2", ⟨[116]⟩, 1, 2, by decide, by decide, by decide⟩, rfl⟩
  obtain ⟨scene, hScene⟩ : ∃ scene : Scene Unit CredentialState,
      scene = ⟨.start ⟨0⟩ () fun _ => "1", .empty, .unissued⟩ := ⟨_, rfl⟩
  obtain ⟨later, hLater⟩ : ∃ later : Scene Unit CredentialState,
      later = ⟨.start ⟨0⟩ () fun _ => "2", CredentialRecord.empty.put "key" first.encode, .issued⟩ :=
    ⟨_, rfl⟩
  have hHeld : AccessToken.decodeStored (later.record.get manager.key) = .ok (some first) := by
    rw [hLater, hManager, key, CredentialRecord.get_put_self,
      AccessToken.decodeStored]
    exact AccessToken.decode_eq_ok_some_iff.mpr ⟨hFirst.2, first.trimmed_encode⟩
  have hEmpty : AccessToken.decodeStored (scene.record.get manager.key) = .ok none := by
    rw [hScene, hManager]
    rfl
  have hDue : (manager.settings.renewalWindow.decide later.world.now first.expiresAt).renews
      = true := by
    rw [hManager, RenewalWindow.decide]
    split <;> rfl
  have hFreshFirst : scene.record.IsFresh manager.key "lease-1" := by
    rw [CredentialRecord.IsFresh, hEmpty]
    exact trivial
  have hFreshSecond : later.record.IsFresh manager.key "lease-2" := by
    rw [CredentialRecord.IsFresh, hHeld]
    dsimp only
    rw [hFirst.1]
    decide
  have hStays (scene : Scene Unit CredentialState) : scene.KeepsRecord scene := rfl
  refine ⟨manager, scene, later, ?_, ?_⟩
  · obtain ⟨waits, t, hRun⟩ := manager.exists_run_issued hStays hEmpty
      (show scene.world.contexts ∉ scene.world.released by rw [hScene]; exact List.not_mem_nil)
      (show first.name = _ by rw [hFirst.1, hManager, hScene]; rfl)
    rw [hFirst.1] at hRun
    have hAll := (run_allOrNothing manager scene).1 waits t _ hRun
    refine ⟨waits, t, hRun, (hAll.changed_iff _ rfl ?_).mp rfl⟩
    intro name hName
    obtain rfl := Option.some.inj hName
    exact hFreshFirst
  · obtain ⟨waits, t, decision, hRun⟩ := manager.exists_run_renewed hStays hHeld hDue
      (show later.world.contexts ∉ later.world.released by rw [hLater]; exact List.not_mem_nil)
      (show second.name = _ by rw [hSecond, hManager, hLater]; rfl)
    rw [hSecond] at hRun
    have hAll := (run_allOrNothing manager later).2.1 waits t _ hRun
    refine ⟨waits, t, decision, hRun, (hAll.changed_iff _ rfl ?_).mp rfl⟩
    intro name hName
    obtain rfl := Option.some.inj hName
    exact hFreshSecond

end LifecycleManager

end CredentialLease
