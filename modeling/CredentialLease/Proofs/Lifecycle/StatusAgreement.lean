import CredentialLease.Issuance.HttpEndpoint
import CredentialLease.Proofs.Lifecycle.Freshness
import CredentialLease.Proofs.Lifecycle.StatusFields

/-!
# When the tracked state is the one that the record tells

The state of a credential is found in two ways: a manager tracks it, and it can be read off the entry
in the record. After a call that has found a token and kept it both tell the same. After a call that
has stored one they need not: the manager takes every token that it has stored to be in force, while
the record tells the expiry that the endpoint has granted. A service whose clock is behind may grant one
that has passed (`exists_issued_expired`).

Main statement: `agrees_of_success`.
-/

namespace CredentialLease

variable {κ : Type}

/-- A token is only left alone as long as it has not expired. -/
theorem RenewalWindow.not_lt_of_renews_eq_false {window : RenewalWindow} {now expiry : Instant}
    (h : (window.decide now expiry).renews = false) : ¬ expiry < now := by
  intro hExpired
  unfold decide at h
  rw [if_pos hExpired] at h
  cases h

namespace LifecycleManager

variable {manager : LifecycleManager κ} {scene start t : Scene κ CredentialState}
  {meanwhile : Scene κ CredentialState → Scene κ CredentialState → Prop}
  {waits : List (Wait (Scene κ CredentialState))} {token : AccessToken}

/-- **Whether the tracked state is the one that the record tells** at the same instant. -/
def Agrees (manager : LifecycleManager κ) (scene : Scene κ CredentialState) : Prop :=
  scene.memory = (scene.record.status manager.key scene.world.now).state

instance (manager : LifecycleManager κ) (scene : Scene κ CredentialState) :
    Decidable (manager.Agrees scene) :=
  inferInstanceAs (Decidable (_ = _))

/-- Whether a token of a name is stored in a scene, and the tracked state agrees with the record exactly
if that token can be read back and has not expired. -/
def AgreesInForce (manager : LifecycleManager κ) (scene : Scene κ CredentialState) (name : String) :
    Prop :=
  ∃ token : AccessToken, token.name = name ∧ scene.record.get manager.key = some token.encode ∧
    (manager.Agrees scene ↔ token.secret.length < 2 ^ 32 ∧ ¬ token.expiresAt < scene.world.now)

/-! ### What the record tells -/

/-- The state of an entry that holds a token is what the expiry of the token deserves. -/
theorem Holds.state {record : CredentialRecord} (h : manager.Holds record token) (now : Instant) :
    (record.status manager.key now).state = .atExpiry token.expiresAt now := by
  have h : AccessToken.decodeStored (record.get manager.key) = .ok (some token) := h
  rw [CredentialRecord.status, h]

/-- The stored form of a token is read as that token or not at all. -/
theorem holds_iff_of_stored {record : CredentialRecord}
    (hEntry : record.get manager.key = some token.encode) :
    manager.Holds record token ↔ token.secret.length < 2 ^ 32 := by
  rw [Holds, hEntry, AccessToken.decodeStored, AccessToken.decode_eq_ok_some_iff, capacity_four]
  exact and_iff_left token.trimmed_encode

/-- A stored form that is not read as its token leaves the entry without one. -/
theorem state_of_stored_of_le {record : CredentialRecord}
    (hEntry : record.get manager.key = some token.encode) (hLong : 2 ^ 32 ≤ token.secret.length)
    (now : Instant) : (record.status manager.key now).state = .unissued := by
  rcases record.status_cases manager.key now with ⟨other, hDecode, -⟩ | ⟨-, error, hStatus, -⟩
  · rw [hEntry, AccessToken.decodeStored, AccessToken.decode_eq_ok_some_iff, capacity_four,
      token.trimmed_encode] at hDecode
    obtain ⟨hFits, hStored⟩ := hDecode
    obtain rfl := AccessToken.encode_injective hStored
    omega
  · rw [hStatus]

/-- **When a state that is taken to be `issued` agrees with the stored form of a token.** -/
theorem agrees_iff_of_stored (hMemory : t.memory = .issued)
    (hEntry : t.record.get manager.key = some token.encode) :
    manager.Agrees t ↔ token.secret.length < 2 ^ 32 ∧ ¬ token.expiresAt < t.world.now := by
  rw [Agrees, hMemory]
  by_cases hSecret : token.secret.length < 2 ^ 32
  · rw [((holds_iff_of_stored hEntry).mpr hSecret).state, eq_comm, CredentialState.atExpiry_eq_issued_iff,
      and_iff_right hSecret]
    exact Int.not_lt.symm
  · rw [state_of_stored_of_le hEntry (Nat.not_lt.mp hSecret)]
    exact ⟨nofun, fun h => absurd h.1 hSecret⟩

/-! ### After a call -/

/-- A call that succeeds in asking for a token has stored one and taken it to be in force. -/
theorem TrackedRun.exists_stored {ω : Type} {value : ω} {outcome : String → ω}
    {settled : Scene κ CredentialState → Scene κ CredentialState}
    (h : TrackedRun meanwhile manager start settled outcome waits t (some (.ok value))) :
    ∃ token : AccessToken, value = outcome token.name ∧ t.memory = .issued ∧
      t.record.get manager.key = some token.encode := by
  cases h with
  | stored message more hAsked => exact ⟨_, rfl, rfl, CredentialRecord.get_put_self _ _ _⟩

/-- After a token was found, the tracked state agrees with the record. -/
theorem agrees_of_alreadyIssued {name : String}
    (h : Activity.Run meanwhile (manager.ensureIssued scene) waits t
      (some (.ok (.alreadyIssued name)))) : manager.Agrees t := by
  obtain ⟨token, hHeld, -, rfl, -⟩ | ⟨-, start, -, -, -, hRun⟩ := ensureIssued_cases h
  · have hSettled : manager.Holds (settle token.expiresAt scene).record token := hHeld
    rw [Agrees, hSettled.state]
    rfl
  · obtain ⟨token, hValue, -⟩ := hRun.exists_stored
    cases hValue

/-- After a token was found not to be due, the tracked state agrees with the record. -/
theorem agrees_of_notDue {decision : RenewalDecision}
    (h : Activity.Run meanwhile (manager.maybeRenew scene) waits t (some (.ok (.notDue decision)))) :
    manager.Agrees t := by
  obtain ⟨token, hHeld, ⟨hNotDue, -, rfl, -⟩ | ⟨-, hRun⟩⟩ | ⟨-, -, -, -, -, hResult⟩ := maybeRenew_cases h
  · have hKept : manager.Holds { scene with memory := CredentialState.issued }.record token := hHeld
    have hInForce : scene.world.now ≤ token.expiresAt :=
      Int.not_lt.mp (RenewalWindow.not_lt_of_renews_eq_false hNotDue)
    rw [Agrees, hKept.state, CredentialState.atExpiry_eq_issued_iff.mpr hInForce]
  · obtain ⟨token, hValue, -⟩ := hRun.exists_stored
    cases hValue
  · cases hResult

/-- After a token was issued, the tracked state agrees with the record exactly if the token can be read
back and has not expired. -/
theorem agreesInForce_of_issued {name : String}
    (h : Activity.Run meanwhile (manager.ensureIssued scene) waits t (some (.ok (.issued name)))) :
    manager.AgreesInForce t name := by
  obtain ⟨token, -, -, -, hResult⟩ | ⟨-, start, -, -, -, hRun⟩ := ensureIssued_cases h
  · cases hResult
  · obtain ⟨token, hValue, hMemory, hEntry⟩ := hRun.exists_stored
    cases hValue
    exact ⟨token, rfl, hEntry, agrees_iff_of_stored hMemory hEntry⟩

/-- The same holds after a token was renewed. -/
theorem agreesInForce_of_renewed {decision : RenewalDecision} {name : String}
    (h : Activity.Run meanwhile (manager.maybeRenew scene) waits t
      (some (.ok (.renewed decision name)))) :
    manager.AgreesInForce t name := by
  obtain ⟨_, -, ⟨-, -, -, hResult⟩ | ⟨-, hRun⟩⟩ | ⟨-, -, -, -, -, hResult⟩ := maybeRenew_cases h
  · cases hResult
  · obtain ⟨token, hValue, hMemory, hEntry⟩ := hRun.exists_stored
    cases hValue
    exact ⟨token, rfl, hEntry, agrees_iff_of_stored hMemory hEntry⟩
  · cases hResult

/-- **When the tracked state is the one that the record tells**, after every call that succeeds, for
every provider and endpoint and whatever happens while the call waits. It is after a token was found
in the record and kept. After a new one was stored it is exactly if that token can be read back from
its stored form and has not expired by the clock of the manager. -/
theorem agrees_of_success (manager : LifecycleManager κ) (scene : Scene κ CredentialState)
    (meanwhile : Scene κ CredentialState → Scene κ CredentialState → Prop)
    (waits : List (Wait (Scene κ CredentialState))) (t : Scene κ CredentialState) :
    (∀ outcome, Activity.Run meanwhile (manager.ensureIssued scene) waits t (some (.ok outcome)) →
      (outcome.storedName = none → manager.Agrees t) ∧
      ∀ name, outcome.storedName = some name → manager.AgreesInForce t name) ∧
    ∀ outcome, Activity.Run meanwhile (manager.maybeRenew scene) waits t (some (.ok outcome)) →
      outcome ≠ .nothingToRenew →
      (outcome.storedName = none → manager.Agrees t) ∧
      ∀ name, outcome.storedName = some name → manager.AgreesInForce t name := by
  constructor
  · intro outcome h
    cases outcome with
    | issued name =>
      refine ⟨nofun, fun other hOther => ?_⟩
      obtain rfl := Option.some.inj hOther
      exact agreesInForce_of_issued h
    | alreadyIssued name => exact ⟨fun _ => agrees_of_alreadyIssued h, nofun⟩
  · intro outcome h hSome
    cases outcome with
    | nothingToRenew => exact absurd rfl hSome
    | notDue decision => exact ⟨fun _ => agrees_of_notDue h, nofun⟩
    | renewed decision name =>
      refine ⟨nofun, fun other hOther => ?_⟩
      obtain rfl := Option.some.inj hOther
      exact agreesInForce_of_renewed h

/-- A token that was just issued and lasts for a second is in force by the record as well. -/
theorem agrees_of_success_issued :
    ∃ (manager : LifecycleManager Unit) (scene t : Scene Unit CredentialState)
      (waits : List (Wait (Scene Unit CredentialState))),
      Activity.Run Scene.Lasts (manager.ensureIssued scene) waits t
        (some (.ok (.issued "lease-1"))) ∧ manager.Agrees t := by
  obtain ⟨granted, hGranted⟩ : ∃ granted : AccessToken,
      granted = ⟨"lease-1", ⟨[]⟩, 0, 1000, by decide, by decide, by decide⟩ := ⟨_, rfl⟩
  obtain ⟨manager, hManager⟩ : ∃ manager : LifecycleManager Unit, manager =
      ⟨⟨none, none, .invalid, "key", "lease-", none⟩, default,
        ⟨fun _ _ => .now (.ok default), fun _ _ => .ok ()⟩⟩ := ⟨_, rfl⟩
  obtain ⟨scene, hScene⟩ : ∃ scene : Scene Unit CredentialState,
      scene = ⟨.start ⟨0⟩ () fun _ => "1", .empty, .unissued⟩ := ⟨_, rfl⟩
  obtain ⟨execution, hExecution⟩ : ∃ execution, execution = (manager.ensureIssued scene).execute
      (.of manager.provider ⟨fun _ _ _ => .now (.ok granted)⟩) none := ⟨_, rfl⟩
  have hOutcome : execution.ending.value = some (.ok (.issued "lease-1")) := by
    rw [hExecution, hManager, hScene, hGranted]
    decide +kernel
  have hNow : execution.scene.world.now = ⟨0⟩ := by
    rw [hExecution, hManager, hScene, hGranted]
    decide +kernel
  have hStored : execution.scene.record.get manager.key = some granted.encode := by
    rw [hExecution, hManager, hScene, hGranted]
    decide +kernel
  obtain hStuck | ⟨waits, hRun, -⟩ := Activity.exists_run_of_execute
    (.of manager.provider ⟨fun _ _ _ => .now (.ok granted)⟩) none (manager.ensureIssued scene)
  · rw [← hExecution] at hStuck
    rw [hStuck] at hOutcome
    cases hOutcome
  rw [← hExecution, hOutcome] at hRun
  obtain ⟨token, -, hEntry, hAgrees⟩ :=
    ((agrees_of_success manager scene Scene.Lasts waits _).1 _ hRun).2 "lease-1" rfl
  obtain rfl := AccessToken.encode_injective (Option.some.inj (hEntry.symm.trans hStored))
  refine ⟨manager, scene, _, waits, hRun, hAgrees.mpr ?_⟩
  rw [hNow, hGranted]
  decide

/-- **A token that has expired is taken to be in force.** The clock of a service is two hours behind
that of the manager, and it grants a token for one hour. The manager stores the token and tracks it as
`issued`, while by the record it has expired. -/
theorem exists_issued_expired :
    ∃ (manager : LifecycleManager Unit) (service : HttpTokenEndpoint) (transport : HttpTransport Unit)
      (scene : Scene Unit CredentialState) (execution : Execution Unit CredentialState _),
      execution = (manager.ensureIssued scene).execute
        (.of manager.provider (service.endpoint transport)) none ∧
      execution.ending.value = some (.ok (.issued "lease-1")) ∧
      execution.scene.memory = .issued ∧
      (execution.scene.record.status manager.key execution.scene.world.now).state = .expired ∧
      ¬ manager.Agrees execution.scene := by
  refine ⟨⟨⟨none, none, .invalid, "key", "lease-", none⟩, default,
      ⟨fun _ _ => .now (.ok default), fun _ _ => .ok ()⟩⟩, ⟨"http://localhost"⟩,
    fun _ _ => .now (.ok ⟨200, some (utf8
      "\x7b\"id\":\"id\",\"name\":\"lease-1\",\"api_key\":\"secret\",\"expiration\":3600000\x7d")⟩),
    ⟨.start ⟨7200000000000⟩ () fun _ => "1", .empty, .unissued⟩, _, rfl, ?_⟩
  decide +kernel

end LifecycleManager

end CredentialLease
