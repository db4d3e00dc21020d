import CredentialLease.Lifecycle.Renewer
import CredentialLease.Proofs.Activity.Run

/-!
# A tick neither loses nor invents an update

A tick works on a record that it has loaded, with any issuer. `WorkRun` lists the ways through the
work: it ends with what issuing came to, or goes on to a renewal, which it does only when issuing
has succeeded and reports that it changed nothing. What the issuer reports is believed: one that reports
no change and has made one is asked to renew all the same (`exists_renewal_after_change`). At the end of
each way, and also where the time limit cuts one short (`execute_tick`), the record is compared with the
one that was loaded. `Publishes` says what the tick does then: it saves a record that differs, once, and
its answer says whether the work and the save succeeded.

Main statement: `tick_publishes`.
-/

namespace CredentialLease

variable {κ μ α : Type}

/-- The storage after records are saved in this order, whatever comes of each save. -/
def RecordStore.saving (store : RecordStore κ) (records : List CredentialRecord) (storage : κ) : κ :=
  records.foldl (fun storage record => (store.save record storage).2) storage

@[simp] theorem RecordStore.saving_nil (store : RecordStore κ) (storage : κ) :
    store.saving [] storage = storage := rfl

@[simp] theorem RecordStore.saving_singleton (store : RecordStore κ) (record : CredentialRecord)
    (storage : κ) : store.saving [record] storage = (store.save record storage).2 := rfl

namespace Renewer

variable {renewer : Renewer κ μ} {scene ended t : Scene κ μ} {loaded : CredentialRecord}
  {meanwhile : Scene κ μ → Scene κ μ → Prop} {waits : List (Wait (Scene κ μ))}

/-! ### The work of a tick -/

/-- **The ways through the work of a tick.** -/
inductive WorkRun (meanwhile : Scene κ μ → Scene κ μ → Prop) (renewer : Renewer κ μ)
    (scene : Scene κ μ) :
    List (Wait (Scene κ μ)) → Scene κ μ → Option (Except CredentialError Unit) → Prop where
  /-- Issuing is cut short. -/
  | abandoned {waits : List (Wait (Scene κ μ))} {t : Scene κ μ}
      (hIssued : Activity.Run meanwhile (renewer.issuer.ensureIssued scene) waits t none) :
      WorkRun meanwhile renewer scene waits t none
  /-- Issuing fails, and so does the work. -/
  | failed {waits : List (Wait (Scene κ μ))} {t : Scene κ μ} {error : CredentialError}
      (hIssued : Activity.Run meanwhile (renewer.issuer.ensureIssued scene) waits t
        (some (.error error))) :
      WorkRun meanwhile renewer scene waits t (some (.error error))
  /-- Issuing reports that it has changed the record, and the work is done. -/
  | issued {waits : List (Wait (Scene κ μ))} {t : Scene κ μ} {outcome : IssueOutcome}
      (hIssued : Activity.Run meanwhile (renewer.issuer.ensureIssued scene) waits t
        (some (.ok outcome)))
      (hChanged : outcome.changedRecord = true) :
      WorkRun meanwhile renewer scene waits t (some (.ok ()))
  /-- Issuing reports that it has changed nothing, and a renewal follows it. -/
  | renewed {first second : List (Wait (Scene κ μ))} {middle t : Scene κ μ}
      {outcome : IssueOutcome} {result : Option (Except CredentialError RenewOutcome)}
      (hIssued : Activity.Run meanwhile (renewer.issuer.ensureIssued scene) first middle
        (some (.ok outcome)))
      (hKept : outcome.changedRecord = false)
      (hRenewed : Activity.Run meanwhile (renewer.issuer.maybeRenew middle) second t result) :
      WorkRun meanwhile renewer scene (first ++ second) t
        (result.map fun renewal => renewal.map fun _ => ())

/-- **The work goes one of these ways.** -/
theorem run_work_iff {result : Option (Except CredentialError Unit)} :
    Activity.Run meanwhile (renewer.work scene) waits t result
      ↔ WorkRun meanwhile renewer scene waits t result := by
  rw [work, Activity.run_andThen_iff]
  constructor
  · rintro (⟨rfl, hIssued⟩ | ⟨error, rfl, hIssued⟩ |
      ⟨first, second, middle, outcome, rfl, hIssued, hRest⟩)
    · exact .abandoned hIssued
    · exact .failed hIssued
    · cases hChanged : outcome.changedRecord with
      | true =>
        rw [if_pos hChanged] at hRest
        obtain ⟨rfl, rfl, rfl⟩ := Activity.run_finished_iff.mp hRest
        rw [List.append_nil]
        exact .issued hIssued hChanged
      | false =>
        rw [if_neg (Bool.eq_false_iff.mp hChanged)] at hRest
        obtain ⟨renewal, hRenewed, rfl⟩ := Activity.run_map_iff.mp hRest
        exact .renewed hIssued hChanged hRenewed
  · intro h
    cases h with
    | abandoned hIssued => exact .inl ⟨rfl, hIssued⟩
    | failed hIssued => exact .inr (.inl ⟨_, rfl, hIssued⟩)
    | issued hIssued hChanged =>
      refine .inr (.inr ⟨waits, [], t, _, (List.append_nil waits).symm, hIssued, ?_⟩)
      rw [if_pos hChanged]
      exact .finished t _
    | renewed hIssued hKept hRenewed =>
      refine .inr (.inr ⟨_, _, _, _, rfl, hIssued, ?_⟩)
      rw [if_neg (Bool.eq_false_iff.mp hKept)]
      exact Activity.run_map_iff.mpr ⟨_, hRenewed, rfl⟩

/-! ### What becomes of the work -/

/-- The records that are saved when work on a loaded record has ended. -/
def saved (loaded : CredentialRecord) (ended : Scene κ μ) : List CredentialRecord :=
  if ended.record = loaded then [] else [ended.record]

/-- **What a tick does with the work on a loaded record**, which ended in a scene and came to this,
or to nothing when it was cut short. -/
structure Publishes (renewer : Renewer κ μ) (loaded : CredentialRecord) (ended : Scene κ μ)
    (came : Option (Except CredentialError Unit)) (t : Scene κ μ)
    (answer : Except Failure TickOutcome) : Prop where
  record : t.record = ended.record
  /-- Saving takes no time. -/
  now : t.world.now = ended.world.now
  /-- A record that differs is saved once, also after a failure. -/
  storage : t.world.storage = renewer.store.saving (saved loaded ended) ended.world.storage
  published_iff : answer = .ok .published ↔
    came = some (.ok ()) ∧ ended.record ≠ loaded ∧
      (renewer.store.save ended.record ended.world.storage).1 = .ok ()
  unchanged_iff : answer = .ok .unchanged ↔ came = some (.ok ()) ∧ ended.record = loaded
  /-- The failure of a save comes before what the work came to. -/
  refused : ∀ failure, ended.record ≠ loaded →
    (renewer.store.save ended.record ended.world.storage).1 = .error failure →
    answer = .error failure
  failed : ∀ error, came = some (.error error) →
    (ended.record ≠ loaded → (renewer.store.save ended.record ended.world.storage).1 = .ok ()) →
    answer = .error (.credential error)
  timedOut : came = none →
    (ended.record ≠ loaded → (renewer.store.save ended.record ended.world.storage).1 = .ok ()) →
    answer
      = .error (.other s!"credential tick timed out after {renewer.tickTimeout.secondsText}s")

/-- What the work came to is kept by a tick that saves nothing, or saves successfully. -/
theorem verdict_map_eq_ok_iff {came : Option (Except CredentialError Unit)}
    {outcome expected : TickOutcome} :
    (renewer.verdict came).map (fun () => outcome) = .ok expected ↔
      came = some (.ok ()) ∧ outcome = expected := by
  match came with
  | none =>
    constructor
    · intro h
      cases h
    · rintro ⟨h, -⟩
      cases h
  | some (.error error) =>
    constructor
    · intro h
      cases h
    · rintro ⟨h, -⟩
      cases h
  | some (.ok ()) =>
    constructor
    · intro h
      exact ⟨rfl, Except.ok.inj h⟩
    · rintro ⟨-, rfl⟩
      rfl

/-- A record that is as it was loaded is not saved. -/
theorem publishes_of_eq (came : Option (Except CredentialError Unit))
    (hSame : ended.record = loaded) :
    Publishes renewer loaded ended came (renewer.publish loaded ended (renewer.verdict came)).1
      (renewer.publish loaded ended (renewer.verdict came)).2 := by
  rw [publish, if_pos hSame]
  constructor
  case record => rfl
  case now => rfl
  case storage => rw [saved, if_pos hSame, RecordStore.saving_nil]
  case published_iff =>
    rw [verdict_map_eq_ok_iff]
    constructor
    · rintro ⟨-, h⟩
      cases h
    · rintro ⟨-, hDiffers, -⟩
      exact absurd hSame hDiffers
  case unchanged_iff =>
    rw [verdict_map_eq_ok_iff]
    simp only [hSame, and_true]
  case refused => exact fun failure hDiffers => absurd hSame hDiffers
  case failed =>
    rintro error rfl -
    rfl
  case timedOut =>
    rintro rfl -
    rfl

/-- A save that fails is what the tick answers. -/
theorem publishes_of_refused (came : Option (Except CredentialError Unit)) {failure : Failure}
    {storage : κ} (hDiffers : ended.record ≠ loaded)
    (hSave : renewer.store.save ended.record ended.world.storage = (.error failure, storage)) :
    Publishes renewer loaded ended came (renewer.publish loaded ended (renewer.verdict came)).1
      (renewer.publish loaded ended (renewer.verdict came)).2 := by
  rw [publish, if_neg hDiffers, hSave]
  constructor
  case record => rfl
  case now => rfl
  case storage =>
    rw [saved, if_neg hDiffers, RecordStore.saving_singleton, hSave]
    rfl
  case published_iff =>
    rw [hSave]
    constructor
    · intro h
      cases h
    · rintro ⟨-, -, h⟩
      cases h
  case unchanged_iff =>
    constructor
    · intro h
      cases h
    · rintro ⟨-, hSame⟩
      exact absurd hSame hDiffers
  case refused =>
    intro other _ hOther
    rw [hSave] at hOther
    exact congrArg Except.error (Except.error.inj hOther)
  case failed =>
    intro error _ hSaved
    rw [hSave] at hSaved
    cases hSaved hDiffers
  case timedOut =>
    intro _ hSaved
    rw [hSave] at hSaved
    cases hSaved hDiffers

/-- A save that succeeds leaves the answer to what the work came to. -/
theorem publishes_of_saved (came : Option (Except CredentialError Unit)) {storage : κ}
    (hDiffers : ended.record ≠ loaded)
    (hSave : renewer.store.save ended.record ended.world.storage = (.ok (), storage)) :
    Publishes renewer loaded ended came (renewer.publish loaded ended (renewer.verdict came)).1
      (renewer.publish loaded ended (renewer.verdict came)).2 := by
  rw [publish, if_neg hDiffers, hSave]
  constructor
  case record => rfl
  case now => rfl
  case storage =>
    rw [saved, if_neg hDiffers, RecordStore.saving_singleton, hSave]
    rfl
  case published_iff =>
    rw [verdict_map_eq_ok_iff, hSave]
    simp only [and_true, ne_eq, hDiffers, not_false_eq_true]
  case unchanged_iff =>
    rw [verdict_map_eq_ok_iff]
    constructor
    · rintro ⟨-, h⟩
      cases h
    · rintro ⟨-, hSame⟩
      exact absurd hSame hDiffers
  case refused =>
    intro failure _ hRefused
    rw [hSave] at hRefused
    cases hRefused
  case failed =>
    rintro error rfl -
    rfl
  case timedOut =>
    rintro rfl -
    rfl

/-- **What a tick does when its work has ended**, in each case. -/
theorem publishes_publish (renewer : Renewer κ μ) (loaded : CredentialRecord) (ended : Scene κ μ)
    (came : Option (Except CredentialError Unit)) :
    Publishes renewer loaded ended came (renewer.publish loaded ended (renewer.verdict came)).1
      (renewer.publish loaded ended (renewer.verdict came)).2 := by
  by_cases hDiffers : ended.record = loaded
  · exact publishes_of_eq came hDiffers
  · match hSave : renewer.store.save ended.record ended.world.storage with
    | (.error failure, storage) => exact publishes_of_refused came hDiffers hSave
    | (.ok (), storage) => exact publishes_of_saved came hDiffers hSave

/-- Saving a record has nothing to do with the memory. -/
theorem publish_memory (renewer : Renewer κ μ) (loaded : CredentialRecord) (scene : Scene κ μ)
    (result : Except Failure Unit) :
    (renewer.publish loaded scene result).1.memory = scene.memory := by
  rw [publish]
  split
  · rfl
  · split
    · rfl
    · rfl

/-! ### Ticks -/

theorem tick_of_load_error {failure : Failure}
    (hLoad : renewer.store.load scene.world.storage = .error failure) :
    renewer.tick scene = .finished scene (.error failure) := by
  rw [tick, hLoad]

/-- A tick on a record that could be loaded is dropped while it works, or what its work came to is
published. -/
theorem run_tick_cases {result : Option (Except Failure TickOutcome)}
    (hLoad : renewer.store.load scene.world.storage = .ok loaded)
    (h : Activity.Run meanwhile (renewer.tick scene) waits t result) :
    (result = none ∧ WorkRun meanwhile renewer { scene with record := loaded } waits t none) ∨
    ∃ ended came, WorkRun meanwhile renewer { scene with record := loaded } waits ended came ∧
      t = (renewer.publish loaded ended (renewer.verdict came)).1 ∧
      result = some (renewer.publish loaded ended (renewer.verdict came)).2 := by
  rw [tick, hLoad] at h
  rcases Activity.run_bind_iff.mp h with
    ⟨rfl, hWork⟩ | ⟨first, second, ended, came, rfl, hWork, hRest⟩
  · exact .inl ⟨rfl, run_work_iff.mp (Activity.run_of_within hWork)⟩
  · obtain ⟨rfl, rfl, rfl⟩ := Activity.run_finished_iff.mp hRest
    rw [List.append_nil]
    exact .inr ⟨ended, came, run_work_iff.mp (Activity.run_of_within hWork), rfl, rfl⟩

/-- **The ways through a tick** on a record that could be loaded: it is dropped while it works, or
the work ends or is cut short and the tick does with it what it must. -/
theorem run_tick {result : Option (Except Failure TickOutcome)}
    (hLoad : renewer.store.load scene.world.storage = .ok loaded)
    (h : Activity.Run meanwhile (renewer.tick scene) waits t result) :
    (result = none ∧ WorkRun meanwhile renewer { scene with record := loaded } waits t none) ∨
    ∃ ended came answer, result = some answer ∧
      WorkRun meanwhile renewer { scene with record := loaded } waits ended came ∧
      Publishes renewer loaded ended came t answer := by
  obtain hDropped | ⟨ended, came, hWork, rfl, rfl⟩ := run_tick_cases hLoad h
  · exact .inl hDropped
  · exact .inr ⟨ended, came, _, rfl, hWork, publishes_publish renewer loaded ended came⟩

/-- **The work of a tick is dropped when its time limit has passed** since the tick began, and what it
has come to by then is published. -/
theorem execute_tick (hLoad : renewer.store.load scene.world.storage = .ok loaded) (host : Host κ)
    {worked : Execution κ μ (Except CredentialError Unit)}
    (hWorked : worked = (renewer.work { scene with record := loaded }).execute host
      (some ⟨scene.world.elapsed.nanos + renewer.tickTimeout.nanos⟩)) :
    (renewer.tick scene).execute host none =
      ⟨(renewer.publish loaded worked.scene (renewer.verdict worked.ending.value)).1,
        .finished (renewer.publish loaded worked.scene (renewer.verdict worked.ending.value)).2,
        worked.requests⟩ := by
  have hEnds := Activity.execute_ending_ne_stuck host
    ⟨scene.world.elapsed.nanos + renewer.tickTimeout.nanos⟩ (renewer.work { scene with record := loaded })
  rw [← hWorked] at hEnds
  rw [tick, hLoad]
  show Activity.execute host none (Activity.bind _ fun ended came =>
    .finished (renewer.publish loaded ended (renewer.verdict came)).1
      (renewer.publish loaded ended (renewer.verdict came)).2) = _
  rw [Activity.execute_bind_finished host none
    fun ended came => renewer.publish loaded ended (renewer.verdict came), Activity.execute_within,
    deadline, ← hWorked]
  cases hEnding : worked.ending with
  | finished value => rfl
  | dropped => rfl
  | stuck => exact absurd hEnding hEnds

/-- **A tick neither loses nor invents an update**, for every issuer, store and time limit. When the
record cannot be loaded, that is the answer and nothing else happens. When it can, what the work has
changed by its end is saved, and nothing is if the tick is dropped. Under every host the tick comes to
an answer, and its work is dropped where it has not ended when the time limit of the tick has passed. -/
theorem tick_publishes (renewer : Renewer κ μ) (scene : Scene κ μ) :
    (∀ failure, renewer.store.load scene.world.storage = .error failure →
      renewer.tick scene = .finished scene (.error failure)) ∧
    (∀ loaded, renewer.store.load scene.world.storage = .ok loaded →
      (∀ meanwhile waits t,
        (∀ answer, Activity.Run meanwhile (renewer.tick scene) waits t (some answer) →
          ∃ ended came,
            WorkRun meanwhile renewer { scene with record := loaded } waits ended came ∧
            Publishes renewer loaded ended came t answer) ∧
        (Activity.Run meanwhile (renewer.tick scene) waits t none →
          WorkRun meanwhile renewer { scene with record := loaded } waits t none)) ∧
      ∀ host, ∃ worked t answer,
        worked = (renewer.work { scene with record := loaded }).execute host
          (some ⟨scene.world.elapsed.nanos + renewer.tickTimeout.nanos⟩) ∧
        worked.ending ≠ .stuck ∧
        (renewer.tick scene).execute host none = ⟨t, .finished answer, worked.requests⟩ ∧
        Publishes renewer loaded worked.scene worked.ending.value t answer) ∧
    ∀ host, ∃ answer, ((renewer.tick scene).execute host none).ending = .finished answer := by
  refine ⟨fun failure hLoad => tick_of_load_error hLoad, ?_, ?_⟩
  · intro loaded hLoad
    refine ⟨fun meanwhile waits t => ⟨fun answer h => ?_, fun h => ?_⟩, fun host => ?_⟩
    · obtain ⟨hNone, -⟩ | ⟨ended, came, _, hAnswer, hWork, hPublishes⟩ := run_tick hLoad h
      · cases hNone
      · obtain rfl := Option.some.inj hAnswer
        exact ⟨ended, came, hWork, hPublishes⟩
    · obtain ⟨-, hWork⟩ | ⟨_, _, _, hAnswer, -⟩ := run_tick hLoad h
      · exact hWork
      · cases hAnswer
    · exact ⟨_, _, _, rfl, Activity.execute_ending_ne_stuck _ _ _, execute_tick hLoad host rfl,
        publishes_publish _ _ _ _⟩
  · intro host
    cases hLoad : renewer.store.load scene.world.storage with
    | error failure =>
      rw [tick_of_load_error hLoad]
      exact ⟨.error failure, rfl⟩
    | ok loaded =>
      rw [execute_tick hLoad host rfl]
      exact ⟨_, rfl⟩

/-- An issuer changes the record and then fails. The change is saved, and the failure is what the
tick answers. -/
theorem tick_publishes_failed :
    ∃ (renewer : Renewer CredentialRecord Unit) (scene t : Scene CredentialRecord Unit)
      (error : CredentialError),
      Activity.Run (fun _ _ => True) (renewer.tick scene) [] t (some (.error (.credential error))) ∧
      t.world.storage = scene.world.storage.put "key" "value" ∧
      scene.world.storage ≠ scene.world.storage.put "key" "value" := by
  obtain ⟨renewer, hRenewer⟩ : ∃ renewer : Renewer CredentialRecord Unit,
      renewer = ⟨⟨fun scene => .finished { scene with record := scene.record.put "key" "value" }
          (.error (.issuance "refused")), fun scene => .finished scene (.ok .nothingToRenew)⟩,
        .memory, defaultPeriod, defaultTickTimeout⟩ := ⟨_, rfl⟩
  obtain ⟨scene, hScene⟩ : ∃ scene : Scene CredentialRecord Unit,
      scene = ⟨.start ⟨0⟩ .empty fun _ => "1", .empty, ()⟩ := ⟨_, rfl⟩
  have hDiffers : scene.world.storage ≠ scene.world.storage.put "key" "value" := by
    rw [hScene]
    decide
  obtain ⟨t, hRun⟩ : ∃ t, Activity.Run (fun _ _ => True) (renewer.tick scene) [] t
      (some (.error (.credential (.issuance "refused")))) := by
    rw [hRenewer, hScene]
    exact ⟨_, .finished _ _⟩
  have hLoad : renewer.store.load scene.world.storage = .ok scene.world.storage := by
    rw [hRenewer]
    rfl
  obtain ⟨ended, came, hWork, hPublishes⟩ :=
    (((tick_publishes renewer scene).2.1 _ hLoad).1 (fun _ _ => True) [] t).1 _ hRun
  refine ⟨renewer, scene, t, _, hRun, ?_, hDiffers⟩
  -- issuing fails at once, so the work ends with the record that it has changed
  have hEnded : ended.record = scene.world.storage.put "key" "value" := by
    rw [hRenewer] at hWork
    generalize ([] : List (Wait (Scene CredentialRecord Unit))) = waits at hWork
    cases hWork with
    | abandoned hIssued => cases hIssued
    | failed hIssued =>
      cases hIssued
      rfl
    | issued hIssued => cases hIssued
    | renewed hIssued => cases hIssued
  rw [hPublishes.storage, saved, if_neg (hEnded ▸ hDiffers.symm), RecordStore.saving_singleton,
    hEnded, hRenewer]
  rfl

/-- **An issuer can change the record and report that it has not.** The renewal runs then, and what
both have changed is saved. -/
theorem exists_renewal_after_change :
    ∃ (renewer : Renewer CredentialRecord Unit) (scene middle t : Scene CredentialRecord Unit)
      (outcome : IssueOutcome),
      renewer.store.load scene.world.storage = .ok .empty ∧
      renewer.issuer.ensureIssued { scene with record := .empty } = .finished middle (.ok outcome) ∧
      outcome.changedRecord = false ∧ middle.record ≠ .empty ∧
      Activity.Run (fun _ _ => True) (renewer.tick scene) [] t (some (.ok .published)) ∧
      (∀ scene, renewer.issuer.maybeRenew scene
        = .finished { scene with record := scene.record.put "renewed" "value" }
          (.ok .nothingToRenew)) ∧
      t.world.storage.get "renewed" = some "value" := by
  refine ⟨⟨⟨fun scene => .finished { scene with record := scene.record.put "issued" "value" }
        (.ok (.alreadyIssued "name")),
      fun scene => .finished { scene with record := scene.record.put "renewed" "value" }
        (.ok .nothingToRenew)⟩, .memory, defaultPeriod, defaultTickTimeout⟩,
    ⟨.start ⟨0⟩ .empty fun _ => "1", .empty, ()⟩, _, _, _, rfl, rfl, rfl, ?_, .finished _ _,
    fun _ => rfl, rfl⟩
  decide

end Renewer

end CredentialLease
