import CredentialLease.Program.Process
import CredentialLease.Proofs.Lifecycle.Failures
import CredentialLease.Proofs.Record.AtomicSaves

/-!
# What a process leaves that fails

A process exits with 2 when it refuses its configuration or its address. That happens before it asks
anyone for anything: from the first wait on, every failure of a command comes from a login, from the
service or from a file, and exits with 1. With either code the file of the record is as it was,
because it is replaced in the last step that can fail, which leaves it alone when it does. Commands
that only show something never change a file.

A save that fails may have made the directory of the record. If the path of the record goes up through
a directory that was missing, it can therefore lead to a file afterwards that it did not lead to before
(`exists_absent_record_found`), but that file stood there all the time.

Main statement: `Program.failed_process_keeps_record`.
-/

namespace CredentialLease

/-! ### Failures that come late -/

namespace Program

/-- A failure that a later try may not meet exits with 1. -/
theorem failureCode_of_retryable {error : CredentialError} (h : error.retryable = true) :
    failureCode (.credential error) = 1 := by
  cases error with
  | authentication details => rfl
  | issuance details => rfl
  | _ => cases h

end Program

/-- A record that is not loaded exits with 1. -/
theorem FileStore.failureCode_of_load {path : String} {disk : Disk} {failure : Failure}
    (h : load path disk = .error failure) : Program.failureCode failure = 1 := by
  unfold load at h
  split at h
  · cases h
  · cases h
    rfl
  · split at h
    · unfold parse at h
      split at h
      · cases h
      · split at h
        · cases h
        · cases h
          rfl
    · cases h
      rfl

/-- A record is not saved because of a file. -/
theorem FileStore.exists_error_of_save {path : String} {record : CredentialRecord}
    {disk after : Disk} {failure : Failure} (h : save path record disk = (.error failure, after)) :
    ∃ error, failure = .file error := by
  obtain ⟨error, -, hFailed⟩ | ⟨-, replaced, -, -, hFailed⟩ := save_eq h
  · exact ⟨error, Except.error.inj hFailed⟩
  · cases replaced with
    | error error => exact ⟨error, Except.error.inj hFailed⟩
    | ok done => cases hFailed

namespace LifecycleManager

variable {κ : Type} {manager : LifecycleManager κ} {scene t : Scene κ CredentialState}
  {meanwhile : Scene κ CredentialState → Scene κ CredentialState → Prop}
  {waits : List (Wait (Scene κ CredentialState))} {host : Host κ} {error : CredentialError}

/-- **Asking for a token fails so that a later try may succeed**, if logins do. -/
theorem retryable_of_acquire
    (hHost : ∀ world credentials delay (error : CredentialError),
      host world (.login credentials)
        = .after delay (Except.error error : Except CredentialError Admission) →
      error.retryable = true)
    (h : Activity.Run meanwhile (manager.acquire scene) waits t (some (.error error)))
    (hAnswered : ∀ wait ∈ waits, wait.AnsweredBy host) : error.retryable = true := by
  generalize hResult : some (Except.error error : Except CredentialError AccessToken) = result at h
  cases run_withAuthenticatedContext_iff.mp h with
  | abandoned => cases hResult
  | refused =>
    cases hResult
    obtain ⟨delay, hReply⟩ := hAnswered _ List.mem_cons_self _ rfl
    exact hHost _ _ delay _ hReply
  | acted _ hAction =>
    cases TokenAcquirer.run_acquire_iff.mp hAction with
    | refused =>
      cases hResult
      rfl
    | dropped => cases hResult
    | answered answer =>
      obtain ⟨details, rfl⟩ :=
        TokenAcquirer.exists_details_of_accept (Option.some.inj hResult).symm
      rfl

/-- A way on which a token is asked for and not stored has failed in asking. -/
theorem StoreRun.retryable {ω : Type} {outcome : String → ω}
    (hHost : ∀ world credentials delay (error : CredentialError),
      host world (.login credentials)
        = .after delay (Except.error error : Except CredentialError Admission) →
      error.retryable = true)
    (h : StoreRun meanwhile manager scene outcome waits t (some (.error error)))
    (hAnswered : ∀ wait ∈ waits, wait.AnsweredBy host) : error.retryable = true := by
  cases h with
  | failed hAsked => exact retryable_of_acquire hHost hAsked hAnswered

end LifecycleManager

/-! ### The ends of commands -/

namespace Program

variable {options : RecordOptions} {lease : LeaseOptions} {stage t : Stage} {next : Stage → Job}
  {meanwhile : Stage → Stage → Prop} {waits : List (Wait Stage)} {result : Except Failure String}
  {record : Option RecordOptions} {host : Host Disk}

/-- **Whether a failure is harmless**: it leaves the file of the record, and if it exits with 2
nobody has been asked for anything and no file is changed. -/
structure Harmless (record : Option RecordOptions) (before : Disk) (waits : List (Wait Stage))
    (after : Disk) (result : Except Failure String) : Prop where
  keeps : exitCode result ≠ 0 → ∀ options, record = some options →
    FileStore.KeepsFile options.path after.tree before.tree
  refuses : exitCode result = 2 → waits = [] ∧ after = before

/-- What changes no file is harmless if it waits for nobody. -/
theorem Harmless.of_unchanged (record : Option RecordOptions) (disk : Disk)
    (result : Except Failure String) : Harmless record disk [] disk result where
  keeps := fun _ _ _ => .refl _ _
  refuses := fun _ => ⟨rfl, rfl⟩

/-- A failure that exits with 1 is harmless if it leaves the file of the record. -/
theorem Harmless.of_kept {before after : Disk} (hCode : exitCode result = 0 ∨
      exitCode result = 1 ∧ FileStore.KeepsFile options.path after.tree before.tree) :
    Harmless (some options) before waits after result := by
  rcases hCode with hDone | ⟨hOne, hKept⟩
  · exact ⟨fun hFailed => absurd hDone hFailed, fun hTwo => by omega⟩
  · refine ⟨fun _ other hOther => ?_, fun hTwo => by omega⟩
    obtain rfl := Option.some.inj hOther
    exact hKept

theorem run_fail {failure : Failure}
    (h : Activity.Run meanwhile (fail stage failure) waits t (some result)) :
    waits = [] ∧ t = stage ∧ result = .error failure := by
  obtain ⟨hWaits, hEnd, hResult⟩ := Activity.run_finished_iff.mp h
  exact ⟨hWaits, hEnd, Option.some.inj hResult⟩

/-- **A command that loads its record** does so or exits with 1. -/
theorem run_loading
    (h : Activity.Run meanwhile (loading options stage next) waits t (some result)) :
    (waits = [] ∧ t = stage ∧ exitCode result = 1) ∨
    ∃ held, FileStore.load options.path stage.world.storage = .ok held ∧
      Activity.Run meanwhile (next { stage with record := held }) waits t (some result) := by
  unfold loading at h
  split at h
  · next held hLoad => exact .inr ⟨held, hLoad, h⟩
  · next failure hLoad =>
    obtain ⟨rfl, rfl, rfl⟩ := run_fail h
    exact .inl ⟨rfl, rfl, FileStore.failureCode_of_load hLoad⟩

/-- **A command that loads its record is harmless** if what it does then is. -/
theorem harmless_loading (hTree : stage.world.storage.tree.WellFormed)
    (hNext : ∀ start : Stage, start.world.storage.tree.WellFormed →
      Activity.Run meanwhile (next start) waits t (some result) →
      Harmless record start.world.storage waits t.world.storage result)
    (h : Activity.Run meanwhile (loading options stage next) waits t (some result)) :
    Harmless record stage.world.storage waits t.world.storage result := by
  rcases run_loading h with ⟨rfl, rfl, -⟩ | ⟨held, -, hRun⟩
  · exact .of_unchanged _ _ _
  · exact hNext { stage with record := held } hTree hRun

/-- Whether work prints something and changes no more. -/
def Prints (next : Stage → Job) : Prop :=
  ∀ stage, ∃ after text, next stage = .finished after (.ok text)

/-- **A command that saves its record last** succeeds, or exits with 1 and leaves the file. -/
theorem run_savingIf {changed : Bool} (hTree : stage.world.storage.tree.WellFormed)
    (hPrints : Prints next)
    (h : Activity.Run meanwhile (savingIf changed options stage next) waits t (some result)) :
    exitCode result = 0 ∨ exitCode result = 1 ∧
      FileStore.KeepsFile options.path t.world.storage.tree stage.world.storage.tree := by
  have hDone {stage : Stage}
      (h : Activity.Run meanwhile (next stage) waits t (some result)) : exitCode result = 0 := by
    obtain ⟨after, text, hEnd⟩ := hPrints stage
    rw [hEnd] at h
    obtain ⟨-, -, hResult⟩ := Activity.run_finished_iff.mp h
    rw [Option.some.inj hResult]
    rfl
  unfold savingIf at h
  split at h
  · unfold saving at h
    split at h
    · exact .inl (hDone h)
    · next failure disk hSave =>
      obtain ⟨-, rfl, rfl⟩ := run_fail h
      obtain ⟨error, rfl⟩ := FileStore.exists_error_of_save hSave
      exact .inr ⟨rfl, (FileStore.keepsFile_of_save_error hTree hSave).2⟩
  · exact .inl (hDone h)

/-- **A command that asks for a token and saves its record last is harmless.** While it asks it
leaves the files alone. -/
theorem harmless_call {ω : Type} {call : Activity Stage (Except CredentialError ω)}
    {rest : Stage → Except CredentialError ω → Job} (hTree : stage.world.storage.tree.WellFormed)
    (hAlone : call.LeavesAlone Scene.surroundings stage)
    (hRetryable : ∀ {waits t error}, Activity.Run Scene.Lasts call waits t (some (.error error)) →
      (∀ wait ∈ waits, wait.AnsweredBy host) → error.retryable = true)
    (hFails : ∀ stage error, rest stage (.error error) = fail stage (.credential error))
    (hSaves : ∀ stage outcome, ∃ changed next,
      rest stage (.ok outcome) = savingIf changed options stage next ∧ Prints next)
    (h : Activity.Run Scene.Lasts (call.bind rest) waits t (some result))
    (hAnswered : ∀ wait ∈ waits, wait.AnsweredBy host) :
    Harmless (some options) stage.world.storage waits t.world.storage result := by
  rcases Activity.run_bind_iff.mp h with
    ⟨hNone, -⟩ | ⟨first, second, middle, came, rfl, hCall, hRest⟩
  · cases hNone
  -- nobody else changes the files while the command waits
  have hStorage : middle.world.storage = stage.world.storage := by
    refine (hAlone hCall).kept
      (P := fun surroundings => surroundings.2.2 = stage.world.storage) ?_ rfl
    intro wait hWait hBefore
    obtain ⟨delay, hLasts⟩ := hCall.forall_meanwhile wait hWait
    rw [hLasts]
    exact hBefore
  refine .of_kept ?_
  rw [← hStorage] at hTree ⊢
  cases came with
  | error error =>
    rw [hFails] at hRest
    obtain ⟨-, rfl, rfl⟩ := run_fail hRest
    have hLate := hRetryable hCall fun wait hWait => hAnswered wait (List.mem_append_left _ hWait)
    exact .inr ⟨failureCode_of_retryable hLate, .refl _ _⟩
  | ok outcome =>
    obtain ⟨changed, next, hEnd, hPrints⟩ := hSaves middle outcome
    rw [hEnd] at hRest
    exact run_savingIf hTree hPrints hRest

/-- The host of a command answers logins from key files. -/
theorem retryable_of_login (transport : Duration → HttpTransport Disk) (command : Command)
    (world : World Disk) (credentials : LoginCredentials) (delay : Duration)
    (error : CredentialError)
    (h : hostOf transport command world (.login credentials)
      = .after delay (Except.error error : Except CredentialError Admission)) :
    error.retryable = true := by
  obtain ⟨details, rfl⟩ := KeyFile.provider_failsWithAuthentication Disk.tree world credentials delay
    error h
  rfl

/-! ### Commands -/

theorem harmless_reserve (hTree : stage.world.storage.tree.WellFormed)
    (h : Activity.Run meanwhile (reserve options stage) waits t (some result)) :
    Harmless (some options) stage.world.storage waits t.world.storage result := by
  refine harmless_loading hTree (fun start hTree hRun => ?_) h
  generalize start.record.reserve options.key = kept at hRun
  obtain ⟨record, reserved⟩ := kept
  dsimp only at hRun
  have hEnd := run_savingIf (by exact hTree) (fun _ => ⟨_, _, rfl⟩) hRun
  exact .of_kept hEnd

theorem harmless_issue {transport : Duration → HttpTransport Disk}
    (hTree : stage.world.storage.tree.WellFormed)
    (h : Activity.Run Scene.Lasts (issue options lease stage) waits t (some result))
    (hAnswered : ∀ wait ∈ waits, wait.AnsweredBy (hostOf transport (.issue options lease))) :
    Harmless (some options) stage.world.storage waits t.world.storage result := by
  unfold issue at h
  split at h
  · obtain ⟨rfl, rfl, -⟩ := run_fail h
    exact .of_unchanged _ _ _
  next manager _ =>
  refine harmless_loading hTree (fun start hTree hRun => ?_) h
  refine harmless_call hTree LifecycleManager.leavesAlone_ensureIssued ?_ (fun _ _ => rfl)
    (fun _ _ => ⟨_, _, rfl, fun _ => ⟨_, _, rfl⟩⟩) hRun hAnswered
  intro waits t error hRun hAnswered
  obtain ⟨_, -, -, -, hResult⟩ | ⟨start, -, -, hStore⟩ := LifecycleManager.run_ensureIssued hRun
  · cases hResult
  · exact hStore.retryable (retryable_of_login transport _) hAnswered

theorem harmless_renew {transport : Duration → HttpTransport Disk}
    (hTree : stage.world.storage.tree.WellFormed)
    (h : Activity.Run Scene.Lasts (renew options lease stage) waits t (some result))
    (hAnswered : ∀ wait ∈ waits, wait.AnsweredBy (hostOf transport (.renew options lease))) :
    Harmless (some options) stage.world.storage waits t.world.storage result := by
  unfold renew at h
  split at h
  · obtain ⟨rfl, rfl, -⟩ := run_fail h
    exact .of_unchanged _ _ _
  next manager _ =>
  refine harmless_loading hTree (fun start hTree hRun => ?_) h
  refine harmless_call hTree LifecycleManager.leavesAlone_maybeRenew ?_ (fun _ _ => rfl)
    (fun _ _ => ⟨_, _, rfl, fun _ => ⟨_, _, rfl⟩⟩) hRun hAnswered
  intro waits t error hRun hAnswered
  obtain ⟨_, -, -, -, -, hResult⟩ | ⟨start, decision, -, -, hStore⟩ :=
    LifecycleManager.run_maybeRenew hRun
  · cases hResult
  · exact hStore.retryable (retryable_of_login transport _) hAnswered

theorem harmless_run {ticks : Nat} {schedule : ScheduleOptions}
    (h : Activity.Run meanwhile (run ticks options lease schedule stage) waits t (some result)) :
    Harmless (some options) stage.world.storage waits t.world.storage result := by
  unfold run at h
  split at h
  · obtain ⟨rfl, rfl, -⟩ := run_fail h
    exact .of_unchanged _ _ _
  · -- once it has started it ends well
    rcases Activity.run_bind_iff.mp h with ⟨hNone, -⟩ | ⟨_, _, _, _, -, -, hRest⟩
    · cases hNone
    · obtain ⟨-, -, hResult⟩ := Activity.run_finished_iff.mp hRest
      obtain rfl := Option.some.inj hResult
      exact .of_kept (.inl rfl)

/-- **A command that only shows something** waits for nobody and changes no file. -/
theorem unchanged_of_isReadOnly {ticks : Nat} {command : Command}
    (hShows : command.isReadOnly = true)
    (h : Activity.Run meanwhile (job ticks stage command) waits t (some result)) :
    waits = [] ∧ t.world.storage = stage.world.storage := by
  cases command with
  | attach options =>
    replace h : Activity.Run meanwhile (attach options stage) waits t (some result) := h
    unfold attach at h
    rcases run_loading h with ⟨rfl, rfl, -⟩ | ⟨held, -, hRun⟩
    · exact ⟨rfl, rfl⟩
    · obtain ⟨rfl, rfl, -⟩ := Activity.run_finished_iff.mp hRun
      refine ⟨rfl, ?_⟩
      -- the report only adds a line to the log
      show (AttachOutcome.report _ _ stage.world).storage = _
      unfold AttachOutcome.report
      split
      · rfl
      · rfl
  | status options =>
    replace h : Activity.Run meanwhile (status options stage) waits t (some result) := h
    unfold status at h
    rcases run_loading h with ⟨rfl, rfl, -⟩ | ⟨held, -, hRun⟩
    · exact ⟨rfl, rfl⟩
    · obtain ⟨rfl, rfl, -⟩ := Activity.run_finished_iff.mp hRun
      exact ⟨rfl, rfl⟩
  | address options =>
    replace h : Activity.Run meanwhile (address options stage) waits t (some result) := h
    unfold address at h
    split at h
    · obtain ⟨rfl, rfl, -⟩ := run_fail h
      exact ⟨rfl, rfl⟩
    split at h
    · obtain ⟨rfl, rfl, -⟩ := run_fail h
      exact ⟨rfl, rfl⟩
    · obtain ⟨rfl, rfl, -⟩ := Activity.run_finished_iff.mp h
      exact ⟨rfl, rfl⟩
  | _ => cases hShows

/-- **Every command is harmless when it fails.** -/
theorem harmless_job {ticks : Nat} {command : Command} {transport : Duration → HttpTransport Disk}
    (hTree : stage.world.storage.tree.WellFormed)
    (h : Activity.Run Scene.Lasts (job ticks stage command) waits t (some result))
    (hAnswered : ∀ wait ∈ waits, wait.AnsweredBy (hostOf transport command)) :
    Harmless command.record? stage.world.storage waits t.world.storage result := by
  have hShows (hShows : command.isReadOnly = true) :
      Harmless command.record? stage.world.storage waits t.world.storage result := by
    obtain ⟨rfl, hSame⟩ := unchanged_of_isReadOnly hShows h
    rw [hSame]
    exact .of_unchanged _ _ _
  cases command with
  | reserve options => exact harmless_reserve hTree h
  | issue options lease => exact harmless_issue hTree h hAnswered
  | renew options lease => exact harmless_renew hTree h hAnswered
  | run options lease schedule => exact harmless_run h
  | _ => exact hShows rfl

/-! ### Processes -/

/-- **A process that fails leaves the record as it is.** If it exits with another code than 0, the
file of its record stands as it did, and one that was absent is still absent, unless the path goes up
and its directory was missing (`FileStore.KeepsFile`). If the code is 2, no file at all is changed and nobody has been
asked for anything, so that no key file is read and no request is sent. Commands that only show
something never change a file. -/
theorem failed_process_keeps_record (ticks : Nat) (transport : Duration → HttpTransport Disk)
    (environment : CommandLine.Values) (arguments : List String) (stage : Stage)
    (hTree : stage.world.storage.tree.WellFormed) {exit : Exit}
    (h : exit? ticks transport stage (start environment arguments) = some exit) :
    (exit.code ≠ 0 → ∀ line options, start environment arguments = .run line →
      line.command.record? = some options →
      FileStore.KeepsFile options.path exit.disk.tree stage.world.storage.tree) ∧
    (exit.code = 2 → exit.disk = stage.world.storage ∧ exit.requests = []) ∧
    ((∀ line, start environment arguments = .run line → line.command.isReadOnly = true) →
      exit.disk = stage.world.storage) := by
  cases hStart : start environment arguments with
  | usage error =>
    rw [hStart] at h
    obtain rfl := Option.some.inj h
    exact ⟨fun _ _ _ hLine => Start.noConfusion hLine, fun _ => ⟨rfl, rfl⟩, fun _ => rfl⟩
  | refused failure =>
    rw [hStart] at h
    obtain rfl := Option.some.inj h
    exact ⟨fun _ _ _ hLine => Start.noConfusion hLine, fun _ => ⟨rfl, rfl⟩, fun _ => rfl⟩
  | run line =>
    rw [hStart] at h
    unfold exit? at h
    dsimp only at h
    split at h
    case h_2 => cases h
    next result hEnding =>
    obtain rfl := Option.some.inj h
    rcases Activity.exists_answered_run_of_execute (hostOf transport line.command) none
        (job ticks stage line.command) with hStuck | ⟨waits, hRun, hAnswered, hRequests⟩
    · cases hStuck.symm.trans hEnding
    have hEnd : ((job ticks stage line.command).execute (hostOf transport line.command) none).ending
        = .finished result := hEnding
    rw [hEnd] at hRun
    have hHarmless := harmless_job hTree hRun hAnswered
    refine ⟨fun hFailed line' options hLine hOptions => ?_, fun hTwo => ?_, fun hShows => ?_⟩
    · obtain rfl := Start.run.inj hLine
      exact hHarmless.keeps hFailed options hOptions
    · obtain ⟨rfl, hSame⟩ := hHarmless.refuses hTwo
      refine ⟨hSame, ?_⟩
      show ((job ticks stage line.command).execute (hostOf transport line.command) none).requests.map
        (·.2) = []
      rw [hRequests]
      rfl
    · exact (unchanged_of_isReadOnly (hShows line rfl) hRun).2

/-- A process that cannot log in, and one that is given an address without a collection. -/
theorem failed_process_keeps_record_login :
    ∃ (transport : Duration → HttpTransport Disk) (stage : Stage) (arguments others : List String)
      (line : CommandLine) (options : RecordOptions) (exit other : Exit),
      stage.world.storage.tree.WellFormed ∧
      start [] arguments = .run line ∧ line.command.record? = some options ∧
      exit? 1 transport stage (start [] arguments) = some exit ∧ exit.code = 1 ∧
      exit.requests.length = 1 ∧
      FileStore.KeepsFile options.path exit.disk.tree stage.world.storage.tree ∧
      exit? 1 transport stage (start [] others) = some other ∧ other.code = 2 ∧
      other.disk = stage.world.storage ∧ other.requests = [] := by
  obtain ⟨stage, hStage⟩ : ∃ stage : Stage, stage
      = ⟨.start ⟨0⟩ ⟨(FileTree.fresh []).set ["record.json"] (.file [10]), 0, 0⟩ fun _ => "1",
        .empty, .unissued⟩ := ⟨_, rfl⟩
  obtain ⟨transport, hTransport⟩ : ∃ transport : Duration → HttpTransport Disk,
      transport = fun _ _ _ => .now (.error .unreachable) := ⟨_, rfl⟩
  have hTree : stage.world.storage.tree.WellFormed := by
    rw [hStage]
    exact FileTree.wellFormed_fresh_set _ _
  obtain ⟨line, options, exit, hLine, hOptions, hExit, hCode, hAsked⟩ : ∃ line options exit,
      start [] ["issue", "--record", "record.json", "--principal", "p", "--key-path", "key",
        "--endpoint", "h"] = .run line ∧ line.command.record? = some options ∧
      exit? 1 transport stage (start [] ["issue", "--record", "record.json", "--principal", "p",
        "--key-path", "key", "--endpoint", "h"]) = some exit ∧ exit.code = 1 ∧
      exit.requests.length = 1 := by
    rw [hStage, hTransport]
    exact ⟨_, _, _, rfl, rfl, rfl, rfl, rfl⟩
  obtain ⟨other, hOther, hRefused⟩ : ∃ other, exit? 1 transport stage
      (start [] ["address", "--target", "/"]) = some other ∧ other.code = 2 := by
    rw [hStage, hTransport]
    exact ⟨_, rfl, rfl⟩
  obtain ⟨hKeeps, -, -⟩ := failed_process_keeps_record 1 transport [] _ stage hTree hExit
  obtain ⟨-, hUnchanged, -⟩ := failed_process_keeps_record 1 transport [] _ stage hTree hOther
  obtain ⟨hDisk, hNobody⟩ := hUnchanged hRefused
  refine ⟨transport, stage, _, _, line, options, exit, other, hTree, hLine, hOptions, hExit, hCode,
    hAsked, hKeeps ?_ line options hLine hOptions, hOther, hRefused, hDisk, hNobody⟩
  rw [hCode]
  decide

/-- **A record that was absent can be there after a failure.** The path of the record goes up through a
directory that is missing. It is made before the save fails, as a directory has the name of the temporary
file, and so the path comes to lead to a file that stood there before. -/
theorem exists_absent_record_found :
    ∃ (transport : Duration → HttpTransport Disk) (stage : Stage) (line : CommandLine)
      (options : RecordOptions) (exit : Exit),
      stage.world.storage.tree.WellFormed ∧
      start [] ["reserve", "--record", "new/../a"] = .run line ∧
      line.command.record? = some options ∧ options.path = "new/../a" ∧
      exit? 1 transport stage (start [] ["reserve", "--record", "new/../a"]) = some exit ∧
      exit.code = 1 ∧
      stage.world.storage.tree.read "new/../a" = .error .notFound ∧
      exit.disk.tree.read "new/../a" = .ok (utf8 "\x7b\x7d") := by
  obtain ⟨tree, hTree⟩ : ∃ tree : FileTree, tree = ((FileTree.fresh []).set ["a"]
      (.file (utf8 "\x7b\x7d"))).set ["a.0.0.tmp"] .directory := ⟨_, rfl⟩
  obtain ⟨stage, hStage⟩ : ∃ stage : Stage,
      stage = ⟨.start ⟨0⟩ ⟨tree, 0, 0⟩ fun _ => "1", .empty, .unissued⟩ := ⟨_, rfl⟩
  have hWellFormed : stage.world.storage.tree.WellFormed := by
    have hFree : ((FileTree.fresh []).set ["a"] (.file (utf8 "\x7b\x7d"))).get
        ([] ++ ["a.0.0.tmp"]) ≠ some .directory := by
      rw [List.nil_append, FileTree.get_set_of_ne _ _ (by decide), FileTree.get_fresh]
      decide
    rw [hStage, hTree]
    exact (FileTree.wellFormed_fresh_set "a" _).set rfl hFree .directory
  obtain ⟨line, options, exit, hRun⟩ : ∃ line options exit,
      start [] ["reserve", "--record", "new/../a"] = .run line ∧
      line.command.record? = some options ∧ options.path = "new/../a" ∧
      exit? 1 (fun _ _ _ => .never) stage (start [] ["reserve", "--record", "new/../a"])
        = some exit ∧
      exit.code = 1 ∧ stage.world.storage.tree.read "new/../a" = .error .notFound ∧
      exit.disk.tree.read "new/../a" = .ok (utf8 "\x7b\x7d") := by
    rw [hStage, hTree]
    exact ⟨_, _, _, rfl, rfl, rfl, rfl, rfl, rfl, rfl⟩
  exact ⟨_, stage, line, options, exit, hWellFormed, hRun⟩

end Program

end CredentialLease
