import CredentialLease.Program.Process
import CredentialLease.Proofs.FileTree.Shapes
import CredentialLease.Proofs.Lifecycle.Secrecy
import CredentialLease.Proofs.Program.Validation
import CredentialLease.Proofs.Record.FileKeeping

/-!
# Stored secrets stay hidden

Two disks hold records that differ in the secret of one token and are otherwise the same to a
command: the same places are taken, the same temporary files will be named, and the key file of the
lease reads the same. A transport knows requests and not disks. Then nobody who watches a command
from outside can tell which of the disks it works on: what it prints, its exit code, the log lines
that it writes and what it sends to the service are the same. Only a worker shows a fingerprint of
what it finds, which is all that differs in what `attach` prints.

The work of a command is an activity on each of the disks. The two are alike as long as they wait,
and in the end the storages do not matter any more (`JobsAlike`). Saving writes different files, but
comes to the same, since paths are resolved by what is where and not by what it holds.

Main statement: `Program.stored_secrets_stay_hidden`.
-/

namespace CredentialLease

/-! ### Saving -/

/-- **Whether two disks are the same to a command** that logs in with a key file, if it does. -/
structure Disk.Alike (keyPath : Option String) (disk other : Disk) : Prop where
  shape : disk.tree.SameShape other.tree
  process : disk.process = other.process
  temporaries : disk.temporaries = other.temporaries
  keyFile : ∀ path, keyPath = some path → disk.tree.read path = other.tree.read path

namespace FileStore

variable {keyPath : Option String} {disk other : Disk}

theorem makeParent_alike (h : disk.tree.SameShape other.tree) (path : String) :
    (makeParent disk.tree path).1 = (makeParent other.tree path).1 ∧
    (makeParent disk.tree path).2.SameShape (makeParent other.tree path).2 := by
  exact h.makeDirectories _

theorem replace_alike {tree another : FileTree} (h : tree.SameShape another)
    (temporary path : String) (contents others : Bytes) :
    (replace tree temporary path contents none).1
      = (replace another temporary path others none).1 := by
  have hWritten := h.write temporary contents others
  rw [replace, replace, FileTree.writeWithin_none, FileTree.writeWithin_none]
  generalize tree.write temporary contents = first at hWritten ⊢
  generalize another.write temporary others = second at hWritten ⊢
  cases hWritten with
  | error error => rfl
  | ok hWritten =>
    -- the trees after the writes differ in what the temporary file holds, not in shape
    have hMoved := hWritten.moveFile temporary path
    dsimp only
    generalize FileTree.moveFile _ _ _ = first at hMoved ⊢
    generalize FileTree.moveFile _ _ _ = second at hMoved ⊢
    cases hMoved with
    | error error => rfl
    | ok _ => rfl

/-- **Saving comes to the same** on disks that are alike, whatever is saved. -/
theorem save_alike (h : disk.Alike keyPath other) (path : String)
    (record another : CredentialRecord) :
    (save path record disk).1 = (save path another other).1 := by
  have hTemporary : temporaryPath path disk = temporaryPath path other := by
    unfold temporaryPath
    rw [h.process, h.temporaries]
  obtain ⟨hResult, hParent⟩ := makeParent_alike h.shape path
  unfold save
  dsimp only
  rw [hTemporary]
  generalize makeParent disk.tree path = first at hResult hParent ⊢
  generalize makeParent other.tree path = second at hResult hParent ⊢
  obtain ⟨result, tree⟩ := first
  obtain ⟨other, others⟩ := second
  obtain rfl : result = other := hResult
  cases result with
  | error error => rfl
  | ok done => exact congrArg (Except.mapError Failure.file) (replace_alike hParent _ _ _ _)

end FileStore

/-! ### Asking -/

/-- A login reads nothing but the key file. -/
theorem KeyFile.login_congr {tree another : FileTree} {credentials : LoginCredentials}
    (h : tree.read credentials.keyPath = another.read credentials.keyPath) :
    login tree credentials = login another credentials := by
  unfold login readMaterial
  rw [h]

/-- **The transport is given nothing but what is sent.** -/
theorem HttpTokenEndpoint.issue_congr {κ : Type} {service : HttpTokenEndpoint}
    {transport other : HttpTransport κ} {world another : World κ} {context : AuthenticatedContext}
    {request : IssueRequest} (hNow : world.now = another.now)
    (hReleased : world.released = another.released)
    (hSent : ∀ sent, service.sent? world context request = some sent →
      transport world sent = other another sent) :
    (service.endpoint transport).issue world context request
      = (service.endpoint other).issue another context request := by
  have hActive : context.ensureActive world = context.ensureActive another := by
    unfold AuthenticatedContext.ensureActive AuthenticatedContext.isReleased
    rw [hReleased]
  unfold sent? at hSent
  unfold endpoint
  dsimp only
  rw [hActive] at hSent ⊢
  cases hState : context.ensureActive another with
  | error error => rfl
  | ok done =>
    cases hRequest : service.request context.identity request with
    | error failure => rfl
    | ok asked =>
      rw [hState, hRequest] at hSent
      dsimp only
      rw [hSent asked rfl, hNow]

namespace Program

variable {options : RecordOptions} {lease : LeaseOptions} {command : Command}
  {transport : Duration → HttpTransport Disk} {keyPath : Option String}

/-- What a command may ask for: a login with the key file of its lease, or a token. -/
def MayAsk (keyPath : Option String) : Request → Prop
  | .login credentials => keyPath = some credentials.keyPath
  | _ => True

/-- A manager logs in with the provider of the program and the key file of its lease. -/
theorem managerOf_eq_ok {manager : LifecycleManager Disk}
    (h : managerOf options lease = .ok manager) :
    manager.provider = provider ∧ lease.keyPath = some manager.credentials.keyPath := by
  obtain ⟨-, credentials, hCredentials, rfl⟩ := managerOf_eq_ok_iff.mp h
  exact ⟨rfl, LeaseSettings.keyPath_of_loginCredentials hCredentials⟩

/-- Whether a transport knows nothing of disks. -/
def IgnoresDisks (transport : Duration → HttpTransport Disk) : Prop :=
  ∀ limit (world : World Disk) disk request,
    transport limit (world.withStorage disk) request = transport limit world request

/-- **The host of a command answers alike** on disks that are the same to it. -/
theorem hostOf_alike (hTransport : IgnoresDisks transport) {stage other : Stage} {request : Request}
    (h : stage.Alike (Disk.Alike keyPath) other) (hAsks : MayAsk keyPath request) :
    hostOf transport command stage.world request
      = hostOf transport command other.world request := by
  cases h with
  | @intro world disk record read memory hDisks hRecord =>
    cases request with
    | login credentials =>
      exact congrArg (fun login => Reply.now (login.map Admission.fresh))
        (KeyFile.login_congr (hDisks.keyFile _ hAsks))
    | issue context request =>
      show (endpointOf transport command).issue world context request
        = (endpointOf transport command).issue (world.withStorage disk) context request
      unfold endpointOf
      split
      · rfl
      split
      · exact HttpTokenEndpoint.issue_congr rfl rfl fun sent _ => (hTransport _ _ _ _).symm
      · rfl
    | pause => rfl

/-! ### Jobs -/

/-- **Whether two results are the same failure, or texts that are related.** -/
inductive ResultsAlike (T : String → String → Prop) :
    Except Failure String → Except Failure String → Prop where
  | error (failure : Failure) : ResultsAlike T (.error failure) (.error failure)
  | ok {text other : String} (h : T text other) : ResultsAlike T (.ok text) (.ok other)

/-- **Whether the work of two commands is alike**: as long as they wait, the disks are the same to
them, and in the end they differ in nothing but the disks, records that are read alike, and what is
printed. -/
abbrev JobsAlike (keyPath : Option String) (T : String → String → Prop) (first second : Job) :
    Prop :=
  Activity.Alike (MayAsk keyPath) (Scene.Alike (Disk.Alike keyPath))
    (fun s value t other => s.Alike (fun _ _ => True) t ∧ ResultsAlike T value other) first second

/-- **Whether two stages hold records at a path that are read alike**, and are otherwise the same to
a command. -/
structure StagesAlike (path : String) (keyPath : Option String) (stage other : Stage) : Prop where
  scene : stage.Alike (Disk.Alike keyPath) other
  load : ∃ first second : CredentialRecord, first.Alike second ∧
    FileStore.load path stage.world.storage = .ok first ∧
    FileStore.load path other.world.storage = .ok second

variable {T : String → String → Prop} {stage other : Stage}

/-- Stages that are alike are so on any disks. -/
theorem alike_anyDisk {S : Disk → Disk → Prop} (h : stage.Alike S other) :
    stage.Alike (fun _ _ => True) other := by
  cases h with
  | intro world memory hDisks hRecord => exact .intro world memory trivial hRecord

theorem alike_fail (failure : Failure) (h : stage.Alike (fun _ _ => True) other) :
    JobsAlike keyPath T (fail stage failure) (fail other failure) := .finished ⟨h, .error failure⟩

/-- **Commands that load alike records are alike** if they go on alike. -/
theorem alike_loading {next next' : Stage → Job} (h : StagesAlike options.path keyPath stage other)
    (hNext : ∀ {stage other}, stage.Alike (Disk.Alike keyPath) other →
      JobsAlike keyPath T (next stage) (next' other)) :
    JobsAlike keyPath T (loading options stage next) (loading options other next') := by
  obtain ⟨hScene, first, second, hRecord, hFirst, hSecond⟩ := h
  unfold loading
  rw [hFirst, hSecond]
  cases hScene with
  | intro world memory hDisks _ => exact hNext (.intro world memory hDisks hRecord)

/-- **Commands that save alike records are alike**, although they write different files. -/
theorem alike_savingIf (changed : Bool) {next next' : Stage → Job}
    (h : stage.Alike (Disk.Alike keyPath) other)
    (hNext : ∀ {stage other}, stage.Alike (fun _ _ => True) other →
      JobsAlike keyPath T (next stage) (next' other)) :
    JobsAlike keyPath T (savingIf changed options stage next)
      (savingIf changed options other next') := by
  unfold savingIf
  split
  case isFalse => exact hNext (alike_anyDisk h)
  -- the disks are not the same to the command any more, but it asks for nothing after it saves
  have hSaved : (FileStore.save options.path stage.record stage.world.storage).1
      = (FileStore.save options.path other.record other.world.storage).1 := by
    cases h with
    | intro world memory hDisks hRecord => exact FileStore.save_alike hDisks _ _ _
  have hAfter (disk disk' : Disk) :
      (stage.mapWorld fun world => { world with storage := disk }).Alike (fun _ _ => True)
        (other.mapWorld fun world => { world with storage := disk' }) := by
    cases h with
    | intro world memory hDisks hRecord =>
      exact .intro (world.withStorage disk) memory trivial hRecord
  unfold saving
  generalize FileStore.save options.path stage.record stage.world.storage = first at hSaved ⊢
  generalize FileStore.save options.path other.record other.world.storage = second at hSaved ⊢
  obtain ⟨result, disk⟩ := first
  obtain ⟨another, disk'⟩ := second
  obtain rfl : result = another := hSaved
  cases result with
  | ok done => exact hNext (hAfter disk disk')
  | error failure => exact alike_fail failure (hAfter disk disk')

/-! ### Commands -/

theorem alike_status (h : StagesAlike options.path keyPath stage other) :
    JobsAlike keyPath Eq (status options stage) (status options other) := by
  refine alike_loading h fun hBoth => .finished ⟨alike_anyDisk hBoth, ?_⟩
  cases hBoth with
  | @intro world disk record read memory _ hRecord =>
    refine .ok ?_
    show shown (record.status options.key world.now).toJson
      = shown (read.status options.key world.now).toJson
    rw [hRecord.status]

/-- The status that a manager gives is the same. -/
theorem status_alike (manager : LifecycleManager Disk) {S : Disk → Disk → Prop}
    (h : stage.Alike S other) :
    manager.status stage.memory stage.record stage.world.now
      = manager.status other.memory other.record other.world.now := by
  cases h with
  | @intro world disk record read memory _ hRecord =>
    show manager.status memory record world.now = manager.status memory read world.now
    unfold LifecycleManager.status
    rw [hRecord.status]

/-- **A command that asks for a token is alike** if its call is, and so is what it does with a
token. -/
theorem alike_call {ω : Type} {manager : LifecycleManager Disk}
    {call another : Activity Stage (Except CredentialError ω)}
    {rest : Stage → Except CredentialError ω → Job}
    (hKey : lease.keyPath = some manager.credentials.keyPath)
    (hCall : manager.CallsAlike (Disk.Alike lease.keyPath) call another)
    (hFails : ∀ stage error, rest stage (.error error) = fail stage (.credential error))
    (hRest : ∀ outcome {stage other}, stage.Alike (Disk.Alike lease.keyPath) other →
      JobsAlike lease.keyPath Eq (rest stage (.ok outcome)) (rest other (.ok outcome))) :
    JobsAlike lease.keyPath Eq (call.bind rest) (another.bind rest) := by
  have hAsks (request : Request) (h : manager.MayAsk request) : MayAsk lease.keyPath request := by
    cases request with
    | login credentials =>
      obtain rfl : credentials = manager.credentials := h
      exact hKey
    | issue context request => trivial
    | pause => trivial
  refine (hCall.mono hAsks).bind ?_
  rintro stage result other _ ⟨hBoth, rfl⟩
  cases result with
  | error error =>
    rw [hFails, hFails]
    exact alike_fail _ (alike_anyDisk hBoth)
  | ok outcome => exact hRest outcome hBoth

/-- The provider of the program has nothing to do at a logout. -/
theorem logsOutAlike {manager : LifecycleManager Disk} (h : managerOf options lease = .ok manager)
    (S : Disk → Disk → Prop) : manager.provider.LogsOutAlike S := by
  rw [(managerOf_eq_ok h).1]
  exact fun _ _ _ _ => rfl

theorem alike_issue (h : StagesAlike options.path lease.keyPath stage other) :
    JobsAlike lease.keyPath Eq (issue options lease stage) (issue options lease other) := by
  unfold issue
  split
  · exact alike_fail _ (alike_anyDisk h.scene)
  next manager hManager =>
  refine alike_loading h fun hBoth => ?_
  refine alike_call (managerOf_eq_ok hManager).2
    (LifecycleManager.alike_ensureIssued (logsOutAlike hManager _) hBoth) (fun _ _ => rfl)
    fun outcome _ _ hCalled => alike_savingIf _ hCalled fun hSaved => .finished ⟨hSaved, .ok ?_⟩
  rw [status_alike manager hSaved]

theorem alike_renew (h : StagesAlike options.path lease.keyPath stage other) :
    JobsAlike lease.keyPath Eq (renew options lease stage) (renew options lease other) := by
  unfold renew
  split
  · exact alike_fail _ (alike_anyDisk h.scene)
  next manager hManager =>
  refine alike_loading h fun hBoth => ?_
  refine alike_call (managerOf_eq_ok hManager).2
    (LifecycleManager.alike_maybeRenew (logsOutAlike hManager _) hBoth) (fun _ _ => rfl)
    fun outcome _ _ hCalled => alike_savingIf _ hCalled fun hSaved => .finished ⟨hSaved, .ok ?_⟩
  rw [status_alike manager hSaved]

/-- **Whether two texts are the same, or show objects that differ in a fingerprint alone.** -/
inductive SameButFingerprint : String → String → Prop where
  | same (text : String) : SameButFingerprint text text
  | shown (before after : List (String × Json.Value)) (fingerprint other : String) :
      SameButFingerprint
        (shown (.object (before ++ ("fingerprint", .text fingerprint) :: after)))
        (shown (.object (before ++ ("fingerprint", .text other) :: after)))

/-- Workers that find tokens which differ only in a secret show different fingerprints. -/
theorem attachmentJson_alike {first second : AttachOutcome} (h : first.Alike second) :
    SameButFingerprint (shown (attachmentJson first)) (shown (attachmentJson second)) := by
  cases h with
  | noToken => exact .same _
  | unusable error => exact .same _
  | @bound token other hSame =>
    unfold attachmentJson
    dsimp only
    rw [hSame.expires, hSame.name]
    exact .shown [("bound", .bool true), ("expires_at_ms", .integer other.expires.toNat)]
      [("token_name", .text other.name)] token.fingerprint other.fingerprint

/-- The same is written to the log of what they find. -/
theorem report_alike {S : Disk → Disk → Prop} {first second : AttachOutcome} (key : String)
    (hFound : first.Alike second) (h : stage.Alike S other) :
    (stage.mapWorld (first.report key)).Alike S (other.mapWorld (second.report key)) := by
  cases hFound with
  | bound hSame => exact h
  | noToken => exact h
  | unusable error =>
    cases h with
    | intro world memory hDisks hRecord =>
      exact .intro ((AttachOutcome.unusable error).report key world) memory hDisks hRecord

theorem alike_attach (h : StagesAlike options.path keyPath stage other) :
    JobsAlike keyPath SameButFingerprint (attach options stage) (attach options other) := by
  refine alike_loading h fun {stage other} hBoth => ?_
  have hFound : ((WorkerCredentials.ofKey options.key).attach stage.record).2.Alike
      ((WorkerCredentials.ofKey options.key).attach other.record).2 := by
    cases hBoth with
    | intro world memory hDisks hRecord => exact WorkerCredentials.attach_alike hRecord _
  exact .finished ⟨report_alike options.key hFound (alike_anyDisk hBoth),
    .ok (attachmentJson_alike hFound)⟩

/-! ### Observations -/

/-- **Whether two observations differ in nothing but what is printed**, which `T` relates. -/
structure Observation.SameBut (T : String → String → Prop) (first second : Observation) : Prop where
  printed : T first.printed second.printed
  code : first.code = second.code
  lines : first.lines = second.lines
  sent : first.sent = second.sent

theorem Observation.SameBut.eq {first second : Observation} (h : first.SameBut Eq second) :
    first = second := by
  obtain ⟨hPrinted, hCode, hLines, hSent⟩ := h
  cases first
  cases second
  simp only at hPrinted hCode hLines hSent
  subst hPrinted hCode hLines hSent
  rfl

/-- What is sent does not depend on disks and records. -/
theorem sent?_alike {S : Disk → Disk → Prop} (h : stage.Alike S other) (command : Command)
    (request : Request) : sent? command stage request = sent? command other request := by
  cases h
  rfl

theorem filterMap_sent?_alike {S : Disk → Disk → Prop} (command : Command)
    {requests others : List (Stage × Request)}
    (h : List.Forall₂ (fun asked other => asked.1.Alike S other.1 ∧ asked.2 = other.2)
      requests others) :
    requests.filterMap (fun (stage, request) => sent? command stage request)
      = others.filterMap fun (stage, request) => sent? command stage request := by
  induction h with
  | nil => rfl
  | @cons asked other _ _ hHead _ ih =>
    have hSent : sent? command asked.1 asked.2 = sent? command other.1 other.2 := by
      rw [hHead.2, sent?_alike hHead.1]
    rw [List.filterMap_cons, List.filterMap_cons, ih]
    dsimp only
    rw [hSent]

/-- **Executions that are alike look the same**, but for what they print. -/
theorem ofExecution_alike (hT : ∀ text, T text text) (line : CommandLine)
    {first second : Execution Disk CredentialState (Except Failure String)}
    (h : first.Alike (Scene.Alike (Disk.Alike keyPath))
      (fun s value t other => s.Alike (fun _ _ => True) t ∧ ResultsAlike T value other) second) :
    (Observation.ofExecution line first).SameBut T (.ofExecution line second) := by
  have hSent := filterMap_sent?_alike line.command h.requests
  have hLog {S : Disk → Disk → Prop} {s t : Stage} (h : s.Alike S t) :
      s.world.log = t.world.log := by
    cases h
    rfl
  unfold Observation.ofExecution
  rw [hSent]
  obtain ⟨value, other, hFirst, hSecond, hScene, hValues⟩ | ⟨hFirst, hSecond, hScene⟩ |
    ⟨hFirst, hSecond, hScene⟩ := h.ending
  · rw [hFirst, hSecond, hLog hScene]
    cases hValues with
    | error failure => exact ⟨hT _, rfl, rfl, rfl⟩
    | ok hTexts => exact ⟨hTexts, rfl, rfl, rfl⟩
  · rw [hFirst, hSecond, hLog hScene]
    exact ⟨hT _, rfl, rfl, rfl⟩
  · rw [hFirst, hSecond, hLog hScene]
    exact ⟨hT _, rfl, rfl, rfl⟩

variable {ticks : Nat} {line : CommandLine}

/-- **Commands whose work is alike look the same**, but for what they print. -/
theorem observe_alike (hTransport : IgnoresDisks transport)
    (hT : ∀ text, T text text)
    (h : JobsAlike keyPath T (job ticks stage line.command) (job ticks other line.command)) :
    (observe ticks transport line stage).SameBut T (observe ticks transport line other) :=
  ofExecution_alike hT line (h.execute (fun hBoth hAsks => hostOf_alike hTransport hBoth hAsks)
    Scene.Alike.elapsed (fun delay hBoth => hBoth.lasts delay) none)

/-! ### Two runs -/

/-- The path of the key file that a command logs in with, if it does. -/
def keyPathOf (command : Command) : Option String := (leaseOf command).bind LeaseOptions.keyPath

/-- **Whether a command tells nothing of an entry but its status**: it shows that status, or issues a
token for the entry or renews the one in it, and shows the status then. -/
inductive Tells (options : RecordOptions) : Command → Prop where
  | status : Tells options (.status options)
  | issue (lease : LeaseOptions) : Tells options (.issue options lease)
  | renew (lease : LeaseOptions) : Tells options (.renew options lease)

theorem observe_eq_of_tells (hTransport : IgnoresDisks transport)
    (h : StagesAlike options.path (keyPathOf line.command) stage other)
    (hTells : Tells options line.command) :
    observe ticks transport line stage = observe ticks transport line other := by
  obtain ⟨format, level, command⟩ := line
  have hJobs : JobsAlike (keyPathOf command) Eq (job ticks stage command)
      (job ticks other command) := by
    cases hTells with
    | status => exact alike_status h
    | issue lease => exact alike_issue h
    | renew lease => exact alike_renew h
  exact (observe_alike hTransport (fun _ => rfl) hJobs).eq

theorem observe_attach_alike (hTransport : IgnoresDisks transport)
    (h : StagesAlike options.path (keyPathOf line.command) stage other)
    (hAttach : line.command = .attach options) :
    (observe ticks transport line stage).SameBut SameButFingerprint
      (observe ticks transport line other) := by
  obtain ⟨format, level, command⟩ := line
  obtain rfl : command = .attach options := hAttach
  exact observe_alike hTransport .same (alike_attach h)

/-- **Stored secrets stay hidden.** Two records that differ in the secret of one token have the same
status at every instant and show the same. What comes of issuing and of renewing in any surroundings
is the same for both, and so is everything that is asked for meanwhile. And on two disks with these
records, which are otherwise the same to a command, the commands that show the status, issue a token
or renew one look the same from outside: they print the same, exit with the same code, write the
same log and send the same to the service. What `attach` prints differs in a fingerprint at most. -/
theorem stored_secrets_stay_hidden {key : String} {first second : CredentialRecord}
    (hSecret : first.SameButSecret key second) :
    (∀ other now, first.status other now = second.status other now) ∧
    first.redacted = second.redacted ∧
    (∀ (κ : Type) (manager : LifecycleManager κ) (host : Host κ) (cutoff : Option Duration)
      (world : World κ) (memory : CredentialState),
      ((manager.ensureIssued ⟨world, first, memory⟩).execute host cutoff).SameButRecord
        ((manager.ensureIssued ⟨world, second, memory⟩).execute host cutoff) ∧
      ((manager.maybeRenew ⟨world, first, memory⟩).execute host cutoff).SameButRecord
        ((manager.maybeRenew ⟨world, second, memory⟩).execute host cutoff)) ∧
    ∀ (ticks : Nat) (transport : Duration → HttpTransport Disk) (line : CommandLine)
      (options : RecordOptions) (stage : Stage) (disk : Disk), IgnoresDisks transport →
      stage.world.storage.Alike (keyPathOf line.command) disk →
      FileStore.load options.path stage.world.storage = .ok first →
      FileStore.load options.path disk = .ok second →
      (Tells options line.command → observe ticks transport line stage
        = observe ticks transport line (stage.mapWorld (World.withStorage · disk))) ∧
      (line.command = .attach options →
        (observe ticks transport line stage).SameBut SameButFingerprint
          (observe ticks transport line (stage.mapWorld (World.withStorage · disk)))) := by
  have hAlike : first.Alike second := hSecret.alike
  refine ⟨hAlike.status, hAlike.redacted, fun κ manager host cutoff world memory =>
    ⟨LifecycleManager.ensureIssued_sameButRecord hAlike manager host cutoff world memory,
      LifecycleManager.maybeRenew_sameButRecord hAlike manager host cutoff world memory⟩, ?_⟩
  intro ticks transport line options stage disk hTransport hDisks hFirst hSecond
  have hStages : StagesAlike options.path (keyPathOf line.command) stage
      (stage.mapWorld (World.withStorage · disk)) :=
    ⟨.intro stage.world stage.memory hDisks fun _ => .same _, first, second, hAlike, hFirst, hSecond⟩
  exact ⟨observe_eq_of_tells hTransport hStages, observe_attach_alike hTransport hStages⟩

/-- Two tokens that are due, stored under the same key on two disks. -/
theorem stored_secrets_stay_hidden_renew :
    ∃ (key : String) (first second : CredentialRecord) (transport : Duration → HttpTransport Disk)
      (renewing attaching : CommandLine) (options : RecordOptions) (stage : Stage) (disk : Disk),
      first.SameButSecret key second ∧ first ≠ second ∧ IgnoresDisks transport ∧
      stage.world.storage.Alike (keyPathOf renewing.command) disk ∧
      FileStore.load options.path stage.world.storage = .ok first ∧
      FileStore.load options.path disk = .ok second ∧
      Tells options renewing.command ∧ attaching.command = .attach options ∧
      observe 1 transport renewing stage
        = observe 1 transport renewing (stage.mapWorld (World.withStorage · disk)) ∧
      (observe 1 transport attaching stage).SameBut SameButFingerprint
        (observe 1 transport attaching (stage.mapWorld (World.withStorage · disk))) := by
  obtain ⟨token, other, hSame, hToken, hOther, hSecrets⟩ : ∃ token other : AccessToken,
      token.SameButSecret other ∧ token.secret.length < 2 ^ 32 ∧ other.secret.length < 2 ^ 32 ∧
      token ≠ other :=
    ⟨⟨"t", ⟨[1]⟩, 0, 1, by decide, by decide, by decide⟩,
      ⟨"t", ⟨[2, 3]⟩, 0, 1, by decide, by decide, by decide⟩, ⟨rfl, rfl, rfl⟩, by decide, by decide,
      fun h => by simp at h⟩
  obtain ⟨record, hRecord⟩ : ∃ record : AccessToken → CredentialRecord,
      record = fun token => CredentialRecord.empty.put "k" token.encode := ⟨_, rfl⟩
  have hGet (token : AccessToken) : (record token).get "k" = some token.encode := by
    rw [hRecord]
    exact CredentialRecord.get_put_self _ _ _
  have hSecret : (record token).SameButSecret "k" (record other) := by
    refine ⟨fun name hName => ?_, token, other, hSame, hToken, hOther, hGet token, hGet other⟩
    rw [hRecord, CredentialRecord.get_put, CredentialRecord.get_put, if_neg hName, if_neg hName]
  have hDiffer : record token ≠ record other := by
    intro hRecords
    have hEncoded : token.encode = other.encode := by
      rw [← Option.some_inj, ← hGet, ← hGet, hRecords]
    have hDecoded := AccessToken.decodeStored_encode hToken
    rw [hEncoded, AccessToken.decodeStored_encode hOther] at hDecoded
    exact hSecrets (Option.some.inj (Except.ok.inj hDecoded)).symm
  obtain ⟨disk, hDisk⟩ : ∃ disk : CredentialRecord → Disk, disk = fun record =>
      ⟨((FileTree.fresh []).set ["key"] (.file [1])).set ["record.json"]
        (.file (utf8 record.toJson.pretty)), 0, 0⟩ := ⟨_, rfl⟩
  have hLoad (record : CredentialRecord) :
      FileStore.load "record.json" (disk record) = .ok record := by
    have hRead : (disk record).tree.read "record.json" = .ok (utf8 record.toJson.pretty) := by
      rw [hDisk]
      rfl
    rw [FileStore.load, hRead]
    dsimp only
    rw [ofUtf8_utf8]
    exact FileStore.parse_pretty _ record
  obtain ⟨lease, hKey⟩ : ∃ lease : LeaseOptions, lease.keyPath = some "key" :=
    ⟨⟨some "p", some "key", none, some "http://h", none, "t", 1⟩, rfl⟩
  have hDisks (record another : CredentialRecord) :
      (disk record).Alike (keyPathOf (.renew ⟨"record.json", "k"⟩ lease)) (disk another) := by
    rw [hDisk]
    refine ⟨(FileTree.SameShape.refl _).set _ (by simp), rfl, rfl, fun path hPath => ?_⟩
    obtain rfl := Option.some.inj (hKey.symm.trans hPath)
    rfl
  obtain ⟨transport, hTransport⟩ : ∃ transport : Duration → HttpTransport Disk,
      IgnoresDisks transport := ⟨fun _ _ _ => .now (.error .unreachable), fun _ _ _ _ => rfl⟩
  obtain ⟨stage, hStage⟩ : ∃ stage : Stage, stage.world.storage = disk (record token) :=
    ⟨⟨.start ⟨5⟩ (disk (record token)) fun _ => "1", .empty, .unissued⟩, rfl⟩
  have hFirst : FileStore.load "record.json" stage.world.storage = .ok (record token) := by
    rw [hStage]
    exact hLoad _
  have hAlike := hDisks (record token) (record other)
  rw [← hStage] at hAlike
  obtain ⟨-, -, -, hLook⟩ := stored_secrets_stay_hidden hSecret
  obtain ⟨hRenew, -⟩ := hLook 1 transport ⟨"json", "info", .renew ⟨"record.json", "k"⟩ lease⟩
    ⟨"record.json", "k"⟩ stage (disk (record other)) hTransport hAlike hFirst (hLoad _)
  obtain ⟨-, hAttach⟩ := hLook 1 transport ⟨"json", "info", .attach ⟨"record.json", "k"⟩⟩
    ⟨"record.json", "k"⟩ stage (disk (record other)) hTransport
    ⟨hAlike.shape, hAlike.process, hAlike.temporaries, fun _ hPath => by cases hPath⟩
    hFirst (hLoad _)
  exact ⟨"k", record token, record other, transport,
    ⟨"json", "info", .renew ⟨"record.json", "k"⟩ lease⟩,
    ⟨"json", "info", .attach ⟨"record.json", "k"⟩⟩, ⟨"record.json", "k"⟩, stage,
    disk (record other), hSecret, hDiffer, hTransport, hAlike, hFirst, hLoad _, .renew lease, rfl,
    hRenew (.renew lease), hAttach rfl⟩

end Program

end CredentialLease
