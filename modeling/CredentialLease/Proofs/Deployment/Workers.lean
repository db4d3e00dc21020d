import CredentialLease.Proofs.Deployment.Interference
import CredentialLease.Proofs.Lifecycle.Freshness
import Mathlib.Data.List.Forall2
import Mathlib.Data.List.Nodup

/-!
# What workers bind

When there is one control loop, its ticks publish in turn: each has loaded the version that was
published before it (`Reachable.inTurn`). So every version holds, under the key of the loop, the token
that was published with it, and under the other keys what was there at first. A worker can only bind
what is offered that way, and it reads the versions in their order.

Main statement: `workers_follow`.
-/

namespace CredentialLease

variable {ι ω κ : Type}

/-- **Whether these tokens were obtained and stored in these publications**, one in each. -/
def StoredIn (manager : LifecycleManager κ) (published : List (Publication ι κ))
    (tokens : List AccessToken) : Prop :=
  published.Forall₂ (fun publication token => manager.Obtains publication.waits token ∧
    publication.record.get manager.key = some token.encode) tokens

/-- What comes of a record whose entry is the stored form of a token. -/
theorem WorkerCredentials.find_of_stored {worker : WorkerCredentials} {record : CredentialRecord}
    {token : AccessToken} (hEntry : record.get worker.key = some token.encode)
    (hSecret : token.secret.length < 2 ^ 32) : worker.find record = .bound token := by
  rw [find, hEntry, AccessToken.decodeStored_encode hSecret]

/-- What comes of a record depends on the entry of the worker only. -/
theorem WorkerCredentials.find_congr {worker : WorkerCredentials} {record other : CredentialRecord}
    (h : record.get worker.key = other.get worker.key) : worker.find record = worker.find other := by
  rw [find, find, h]

/-- What is found in a record is unusable only if its entry is not a token. -/
theorem WorkerCredentials.find_eq_unusable_iff {worker : WorkerCredentials} {record : CredentialRecord}
    {error : CredentialError} : worker.find record = .unusable error ↔
      AccessToken.decodeStored (record.get worker.key) = .error error := by
  rw [find]
  split
  · next token hDecode => rw [hDecode]; exact ⟨nofun, nofun⟩
  · next hDecode => rw [hDecode]; exact ⟨nofun, nofun⟩
  · next found hDecode => rw [hDecode]; exact ⟨fun h => by cases h; rfl, fun h => by cases h; rfl⟩

namespace Deployment

variable {deployment next : Deployment Unit ω κ} {loops : Unit → ControlLoop κ}
  {store : RecordStore κ} {holds : κ → CredentialRecord → Prop} {keys : ω → String}
  {initial : CredentialRecord}

/-! ### Publishing in turn -/

/-- **Whether a loop publishes in turn**: every tick works on the last version, also when it
publishes. -/
structure InTurn (deployment : Deployment Unit ω κ) : Prop where
  published : ∀ n (publication : Publication Unit κ),
    deployment.published[n]? = some publication → publication.seen = n
  ticks : ∀ tick, deployment.ticks () = some tick → tick.seen = deployment.published.length

/-- A tick that goes on publishes in turn if it works on the last version. -/
theorem InTurn.goesOn (h : deployment.InTurn) {tick : TickUnderWay κ}
    (hSeen : tick.seen = deployment.published.length) : (deployment.goesOn () tick).InTurn := by
  rcases tick.publications_cases () with hNone | ⟨publication, hSome, hPublication, hEnded⟩
  · have hPublished : (deployment.goesOn () tick).published = deployment.published := by
      show deployment.published ++ _ = _
      rw [hNone, List.append_nil]
    constructor
    case published =>
      rw [hPublished]
      exact h.published
    case ticks =>
      intro found hFound
      obtain rfl := TickUnderWay.eq_of_waiting? hFound
      rw [hPublished]
      exact hSeen
  · have hPublished : (deployment.goesOn () tick).published = deployment.published ++ [publication] := by
      show deployment.published ++ _ = _
      rw [hSome]
    constructor
    case published =>
      intro n other hOther
      rw [hPublished, List.getElem?_append] at hOther
      split at hOther
      · exact h.published n other hOther
      · rw [List.getElem?_singleton] at hOther
        split at hOther
        case isFalse => cases hOther
        obtain rfl := Option.some.inj hOther
        omega
    case ticks =>
      intro found hFound
      have hFound : tick.waiting? = some found := hFound
      rw [hEnded] at hFound
      cases hFound

section Steps

variable [DecidableEq ω]

/-- Every step leaves a single loop publishing in turn. -/
theorem Step.inTurn (hStep : Step loops store holds deployment next) (h : deployment.InTurn) :
    next.InTurn := by
  cases hStep with
  | passes hWorld => exact ⟨h.published, h.ticks⟩
  | begins loop hIdle hWorld => exact h.goesOn rfl
  | goesOn hTick hNext => exact h.goesOn (hNext.seen.trans (h.ticks _ hTick))
  | dropped hTick =>
    refine ⟨h.published, fun tick hFound => ?_⟩
    cases hFound
  | loads reader hLoad => exact ⟨h.published, h.ticks⟩
  | attaches hLoaded => exact ⟨h.published, h.ticks⟩
  | updates hLoaded => exact ⟨h.published, h.ticks⟩
  | detaches reader => exact ⟨h.published, h.ticks⟩

/-- **A single loop publishes in turn.** -/
theorem Reachable.inTurn (h : Reachable loops store holds keys initial deployment) :
    deployment.InTurn := by
  induction h with
  | start hInitial => exact ⟨nofun, nofun⟩
  | step _ hStep ih => exact hStep.inTurn ih

end Steps

/-! ### What is offered -/

/-- In every publication a token was obtained and stored. -/
theorem Sound.exists_storedIn (h : deployment.Sound loops store holds keys initial) :
    ∃ tokens, StoredIn (loops ()).manager deployment.published tokens := by
  have hEach : ∀ publication ∈ deployment.published, ∃ token,
      (loops ()).manager.Obtains publication.waits token ∧
      publication.record.get (loops ()).manager.key = some token.encode := by
    intro publication hMem
    obtain ⟨n, hn⟩ := List.mem_iff_getElem?.mp hMem
    obtain ⟨-, loaded, token, -, hStores⟩ := h.published n publication hn
    exact ⟨token, hStores.obtained, hStores.get_self⟩
  clear h
  generalize deployment.published = published at hEach
  induction published with
  | nil => exact ⟨[], .nil⟩
  | cons publication published ih =>
    obtain ⟨hFirst, hRest⟩ := List.forall_mem_cons.mp hEach
    obtain ⟨token, hToken⟩ := hFirst
    obtain ⟨tokens, hTokens⟩ := ih hRest
    exact ⟨token :: tokens, .cons hToken hTokens⟩

theorem exists_obtains_of_mem {manager : LifecycleManager κ} {tokens : List AccessToken}
    (hTokens : StoredIn manager deployment.published tokens) {token : AccessToken}
    (hToken : token ∈ tokens) :
    ∃ publication ∈ deployment.published, manager.Obtains publication.waits token := by
  obtain ⟨n, hn, rfl⟩ := List.mem_iff_getElem.mp hToken
  have hn' : n < deployment.published.length := hTokens.length_eq ▸ hn
  obtain ⟨hObtains, -⟩ := hTokens.get hn' hn
  exact ⟨deployment.published[n], List.getElem_mem hn', hObtains⟩

/-- **Under other keys than the one of the loop, every version holds what was there at first.** -/
theorem Sound.get_version_of_ne (h : deployment.Sound loops store holds keys initial)
    (hTurn : deployment.InTurn) {key : String} (hKey : key ≠ (loops ()).manager.key) {n : Nat}
    {record : CredentialRecord} (hRecord : (deployment.versions initial)[n]? = some record) :
    record.get key = initial.get key := by
  induction n generalizing record with
  | zero =>
    obtain rfl := Option.some.inj hRecord
    rfl
  | succ n ih =>
    rw [versions, List.getElem?_cons_succ, List.getElem?_map] at hRecord
    obtain ⟨publication, hPublication, rfl⟩ := Option.map_eq_some_iff.mp hRecord
    obtain ⟨-, loaded, token, hLoaded, hStores⟩ := h.published n publication hPublication
    rw [hTurn.published n publication hPublication] at hLoaded
    rw [hStores.get_of_ne hKey, ih hLoaded]

/-- **Under the key of the loop, every version after the first holds the token that was published with
it.** -/
theorem exists_get_version_succ {manager : LifecycleManager κ} {tokens : List AccessToken}
    (hTokens : StoredIn manager deployment.published tokens) {n : Nat} {record : CredentialRecord}
    (hRecord : (deployment.versions initial)[n + 1]? = some record) :
    ∃ token, tokens[n]? = some token ∧ record.get manager.key = some token.encode := by
  rw [versions, List.getElem?_cons_succ, List.getElem?_map] at hRecord
  obtain ⟨publication, hPublication, rfl⟩ := Option.map_eq_some_iff.mp hRecord
  obtain ⟨hn, rfl⟩ := List.getElem?_eq_some_iff.mp hPublication
  have hn' : n < tokens.length := hTokens.length_eq ▸ hn
  obtain ⟨-, hEntry⟩ := hTokens.get hn hn'
  exact ⟨tokens[n], List.getElem?_eq_getElem hn', hEntry⟩

/-- **The tokens that are offered under a key**, in order: the one that is there at first, and under
the key of the loop those that were published. -/
def offered (manager : LifecycleManager κ) (initial : CredentialRecord) (tokens : List AccessToken)
    (key : String) : List AccessToken :=
  ((WorkerCredentials.ofKey key).find initial).token.toList ++
    if key = manager.key then tokens else []

theorem mem_offered_iff {manager : LifecycleManager κ} {tokens : List AccessToken} {key : String}
    {token : AccessToken} : token ∈ offered manager initial tokens key ↔
      (WorkerCredentials.ofKey key).find initial = .bound token ∨
        (key = manager.key ∧ token ∈ tokens) := by
  rw [offered, List.mem_append, Option.mem_toList, List.mem_ite_nil_right]
  refine or_congr_left ?_
  cases (WorkerCredentials.ofKey key).find initial with
  | bound found => exact ⟨fun h => congrArg _ (Option.some.inj h), fun h => by cases h; rfl⟩
  | noToken => exact ⟨nofun, nofun⟩
  | unusable error => exact ⟨nofun, nofun⟩

/-- The place of a version's token among them. -/
def place (manager : LifecycleManager κ) (initial : CredentialRecord) (key : String) (n : Nat) : Nat :=
  if key = manager.key then
    ((WorkerCredentials.ofKey key).find initial).token.toList.length + n - 1
  else 0

section Offered

variable {tokens : List AccessToken} {key : String} {n : Nat} {record : CredentialRecord}

/-- What a worker finds in a version is what it finds at first or a token that was published. -/
theorem Sound.find_version (h : deployment.Sound loops store holds keys initial)
    (hTurn : deployment.InTurn) (hTokens : StoredIn (loops ()).manager deployment.published tokens)
    (hSecrets : ∀ token ∈ tokens, token.secret.length < 2 ^ 32)
    (hRecord : (deployment.versions initial)[n]? = some record) (key : String) :
    (key = (loops ()).manager.key ∧ ∃ m token, n = m + 1 ∧ tokens[m]? = some token ∧
        (WorkerCredentials.ofKey key).find record = .bound token) ∨
      ((key = (loops ()).manager.key → n = 0) ∧
        (WorkerCredentials.ofKey key).find record = (WorkerCredentials.ofKey key).find initial) := by
  by_cases hKey : key = (loops ()).manager.key
  · cases n with
    | zero =>
      obtain rfl := Option.some.inj hRecord
      exact .inr ⟨fun _ => rfl, rfl⟩
    | succ n =>
      obtain ⟨token, hToken, hEntry⟩ := exists_get_version_succ hTokens hRecord
      rw [← hKey] at hEntry
      exact .inl ⟨hKey, n, token, rfl, hToken,
        WorkerCredentials.find_of_stored hEntry (hSecrets token (List.mem_of_getElem? hToken))⟩
  · exact .inr ⟨fun h => absurd h hKey,
      WorkerCredentials.find_congr (h.get_version_of_ne hTurn hKey hRecord)⟩

/-- A token that is found in a version is offered at its place. -/
theorem Sound.offered_place (h : deployment.Sound loops store holds keys initial)
    (hTurn : deployment.InTurn) (hTokens : StoredIn (loops ()).manager deployment.published tokens)
    (hSecrets : ∀ token ∈ tokens, token.secret.length < 2 ^ 32)
    (hRecord : (deployment.versions initial)[n]? = some record) {token : AccessToken}
    (hFind : ((WorkerCredentials.ofKey key).find record).token = some token) :
    (offered (loops ()).manager initial tokens key)[place (loops ()).manager initial key n]?
      = some token := by
  rw [offered, place]
  rcases h.find_version hTurn hTokens hSecrets hRecord key with
    ⟨hKey, m, found, rfl, hFound, hBound⟩ | ⟨hFirst, hSame⟩
  · rw [hBound] at hFind
    obtain rfl := Option.some.inj hFind
    rw [if_pos hKey, if_pos hKey, List.getElem?_append_right (by omega), ← hFound]
    congr 1
    omega
  · rw [hSame] at hFind
    rw [hFind]
    show (token :: _)[if key = (loops ()).manager.key then 1 + n - 1 else 0]? = some token
    split
    · next hKey =>
      rw [hFirst hKey]
      rfl
    · rfl

/-- **What a worker binds follows what is offered.** -/
theorem Sound.follows_offered (h : deployment.Sound loops store holds keys initial)
    (hTurn : deployment.InTurn) (hTokens : StoredIn (loops ()).manager deployment.published tokens)
    (hSecrets : ∀ token ∈ tokens, token.secret.length < 2 ^ 32) {reader : Reader}
    (hReader : reader.Sound key (deployment.versions initial)) :
    Follows reader.tokens (offered (loops ()).manager initial tokens key) := by
  have hFound : reader.tokens = reader.attached.filterMap fun record =>
      ((WorkerCredentials.ofKey key).find record).token := by
    rw [Reader.tokens, hReader.outcomes, List.filterMap_map]
    rfl
  rw [hFound]
  refine hReader.ordered.of_append.filterMap (place (loops ()).manager initial key) ?_ ?_
  · intro m n hmn
    rw [place, place]
    split <;> omega
  · intro n record token hRecord hFind
    exact h.offered_place hTurn hTokens hSecrets hRecord hFind

/-- **A worker is never told of an unusable entry** if the one that is there at first is usable. -/
theorem Sound.unusable_notMem (h : deployment.Sound loops store holds keys initial)
    (hTurn : deployment.InTurn) (hTokens : StoredIn (loops ()).manager deployment.published tokens)
    (hSecrets : ∀ token ∈ tokens, token.secret.length < 2 ^ 32) {reader : Reader}
    (hReader : reader.Sound key (deployment.versions initial))
    (hUsable : ∀ error, AccessToken.decodeStored (initial.get key) ≠ .error error)
    (error : CredentialError) : .unusable error ∉ reader.outcomes := by
  rw [hReader.outcomes, List.mem_map]
  rintro ⟨record, hAttached, hUnusable⟩
  obtain ⟨n, hRecord⟩ := hReader.ordered.of_append.exists_getElem? hAttached
  rcases h.find_version hTurn hTokens hSecrets hRecord key with
    ⟨-, m, token, -, -, hBound⟩ | ⟨-, hSame⟩
  · rw [hBound] at hUnusable
    cases hUnusable
  · rw [hSame] at hUnusable
    exact hUsable error (WorkerCredentials.find_eq_unusable_iff.mp hUnusable)

end Offered

/-! ### Workers -/

variable [DecidableEq ω]

/-- **What workers bind**, when one control loop writes to the storage, in whatever order the loop and
the workers take their steps and whatever comes of the ticks. Every token that a worker has bound was
in the entry of its key at first or was published, field for field, and the tokens that it has bound
follow each other in the order of their publications. If the entry was absent, reserved or a token at
first, no worker is ever told that it is unusable. The secrets have lengths that can be stored; that
none is bound again after a later one supposes that their names differ. -/
theorem workers_follow (hKeeps : store.Keeps holds)
    (hReachable : Reachable loops store holds keys initial deployment)
    (hSecrets : ∀ publication ∈ deployment.published, ∀ token,
      (loops ()).manager.Obtains publication.waits token → token.secret.length < 2 ^ 32) :
    ∃ tokens, StoredIn (loops ()).manager deployment.published tokens ∧ ∀ worker : ω,
      (∀ token, (deployment.readers worker).worker.bound = some token →
        token ∈ (deployment.readers worker).tokens) ∧
      (∀ token ∈ (deployment.readers worker).tokens,
        (WorkerCredentials.ofKey (keys worker)).find initial = .bound token ∨
        (keys worker = (loops ()).manager.key ∧ token ∈ tokens)) ∧
      Follows (deployment.readers worker).tokens
        (offered (loops ()).manager initial tokens (keys worker)) ∧
      (((offered (loops ()).manager initial tokens (keys worker)).map AccessToken.name).Nodup →
        (deployment.readers worker).tokens.Pairwise fun earlier later =>
          (offered (loops ()).manager initial tokens (keys worker)).idxOf earlier
            ≤ (offered (loops ()).manager initial tokens (keys worker)).idxOf later) ∧
      ((∀ error, AccessToken.decodeStored (initial.get (keys worker)) ≠ .error error) →
        ∀ error, .unusable error ∉ (deployment.readers worker).outcomes) := by
  have hSound := hReachable.sound hKeeps
  have hTurn := hReachable.inTurn
  obtain ⟨tokens, hTokens⟩ := hSound.exists_storedIn
  have hShort : ∀ token ∈ tokens, token.secret.length < 2 ^ 32 := by
    intro token hToken
    obtain ⟨publication, hMem, hObtains⟩ := exists_obtains_of_mem hTokens hToken
    exact hSecrets publication hMem token hObtains
  refine ⟨tokens, hTokens, fun worker => ?_⟩
  have hReader := hSound.readers worker
  have hFollows := hSound.follows_offered hTurn hTokens hShort hReader
  refine ⟨hReader.bound, ?_, hFollows, ?_, ?_⟩
  · intro token hToken
    exact mem_offered_iff.mp (hFollows.mem hToken)
  · intro hNames
    exact hFollows.pairwise_idxOf (List.Nodup.of_map _ hNames)
  · intro hUsable error
    exact hSound.unusable_notMem hTurn hTokens hShort hReader hUsable error

/-- A worker that reads the record after a tick has published a token binds that token. -/
theorem workers_follow_published :
    ∃ (deployment : Deployment Unit Unit CredentialRecord) (token : AccessToken),
      Reachable (fun _ => pair false) .memory (fun storage record => storage = record)
        (fun _ => "a") .empty deployment ∧
      (deployment.readers ()).worker.bound = some token ∧
      ∃ tokens, StoredIn (.plain "a" .invalid) deployment.published tokens ∧ token ∈ tokens ∧
        ∀ error, .unusable error ∉ (deployment.readers ()).outcomes := by
  obtain ⟨token, hName, hSecret⟩ : ∃ token : AccessToken,
      token.name = "lease-0" ∧ token.secret.length = 0 :=
    ⟨⟨"lease-0", ⟨[]⟩, 0, 1, by decide, by decide, by decide⟩, rfl, rfl⟩
  have hStart : Reachable (fun _ => pair false) .memory (fun storage record => storage = record)
      (fun _ => "a") .empty
      (start (.start ⟨0⟩ .empty fun _ => "0") fun _ => "a" : Deployment Unit Unit CredentialRecord) :=
    .start rfl
  obtain ⟨d₁, publication, h₁, hStorage, -, hPublished, hReaders, -, -, -, hRecord⟩ :=
    hStart.begins_publishes () token rfl rfl rfl List.not_mem_nil hName rfl
  have hNone : (d₁.readers ()).loaded = [] := by
    rw [hReaders]
    rfl
  obtain ⟨d₂, h₂, hPublished₂, hReader⟩ := h₁.reads () rfl hNone
  have hBound : (d₂.readers ()).worker.bound = some token := by
    have hFind : (WorkerCredentials.ofKey "a").find d₁.world.storage = .bound token := by
      apply WorkerCredentials.find_of_stored
      · rw [hStorage]
        exact CredentialRecord.get_put_self _ _ _
      · omega
    rw [hReader, hReaders]
    show ((WorkerCredentials.ofKey "a").attach d₁.world.storage).1.bound = some token
    rw [WorkerCredentials.attach, hFind]
  have hOnly : d₂.published = [publication] := hPublished₂.trans hPublished
  have hSecrets : ∀ publication ∈ d₂.published, ∀ other,
      (pair false).manager.Obtains publication.waits other → other.secret.length < 2 ^ 32 := by
    rw [hOnly, List.forall_mem_singleton]
    intro other hOther
    obtain ⟨-, loaded, stored, -, hStores⟩ :=
      (h₂.sound RecordStore.keeps_memory).published 0 publication (by rw [hOnly]; rfl)
    have hToken : publication.record.get "a" = some token.encode := by
      rw [hRecord]
      exact CredentialRecord.get_put_self _ _ _
    obtain rfl : stored = token :=
      AccessToken.encode_injective (Option.some.inj (hStores.get_self.symm.trans hToken))
    rw [hOther.unique hStores.obtained]
    omega
  obtain ⟨tokens, hTokens, hWorkers⟩ := workers_follow RecordStore.keeps_memory h₂ hSecrets
  obtain ⟨hBinds, hOffered, -, -, hUsable⟩ := hWorkers ()
  refine ⟨d₂, token, h₂, hBound, tokens, hTokens, ?_, hUsable fun _ h => by cases h⟩
  rcases hOffered token (hBinds token hBound) with hFirst | ⟨-, hMem⟩
  · cases hFirst
  · exact hMem

end Deployment

end CredentialLease
