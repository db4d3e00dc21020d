import CredentialLease.Proofs.Deployment.Steps

/-!
# The versions of a stored record

The versions of a record are the one that was stored at first and those that were published, in
order. In every deployment that can be reached the storage holds the last version. Every publication
is the version that its tick had loaded, with the entry of its manager replaced by a token that was
obtained in that tick, and the records that a worker attaches are versions in their order.

Main statement: `Deployment.Reachable.sound`.
-/

namespace CredentialLease

variable {ι ω κ : Type}

/-! ### Reading in order -/

/-- **Whether what was read follows the versions**: every value that was read is one of them, and none
comes before one that was read earlier. -/
def Follows {α : Type} (read versions : List α) : Prop :=
  ∃ positions : List Nat, positions.Pairwise (· ≤ ·) ∧
    read.map some = positions.map fun n => versions[n]?

/-- A version keeps its place when others are added. -/
theorem getElem?_of_prefix {α : Type} {first second : List α} {n : Nat} {value : α}
    (hPrefix : first <+: second) (h : first[n]? = some value) : second[n]? = some value := by
  obtain ⟨more, rfl⟩ := hPrefix
  obtain ⟨hn, rfl⟩ := List.getElem?_eq_some_iff.mp h
  rw [List.getElem?_append_left hn, List.getElem?_eq_getElem hn]

namespace Follows

variable {α β : Type} {read versions : List α} {value : α}

theorem nil : Follows [] versions := ⟨[], List.Pairwise.nil, rfl⟩

theorem exists_getElem? (h : Follows read versions) (hValue : value ∈ read) :
    ∃ n : Nat, versions[n]? = some value := by
  obtain ⟨positions, -, hPositions⟩ := h
  have hSome : some value ∈ read.map some := List.mem_map_of_mem hValue
  rw [hPositions] at hSome
  obtain ⟨n, -, hn⟩ := List.mem_map.mp hSome
  exact ⟨n, hn⟩

theorem mem (h : Follows read versions) (hValue : value ∈ read) : value ∈ versions := by
  obtain ⟨n, hn⟩ := h.exists_getElem? hValue
  exact List.mem_of_getElem? hn

/-- Every position is one of a version, since something was read there. -/
theorem exists_of_mem {positions : List Nat}
    (hPositions : read.map some = positions.map fun n => versions[n]?) {n : Nat}
    (hn : n ∈ positions) : ∃ value, versions[n]? = some value := by
  have hSome : versions[n]? ∈ positions.map fun n => versions[n]? := List.mem_map_of_mem hn
  rw [← hPositions] at hSome
  obtain ⟨value, -, hValue⟩ := List.mem_map.mp hSome
  exact ⟨value, hValue.symm⟩

theorem grows {versions' : List α} (h : Follows read versions) (hPrefix : versions <+: versions') :
    Follows read versions' := by
  obtain ⟨positions, hSorted, hPositions⟩ := h
  refine ⟨positions, hSorted, ?_⟩
  rw [hPositions, List.map_inj_left]
  intro n hn
  obtain ⟨value, hValue⟩ := exists_of_mem hPositions hn
  rw [hValue, getElem?_of_prefix hPrefix hValue]

/-- The last version can always be read next. -/
theorem concat (h : Follows read versions) {last : Nat} (hLast : versions.length = last + 1)
    (hValue : versions[last]? = some value) : Follows (read ++ [value]) versions := by
  obtain ⟨positions, hSorted, hPositions⟩ := h
  refine ⟨positions ++ [last], ?_, ?_⟩
  · refine List.pairwise_append.mpr ⟨hSorted, List.pairwise_singleton _ _, ?_⟩
    intro n hn m hm
    obtain rfl := List.mem_singleton.mp hm
    obtain ⟨other, hOther⟩ := exists_of_mem hPositions hn
    obtain ⟨hBelow, -⟩ := List.getElem?_eq_some_iff.mp hOther
    omega
  · rw [List.map_append, hPositions, List.map_append, List.map_singleton, List.map_singleton, hValue]

theorem of_append {more : List α} (h : Follows (read ++ more) versions) : Follows read versions := by
  obtain ⟨positions, hSorted, hPositions⟩ := h
  refine ⟨positions.take read.length, hSorted.sublist (List.take_sublist _ _), ?_⟩
  rw [List.map_take, ← hPositions, List.map_append, List.take_left' (List.length_map some)]

/-- **What is found in the versions that were read follows what is found in the versions**, where each
version has a place for it and the places are in order, too. -/
theorem filterMap {found : List β} {find : α → Option β} (h : Follows read versions)
    (place : Nat → Nat) (hMono : ∀ m n, m ≤ n → place m ≤ place n)
    (hPlace : ∀ n value result, versions[n]? = some value → find value = some result →
      found[place n]? = some result) : Follows (read.filterMap find) found := by
  obtain ⟨positions, hSorted, hPositions⟩ := h
  refine ⟨(positions.filter fun n => (versions[n]?.bind find).isSome).map place, ?_, ?_⟩
  · exact (hSorted.filter _).map place fun m n h => hMono m n h
  · clear hSorted
    induction positions generalizing read with
    | nil =>
      obtain rfl := List.map_eq_nil_iff.mp hPositions
      rfl
    | cons n positions ih =>
      cases read with
      | nil => cases hPositions
      | cons value read =>
        obtain ⟨hValue, hRest⟩ := List.cons.inj hPositions
        have hValue : versions[n]? = some value := hValue.symm
        have hFound : versions[n]?.bind find = find value := by rw [hValue]; rfl
        rw [List.filter_cons, hFound]
        cases hFind : find value with
        | none =>
          rw [List.filterMap_cons_none hFind]
          exact ih hRest
        | some result =>
          rw [List.filterMap_cons_some hFind, List.map_cons, ih hRest]
          show _ = found[place n]? :: _
          rw [hPlace n value result hValue hFind]

/-- Where all versions differ, no value that was read has an earlier place than one that was read
before. -/
theorem pairwise_idxOf [DecidableEq α] (h : Follows read versions) (hDiffer : versions.Nodup) :
    read.Pairwise fun earlier later => versions.idxOf earlier ≤ versions.idxOf later := by
  obtain ⟨positions, hSorted, hPositions⟩ := h
  let place (value : Option α) : Nat := value.elim 0 versions.idxOf
  have hPlaces : read.map versions.idxOf = positions := by
    calc read.map versions.idxOf
      _ = (read.map some).map place := by rw [List.map_map]; rfl
      _ = positions.map fun n => place versions[n]? := by rw [hPositions, List.map_map]; rfl
      _ = positions.map id := by
        rw [List.map_inj_left]
        intro n hn
        obtain ⟨value, hValue⟩ := exists_of_mem hPositions hn
        obtain ⟨hBelow, rfl⟩ := List.getElem?_eq_some_iff.mp hValue
        rw [hValue]
        exact hDiffer.idxOf_getElem n hBelow
      _ = positions := List.map_id positions
  rw [← List.pairwise_map, hPlaces]
  exact hSorted

end Follows

/-! ### Sound parts -/

/-- **What makes a publication**: a token was obtained in the waits of the tick, and it has replaced
the entry of the manager in the record that the tick had loaded. -/
structure Publication.Stores (publication : Publication ι κ) (manager : LifecycleManager κ)
    (loaded : CredentialRecord) (token : AccessToken) : Prop where
  obtained : manager.Obtains publication.waits token
  record : publication.record = loaded.put manager.key token.encode
  changed : publication.record ≠ loaded

/-- Whether a tick under way works on the version that it has loaded. -/
structure TickUnderWay.Sound (renewer : Renewer κ CredentialState)
    (versions : List CredentialRecord) (tick : TickUnderWay κ) : Prop where
  loaded : ∃ record, versions[tick.seen]? = some record ∧
    renewer.store.load tick.began.world.storage = .ok record
  reaches : Activity.Reaches Scene.KeepsRecord (renewer.tick tick.began) tick.waits tick.rest

/-- Whether a worker for a key reads versions in their order. -/
structure Reader.Sound (key : String) (versions : List CredentialRecord) (reader : Reader) :
    Prop where
  worker_key : reader.worker.key = key
  outcomes : reader.outcomes = reader.attached.map (WorkerCredentials.ofKey key).find
  bound : ∀ token, reader.worker.bound = some token → token ∈ reader.tokens
  ordered : Follows (reader.attached ++ reader.loaded) versions

theorem TickUnderWay.Sound.grows {renewer : Renewer κ CredentialState}
    {versions versions' : List CredentialRecord} {tick : TickUnderWay κ}
    (h : tick.Sound renewer versions) (hPrefix : versions <+: versions') :
    tick.Sound renewer versions' := by
  obtain ⟨record, hVersion, hLoad⟩ := h.loaded
  exact ⟨⟨record, getElem?_of_prefix hPrefix hVersion, hLoad⟩, h.reaches⟩

/-! ### Sound readers -/

namespace WorkerCredentials

variable {worker : WorkerCredentials} {record : CredentialRecord}

/-- What a worker is told of a record is what it finds there. -/
theorem attach_snd : (worker.attach record).2 = (ofKey worker.key).find record := by
  rw [show (ofKey worker.key).find record = worker.find record from rfl, attach]
  cases worker.find record with
  | bound token => rfl
  | noToken => rfl
  | unusable error => rfl

theorem attach_key : (worker.attach record).1.key = worker.key := by
  rw [attach]
  cases worker.find record with
  | bound token => rfl
  | noToken => rfl
  | unusable error => rfl

/-- A token that is bound was found just now or was bound before. -/
theorem bound_attach {token : AccessToken} (h : (worker.attach record).1.bound = some token) :
    (worker.attach record).2 = .bound token ∨ worker.bound = some token := by
  rw [attach] at h ⊢
  cases hFind : worker.find record with
  | bound found =>
    rw [hFind] at h
    obtain rfl := Option.some.inj h
    exact .inl rfl
  | noToken =>
    rw [hFind] at h
    exact .inr h
  | unusable error =>
    rw [hFind] at h
    cases h

end WorkerCredentials

namespace Reader

variable {key : String} {versions : List CredentialRecord} {reader : Reader}
  {record : CredentialRecord}

theorem sound_ofKey : (ofKey key).Sound key versions where
  worker_key := rfl
  outcomes := rfl
  bound := by
    intro token h
    cases h
  ordered := .nil

theorem Sound.grows {versions' : List CredentialRecord} (h : reader.Sound key versions)
    (hPrefix : versions <+: versions') : reader.Sound key versions' :=
  ⟨h.worker_key, h.outcomes, h.bound, h.ordered.grows hPrefix⟩

/-- A worker that loads the last version reads on in order. -/
theorem Sound.load (h : reader.Sound key versions) {last : Nat}
    (hLast : versions.length = last + 1) (hRecord : versions[last]? = some record) :
    (reader.load record).Sound key versions := by
  have hOrdered := h.ordered.concat hLast hRecord
  rw [List.append_assoc] at hOrdered
  exact ⟨h.worker_key, h.outcomes, h.bound, hOrdered⟩

/-- A worker attaches what it has loaded first. -/
theorem Sound.attach (h : reader.Sound key versions) {others : List CredentialRecord}
    (hLoaded : reader.loaded = record :: others) :
    (reader.attach record others).Sound key versions where
  worker_key := WorkerCredentials.attach_key.trans h.worker_key
  outcomes := by
    show reader.outcomes ++ [(reader.worker.attach record).2] = _
    rw [WorkerCredentials.attach_snd, h.worker_key, h.outcomes]
    show _ = (reader.attached ++ [record]).map _
    rw [List.map_append, List.map_singleton]
  bound := by
    intro token hBound
    rw [tokens, Reader.attach, List.filterMap_append, List.mem_append]
    rcases WorkerCredentials.bound_attach hBound with hFound | hBefore
    · right
      rw [hFound]
      exact List.mem_singleton_self token
    · exact .inl (h.bound token hBefore)
  ordered := by
    have hOrdered := h.ordered
    rw [hLoaded, List.append_cons] at hOrdered
    exact hOrdered

theorem Sound.update (h : reader.Sound key versions) {others : List CredentialRecord}
    (hLoaded : reader.loaded = record :: others) :
    (reader.update record others).Sound key versions := by
  rw [update_eq_attach]
  exact h.attach hLoaded

theorem Sound.detach (h : reader.Sound key versions) : reader.detach.Sound key versions where
  worker_key := h.worker_key
  outcomes := h.outcomes
  bound := by
    intro token hBound
    cases hBound
  ordered := h.ordered

end Reader

/-! ### Sound ticks -/

namespace TickUnderWay

variable {control : ControlLoop κ} {store : RecordStore κ}
  {holds : κ → CredentialRecord → Prop} {versions : List CredentialRecord}
  {tick next : TickUnderWay κ}

theorem eq_of_waiting? {found : TickUnderWay κ} (h : tick.waiting? = some found) : tick = found := by
  rw [waiting?] at h
  split at h
  · cases h
  · exact Option.some.inj h

/-- A tick that goes on stays sound, and finds the world that it goes on in. -/
theorem Sound.goesOn {world : World κ} {renewer : Renewer κ CredentialState}
    (h : tick.Sound renewer versions) (hNext : tick.Next world next) :
    next.Sound renewer versions ∧ (Activity.wentOn next.began next.waits).world = world := by
  cases hNext with
  | answered answer =>
    refine ⟨⟨h.loaded, h.reaches.answered answer ?_⟩, ?_⟩
    · rfl
    · rw [Activity.wentOn_concat]
  | alarmed hAlarm =>
    refine ⟨⟨h.loaded, h.reaches.alarmed hAlarm ?_⟩, ?_⟩
    · rfl
    · rw [Activity.wentOn_concat]

/-- A tick that waits leaves what is stored alone. -/
theorem Sound.undisturbed_of_waiting {renewer : Renewer κ CredentialState}
    {manager : LifecycleManager κ} (hIssuer : renewer.issuer = manager.issuer)
    {s : Scene κ CredentialState} {request : Request} {alarm : Option Duration}
    {onAnswer : Scene κ CredentialState → request.Answer →
      Activity (Scene κ CredentialState) (Except Failure TickOutcome)}
    {onAlarm : alarm.isSome = true → Scene κ CredentialState →
      Activity (Scene κ CredentialState) (Except Failure TickOutcome)}
    {onDrop : Scene κ CredentialState → Scene κ CredentialState}
    (h : tick.Sound renewer versions)
    (hRest : tick.rest = .waiting s request alarm onAnswer onAlarm onDrop) :
    (Activity.wentOn tick.began tick.waits).world.Undisturbed holds s.world := by
  obtain ⟨record, -, hLoad⟩ := h.loaded
  have hReaches := h.reaches
  rw [hRest] at hReaches
  -- the tick could be dropped here, and such a run is known
  have hUntouched := Renewer.untouched_of_dropped hIssuer hLoad (hReaches.run_dropped rfl)
  have hSame := (Activity.Untouched.concat_iff.mp hUntouched).1.eq_wentOn
  intro held hHeld
  rwa [show s.world.storage = (Activity.wentOn tick.began tick.waits).world.storage from
    congrArg (fun around => around.2.2) hSame]

/-- A tick that is dropped leaves what is stored alone. -/
theorem Sound.undisturbed_of_dropped {renewer : Renewer κ CredentialState}
    {manager : LifecycleManager κ} (hIssuer : renewer.issuer = manager.issuer)
    {s : Scene κ CredentialState} {request : Request} {alarm : Option Duration}
    {onAnswer : Scene κ CredentialState → request.Answer →
      Activity (Scene κ CredentialState) (Except Failure TickOutcome)}
    {onAlarm : alarm.isSome = true → Scene κ CredentialState →
      Activity (Scene κ CredentialState) (Except Failure TickOutcome)}
    {onDrop : Scene κ CredentialState → Scene κ CredentialState} {world : World κ}
    (h : tick.Sound renewer versions)
    (hRest : tick.rest = .waiting s request alarm onAnswer onAlarm onDrop) :
    world.Undisturbed holds (onDrop { s with world := world }).world := by
  obtain ⟨record, -, hLoad⟩ := h.loaded
  have hReaches := h.reaches
  rw [hRest] at hReaches
  have hKeeps : s.KeepsRecord { s with world := world } := rfl
  have hUntouched := Renewer.untouched_of_dropped hIssuer hLoad (hReaches.run (.dropped hKeeps))
  have hSame := (Activity.Untouched.concat_iff.mp hUntouched).2
  intro held hHeld
  rwa [show (onDrop { s with world := world }).world.storage = world.storage from
    congrArg (fun around => around.2.2) hSame]

/-- **What a tick does when it goes on**: it publishes nothing and leaves what is stored alone, or it
publishes a token that it has obtained, in the version that it had loaded. -/
theorem Sound.publishes (loop : ι) (hKeeps : store.Keeps holds)
    (h : tick.Sound (control.renewer store) versions) :
    (tick.publications loop = [] ∧
      (Activity.wentOn tick.began tick.waits).world.Undisturbed holds tick.rest.state.world) ∨
    ∃ publication loaded token, tick.publications loop = [publication] ∧
      publication.loop = loop ∧ publication.seen = tick.seen ∧
      versions[tick.seen]? = some loaded ∧ publication.Stores control.manager loaded token ∧
      ∀ held, holds (Activity.wentOn tick.began tick.waits).world.storage held →
        holds tick.rest.state.world.storage publication.record := by
  cases hRest : tick.rest with
  | waiting s request alarm onAnswer onAlarm onDrop =>
    have hPublications : tick.publications loop = [] := by rw [publications, hRest]
    exact .inl ⟨hPublications,
      h.undisturbed_of_waiting (control.issuer_renewer store) hRest⟩
  | finished t answer =>
    obtain ⟨loaded, hLoaded, hLoad⟩ := h.loaded
    have hReaches := h.reaches
    rw [hRest] at hReaches
    have hRun := hReaches.run (.finished t answer)
    rw [List.append_nil] at hRun
    obtain ⟨ended, hUntouched, hEnd⟩ :=
      Renewer.run_managedTick (control.issuer_renewer store) hKeeps hLoad hRun
    have hEnded : ended.world.storage = (Activity.wentOn tick.began tick.waits).world.storage :=
      congrArg (fun around => around.2.2) hUntouched.eq_wentOn
    rcases hEnd with ⟨hAnswer, hUndisturbed⟩ | ⟨rfl, token, hObtains, hRecord, hDiffers, hHolds⟩
    · refine .inl ⟨?_, ?_⟩
      · rw [publications, hRest]
        split
        · next hPublished => cases hPublished; exact absurd rfl hAnswer
        · rfl
      · intro held hHeld
        refine hUndisturbed held ?_
        rwa [hEnded]
    · rw [hEnded] at hHolds
      refine .inr ⟨⟨loop, tick.seen, tick.waits, t.record⟩, loaded, token, ?_, rfl, rfl, hLoaded,
        ⟨hObtains, hRecord, hDiffers⟩, hHolds⟩
      rw [publications, hRest]

end TickUnderWay

/-! ### Sound deployments -/

namespace Deployment

variable {loops : ι → ControlLoop κ} {store : RecordStore κ}
  {holds : κ → CredentialRecord → Prop} {keys : ω → String} {initial : CredentialRecord}
  {deployment next : Deployment ι ω κ} {loop : ι}

/-- The versions of the stored record so far. -/
def versions (initial : CredentialRecord) (deployment : Deployment ι ω κ) :
    List CredentialRecord :=
  initial :: deployment.published.map Publication.record

theorem length_versions :
    (deployment.versions initial).length = deployment.published.length + 1 := by
  rw [versions, List.length_cons, List.length_map]

/-- **Whether a deployment is sound**: what it stores, what its ticks publish and what its workers
read are versions of the record. -/
structure Sound (loops : ι → ControlLoop κ) (store : RecordStore κ)
    (holds : κ → CredentialRecord → Prop) (keys : ω → String) (initial : CredentialRecord)
    (deployment : Deployment ι ω κ) : Prop where
  /-- The last version is stored. -/
  stored : ∃ record, (deployment.versions initial)[deployment.published.length]? = some record ∧
    holds deployment.world.storage record
  published : ∀ n (publication : Publication ι κ), deployment.published[n]? = some publication →
    publication.seen ≤ n ∧ ∃ loaded token,
      (deployment.versions initial)[publication.seen]? = some loaded ∧
      publication.Stores (loops publication.loop).manager loaded token
  ticks : ∀ loop tick, deployment.ticks loop = some tick →
    tick.Sound ((loops loop).renewer store) (deployment.versions initial)
  readers : ∀ reader, (deployment.readers reader).Sound (keys reader) (deployment.versions initial)

/-- A deployment stays sound when nothing is published and what is stored is left alone. -/
theorem Sound.of_unpublished (h : deployment.Sound loops store holds keys initial)
    (hPublished : next.published = deployment.published)
    (hWorld : deployment.world.Undisturbed holds next.world)
    (hTicks : ∀ loop tick, next.ticks loop = some tick →
      tick.Sound ((loops loop).renewer store) (deployment.versions initial))
    (hReaders : ∀ reader,
      (next.readers reader).Sound (keys reader) (deployment.versions initial)) :
    next.Sound loops store holds keys initial := by
  have hVersions : next.versions initial = deployment.versions initial := by
    rw [versions, versions, hPublished]
  obtain ⟨record, hRecord, hHolds⟩ := h.stored
  constructor
  case stored =>
    rw [hVersions, hPublished]
    exact ⟨record, hRecord, hWorld record hHolds⟩
  case published =>
    rw [hVersions, hPublished]
    exact h.published
  case ticks =>
    rw [hVersions]
    exact hTicks
  case readers =>
    rw [hVersions]
    exact hReaders

/-- A worker that reads on keeps a deployment sound. -/
theorem Sound.setReader [DecidableEq ω] (h : deployment.Sound loops store holds keys initial) {reader : ω}
    {after : Reader} (hAfter : after.Sound (keys reader) (deployment.versions initial)) :
    (deployment.setReader reader after).Sound loops store holds keys initial := by
  refine h.of_unpublished rfl (.refl holds _) h.ticks fun other => ?_
  show (Function.update deployment.readers reader after other).Sound _ _
  by_cases hOther : other = reader
  · subst hOther
    rw [Function.update_self]
    exact hAfter
  · rw [Function.update_of_ne hOther]
    exact h.readers other

section Ticks

variable [DecidableEq ι]

/-- After a tick has gone on, it is under way if it waits, and the others are as before. -/
theorem ticks_goesOn {tick : TickUnderWay κ} {other : ι} {found : TickUnderWay κ}
    (h : (deployment.goesOn loop tick).ticks other = some found) :
    (other = loop ∧ tick.waiting? = some found) ∨ deployment.ticks other = some found := by
  have h : Function.update deployment.ticks loop tick.waiting? other = some found := h
  by_cases hOther : other = loop
  · subst hOther
    rw [Function.update_self] at h
    exact .inl ⟨rfl, h⟩
  · rw [Function.update_of_ne hOther] at h
    exact .inr h

/-- **A tick that goes on keeps a deployment sound.** -/
theorem Sound.goesOn (hKeeps : store.Keeps holds) (h : deployment.Sound loops store holds keys initial)
    {tick : TickUnderWay κ}
    (hTick : tick.Sound ((loops loop).renewer store) (deployment.versions initial))
    (hWent : (Activity.wentOn tick.began tick.waits).world = deployment.world) :
    (deployment.goesOn loop tick).Sound loops store holds keys initial := by
  have hTicks (other : ι) (found : TickUnderWay κ)
      (hFound : (deployment.goesOn loop tick).ticks other = some found) :
      found.Sound ((loops other).renewer store) (deployment.versions initial) := by
    rcases ticks_goesOn hFound with ⟨rfl, hWaiting⟩ | hOld
    · obtain rfl := TickUnderWay.eq_of_waiting? hWaiting
      exact hTick
    · exact h.ticks other found hOld
  rcases hTick.publishes loop hKeeps with
    ⟨hNone, hUndisturbed⟩ |
    ⟨publication, loaded, token, hSome, hLoop, hSeen, hLoaded, hStores, hHolds⟩
  · refine h.of_unpublished ?_ ?_ hTicks h.readers
    · show deployment.published ++ _ = _
      rw [hNone, List.append_nil]
    · rw [hWent] at hUndisturbed
      exact hUndisturbed
  · have hPublished : (deployment.goesOn loop tick).published
        = deployment.published ++ [publication] := by
      show deployment.published ++ _ = _
      rw [hSome]
    have hVersions : (deployment.goesOn loop tick).versions initial
        = deployment.versions initial ++ [publication.record] := by
      rw [versions, hPublished, List.map_append, ← List.cons_append]
      rfl
    have hGrows : deployment.versions initial <+: (deployment.goesOn loop tick).versions initial :=
      ⟨_, hVersions.symm⟩
    constructor
    case stored =>
      obtain ⟨record, -, hHeld⟩ := h.stored
      refine ⟨publication.record, ?_, hHolds record (hWent ▸ hHeld)⟩
      rw [hVersions, hPublished, List.length_append, List.length_singleton, ← length_versions,
        List.getElem?_concat_length]
    case published =>
      intro n other hOther
      rw [hPublished, List.getElem?_append] at hOther
      split at hOther
      · obtain ⟨hBefore, loaded, token, hOld, hOldStores⟩ := h.published n other hOther
        exact ⟨hBefore, loaded, token, getElem?_of_prefix hGrows hOld, hOldStores⟩
      · next hLast =>
        rw [List.getElem?_singleton] at hOther
        split at hOther
        case isFalse => cases hOther
        obtain rfl := Option.some.inj hOther
        obtain ⟨hBelow, -⟩ := List.getElem?_eq_some_iff.mp hLoaded
        rw [length_versions] at hBelow
        refine ⟨by omega, loaded, token, ?_, ?_⟩
        · rw [hSeen]
          exact getElem?_of_prefix hGrows hLoaded
        · rw [hLoop]
          exact hStores
    case ticks => exact fun other found hFound => (hTicks other found hFound).grows hGrows
    case readers => exact fun reader => (h.readers reader).grows hGrows

end Ticks

section Steps

variable [DecidableEq ι] [DecidableEq ω]

/-- **Every step keeps a deployment sound.** -/
theorem Step.sound (hKeeps : store.Keeps holds) (hStep : Step loops store holds deployment next)
    (h : deployment.Sound loops store holds keys initial) :
    next.Sound loops store holds keys initial := by
  cases hStep with
  | passes hWorld => exact h.of_unpublished rfl hWorld h.ticks h.readers
  | @begins scene loop hIdle hWorld =>
    obtain ⟨record, hRecord, hHolds⟩ := h.stored
    cases hLoad : store.load scene.world.storage with
    | error failure =>
      rw [Renewer.tick_of_load_error (show ((loops loop).renewer store).store.load _ = _ from hLoad)]
      refine h.of_unpublished (List.append_nil _) ?_ ?_ h.readers
      · rw [← hWorld]
        exact .refl holds _
      · intro other found hFound
        rcases ticks_goesOn hFound with ⟨-, hWaiting⟩ | hOld
        · cases hWaiting
        · exact h.ticks other found hOld
    | ok loaded =>
      obtain rfl := hKeeps.loads hHolds (hWorld ▸ hLoad)
      exact h.goesOn hKeeps ⟨⟨loaded, hRecord, hLoad⟩, .start⟩ hWorld
  | goesOn hTick hNext =>
    obtain ⟨hSound, hWorld⟩ := (h.ticks _ _ hTick).goesOn hNext
    exact h.goesOn hKeeps hSound hWorld
  | @dropped loop _ _ _ _ _ _ _ _ _ hTick =>
    refine h.of_unpublished rfl ?_ ?_ h.readers
    · exact (h.ticks _ _ hTick).undisturbed_of_dropped ((loops loop).issuer_renewer store) rfl
    · intro other found hFound
      have hFound : Function.update deployment.ticks loop none other = some found := hFound
      by_cases hOther : other = loop
      · subst hOther
        rw [Function.update_self] at hFound
        cases hFound
      · rw [Function.update_of_ne hOther] at hFound
        exact h.ticks other found hFound
  | loads reader hLoad =>
    obtain ⟨record, hRecord, hHolds⟩ := h.stored
    obtain rfl := hKeeps.loads hHolds hLoad
    exact h.setReader ((h.readers reader).load length_versions hRecord)
  | attaches hLoaded => exact h.setReader ((h.readers _).attach hLoaded)
  | updates hLoaded => exact h.setReader ((h.readers _).update hLoaded)
  | detaches reader => exact h.setReader (h.readers reader).detach

/-- **Every deployment that can be reached is sound.** -/
theorem Reachable.sound (hKeeps : store.Keeps holds)
    (h : Reachable loops store holds keys initial deployment) :
    deployment.Sound loops store holds keys initial := by
  induction h with
  | start hInitial =>
    constructor
    case stored => exact ⟨initial, rfl, hInitial⟩
    case published =>
      intro n publication hPublication
      cases hPublication
    case ticks =>
      intro loop tick hTick
      cases hTick
    case readers => exact fun reader => Reader.sound_ofKey
  | step _ hStep ih => exact hStep.sound hKeeps ih

end Steps

end Deployment

end CredentialLease
