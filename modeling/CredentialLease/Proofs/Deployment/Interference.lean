import CredentialLease.Proofs.Deployment.Versions
import CredentialLease.Proofs.Lifecycle.Publishing

/-!
# Ticks for different keys that overlap

A tick saves the record as a whole. So the tick that saves last decides about every entry: under its
own key it has put a token, and under every other key it leaves what it had loaded. A token that
another tick has published in between is lost (`exists_update_lost`).

Main statement: `entries_after_two_publications`. The token of the tick that saved first is kept
exactly when the other one has loaded the record after that.
-/

namespace CredentialLease

variable {ι ω κ : Type}

/-! ### What a publication does to the entries -/

namespace Publication

variable {publication : Publication ι κ} {manager : LifecycleManager κ} {loaded : CredentialRecord}
  {token : AccessToken}

/-- **A publication puts a token under the key of its manager** and leaves what was loaded under the
others. -/
theorem Stores.get (h : publication.Stores manager loaded token) (key : String) :
    publication.record.get key = if key = manager.key then some token.encode else loaded.get key := by
  rw [h.record, CredentialRecord.get_put]

theorem Stores.get_self (h : publication.Stores manager loaded token) :
    publication.record.get manager.key = some token.encode := by
  rw [h.get, if_pos rfl]

theorem Stores.get_of_ne (h : publication.Stores manager loaded token) {key : String}
    (hKey : key ≠ manager.key) : publication.record.get key = loaded.get key := by
  rw [h.get, if_neg hKey]

/-- The token was not there before. -/
theorem Stores.get_ne (h : publication.Stores manager loaded token) :
    loaded.get manager.key ≠ some token.encode := by
  intro hThere
  exact h.changed (h.record.trans (CredentialRecord.put_eq_self hThere))

end Publication

namespace Deployment

variable [DecidableEq ι] [DecidableEq ω] {loops : ι → ControlLoop κ} {store : RecordStore κ}
  {holds : κ → CredentialRecord → Prop} {keys : ω → String} {initial : CredentialRecord}
  {deployment : Deployment ι ω κ} {loop : ι}

/-! ### Ticks that can publish -/

section Ticks

variable {scene : Scene κ CredentialState} {loaded : CredentialRecord}

/-- A tick that begins and finds no token waits, and nothing in the world has changed. -/
theorem Reachable.begins (h : Reachable loops store holds keys initial deployment) (loop : ι)
    (scene : Scene κ CredentialState) (hIdle : deployment.ticks loop = none)
    (hWorld : scene.world = deployment.world)
    (hLoad : store.load deployment.world.storage = .ok loaded)
    (hEntry : AccessToken.decodeStored (loaded.get (loops loop).manager.key) = .ok none) :
    ∃ next : Deployment ι ω κ, Reachable loops store holds keys initial next ∧
      next.world = deployment.world ∧ next.published = deployment.published ∧
      next.readers = deployment.readers ∧
      next.ticks = Function.update deployment.ticks loop (some
        ⟨deployment.published.length, scene, [], ((loops loop).renewer store).tick scene⟩) := by
  obtain ⟨request, alarm, onAnswer, onAlarm, onDrop, hWaiting⟩ :=
    Renewer.exists_tick_eq_waiting ((loops loop).issuer_renewer store)
      (hWorld ▸ hLoad : store.load scene.world.storage = .ok loaded) hEntry
  refine ⟨_, h.step (.begins loop hIdle hWorld), ?_⟩
  rw [hWaiting]
  exact ⟨hWorld, List.append_nil _, rfl, rfl⟩

/-- **A tick that has found no token can publish one**, whatever has happened since, when it obtains
it and the record can be saved. -/
theorem Reachable.publishes {seen : Nat} {after : κ}
    (h : Reachable loops store holds keys initial deployment) (loop : ι) (token : AccessToken)
    (hTick : deployment.ticks loop = some ⟨seen, scene, [], ((loops loop).renewer store).tick scene⟩)
    (hLoad : store.load scene.world.storage = .ok loaded)
    (hEntry : AccessToken.decodeStored (loaded.get (loops loop).manager.key) = .ok none)
    (hNew : deployment.world.contexts ∉ deployment.world.released)
    (hName : token.name = (loops loop).manager.settings.tokenPrefix
      ++ deployment.world.identifiers deployment.world.drawn)
    (hSave : store.save (loaded.put (loops loop).manager.key token.encode) deployment.world.storage
      = (.ok (), after)) :
    ∃ (next : Deployment ι ω κ) (publication : Publication ι κ),
      Reachable loops store holds keys initial next ∧ next.world.storage = after ∧
      deployment.world.HasObtained next.world ∧
      next.published = deployment.published ++ [publication] ∧
      next.readers = deployment.readers ∧
      next.ticks = Function.update deployment.ticks loop none ∧
      publication.loop = loop ∧ publication.seen = seen ∧
      publication.record = loaded.put (loops loop).manager.key token.encode := by
  -- the login ends in the world of the deployment, and from then on nobody else takes a step
  obtain ⟨loggedIn, hLoggedIn⟩ : ∃ loggedIn : Scene κ CredentialState,
      loggedIn = { scene with record := loaded, world := deployment.world } := ⟨_, rfl⟩
  have hWorld : loggedIn.world = deployment.world := by rw [hLoggedIn]
  have hOwn : Scene.KeepsOwn { scene with record := loaded } loggedIn := by
    rw [hLoggedIn]
    rfl
  rw [← hWorld] at hNew hName hSave
  obtain ⟨t, hRun, hRecord, hStorage, hObtained⟩ :=
    Renewer.exists_run_published ((loops loop).issuer_renewer store) hLoad hEntry hOwn
      (by rw [hLoggedIn]) (fun _ => rfl) hNew hName hSave
  have hFinished := h.finishes_of_waiting hTick hRun hWorld (by
    intro wait hWait
    obtain rfl := List.mem_singleton.mp hWait
    exact .refl holds _)
  exact ⟨_, _, hFinished, hStorage, hWorld ▸ hObtained, rfl, rfl, rfl, rfl, rfl, hRecord⟩

/-- A tick can publish a token with nobody else taking a step. -/
theorem Reachable.begins_publishes {after : κ}
    (h : Reachable loops store holds keys initial deployment) (loop : ι) (token : AccessToken)
    (hIdle : deployment.ticks loop = none)
    (hLoad : store.load deployment.world.storage = .ok loaded)
    (hEntry : AccessToken.decodeStored (loaded.get (loops loop).manager.key) = .ok none)
    (hNew : deployment.world.contexts ∉ deployment.world.released)
    (hName : token.name = (loops loop).manager.settings.tokenPrefix
      ++ deployment.world.identifiers deployment.world.drawn)
    (hSave : store.save (loaded.put (loops loop).manager.key token.encode) deployment.world.storage
      = (.ok (), after)) :
    ∃ (next : Deployment ι ω κ) (publication : Publication ι κ),
      Reachable loops store holds keys initial next ∧ next.world.storage = after ∧
      deployment.world.HasObtained next.world ∧
      next.published = deployment.published ++ [publication] ∧
      next.readers = deployment.readers ∧
      next.ticks = Function.update deployment.ticks loop none ∧
      publication.loop = loop ∧ publication.seen = deployment.published.length ∧
      publication.record = loaded.put (loops loop).manager.key token.encode := by
  obtain ⟨begun, hBegun, hWorld, hPublished, hReaders, hTicks⟩ :=
    h.begins loop ⟨deployment.world, loaded, .unissued⟩ hIdle rfl hLoad hEntry
  have hTick := congrFun hTicks loop
  rw [Function.update_self] at hTick
  rw [← hWorld] at hNew hName hSave
  obtain ⟨next, publication, hNext, hStorage, hObtained, hMore, hKept, hEnded, hResult⟩ :=
    hBegun.publishes loop token hTick hLoad hEntry hNew hName hSave
  rw [hPublished] at hMore
  rw [hTicks, Function.update_idem] at hEnded
  exact ⟨next, publication, hNext, hStorage, hWorld ▸ hObtained, hMore, hKept.trans hReaders, hEnded,
    hResult⟩

end Ticks

/-! ### Two ticks -/

/-- **What the storage holds after two ticks for different keys have published.** Under the key of the
one that saved last it holds the token that this tick has obtained. Under the other key it holds the
token of the other tick exactly when the last one had loaded the record after that was saved, and
else what was there before both. -/
theorem entries_after_two_publications (hKeeps : store.Keeps holds)
    (hReachable : Reachable loops store holds keys initial deployment)
    {first last : Publication ι κ} (hPublished : deployment.published = [first, last])
    (hKeys : (loops first.loop).manager.key ≠ (loops last.loop).manager.key) :
    ∃ record firstToken lastToken, holds deployment.world.storage record ∧
      (loops first.loop).manager.Obtains first.waits firstToken ∧
      first.record.get (loops first.loop).manager.key = some firstToken.encode ∧
      (loops last.loop).manager.Obtains last.waits lastToken ∧
      last.record.get (loops last.loop).manager.key = some lastToken.encode ∧
      record.get (loops last.loop).manager.key = some lastToken.encode ∧
      (record.get (loops first.loop).manager.key = some firstToken.encode ↔ last.seen = 1) ∧
      (last.seen ≠ 1 → record.get (loops first.loop).manager.key
        = initial.get (loops first.loop).manager.key) := by
  have hSound := hReachable.sound hKeeps
  have hVersions : deployment.versions initial = [initial, first.record, last.record] := by
    rw [versions, hPublished]
    rfl
  obtain ⟨record, hRecord, hHolds⟩ := hSound.stored
  obtain ⟨hFirstSeen, before, firstToken, hBefore, hFirst⟩ :=
    hSound.published 0 first (by rw [hPublished]; rfl)
  obtain ⟨hLastSeen, loaded, lastToken, hLoaded, hLast⟩ :=
    hSound.published 1 last (by rw [hPublished]; rfl)
  rw [hVersions] at hRecord hBefore hLoaded
  rw [hPublished] at hRecord
  obtain rfl : last.record = record := Option.some.inj hRecord
  rw [Nat.le_zero.mp hFirstSeen] at hBefore
  obtain rfl : initial = before := Option.some.inj hBefore
  refine ⟨_, firstToken, lastToken, hHolds, hFirst.obtained, hFirst.get_self, hLast.obtained,
    hLast.get_self, hLast.get_self, ?_⟩
  rw [hLast.get_of_ne hKeys]
  obtain hSeen | hSeen : last.seen = 0 ∨ last.seen = 1 := by omega
  · -- the last tick has put back what was there before both
    rw [hSeen] at hLoaded
    obtain rfl : initial = loaded := Option.some.inj hLoaded
    rw [hSeen]
    refine ⟨⟨fun hKept => ?_, fun h => ?_⟩, fun _ => rfl⟩
    · exact absurd hKept hFirst.get_ne
    · cases h
  · rw [hSeen] at hLoaded
    obtain rfl : first.record = loaded := Option.some.inj hLoaded
    exact ⟨⟨fun _ => hSeen, fun _ => hFirst.get_self⟩, fun h => absurd hSeen h⟩

/-- Two loops, for the keys `a` and `b`. -/
def pair (last : Bool) : ControlLoop κ :=
  ⟨.plain (if last then "b" else "a") .invalid, Renewer.defaultPeriod, Renewer.defaultTickTimeout⟩

/-- A deployment of the two loops around a store in memory that is empty at first. -/
def ReachablePair (deployment : Deployment Bool Unit CredentialRecord) : Prop :=
  Reachable pair .memory (fun storage record => storage = record) (fun _ => "a") .empty deployment

/-- The loops can begin, and there are tokens of the names that they ask for. -/
theorem exists_reachablePair :
    ∃ (deployment : Deployment Bool Unit CredentialRecord) (first last : AccessToken),
      ReachablePair deployment ∧ deployment.world.storage = .empty ∧
      deployment.published = [] ∧ deployment.ticks = (fun _ => none) ∧
      deployment.world.released = [] ∧
      first.name = "lease-" ++ deployment.world.identifiers deployment.world.drawn ∧
      last.name = "lease-" ++ deployment.world.identifiers (deployment.world.drawn + 1) :=
  ⟨start (.start ⟨0⟩ .empty fun n => if n = 0 then "0" else "1") fun _ => "a",
    ⟨"lease-0", ⟨[]⟩, 0, 1, by decide, by decide, by decide⟩,
    ⟨"lease-1", ⟨[]⟩, 0, 1, by decide, by decide, by decide⟩,
    .start rfl, rfl, rfl, rfl, rfl, rfl, rfl⟩

/-- When a tick for the key `a` publishes a token and then one for the key `b` does, both are kept. -/
theorem entries_after_two_publications_in_turn :
    ∃ (deployment : Deployment Bool Unit CredentialRecord)
      (first last : Publication Bool CredentialRecord) (firstToken lastToken : AccessToken),
      ReachablePair deployment ∧ deployment.published = [first, last] ∧ last.seen = 1 ∧
      deployment.world.storage.get "a" = some firstToken.encode ∧
      deployment.world.storage.get "b" = some lastToken.encode := by
  obtain ⟨d₀, firstToken, lastToken, h₀, hStorage₀, hPublished₀, hTicks₀, hReleased₀, hFirst,
    hLast⟩ := exists_reachablePair
  obtain ⟨d₁, first, h₁, hStorage₁, hObtained, hPublished₁, -, hTicks₁, hLoop₁, -, -⟩ :=
    h₀.begins_publishes false firstToken (by rw [hTicks₀]) rfl (by rw [hStorage₀]; rfl)
      (by rw [hReleased₀]; exact List.not_mem_nil) hFirst rfl
  have hName : lastToken.name = "lease-" ++ d₁.world.identifiers d₁.world.drawn := by
    rw [hLast, hObtained.identifiers, hObtained.drawn]
  obtain ⟨d₂, last, h₂, -, -, hPublished₂, -, -, hLoop₂, hSeen₂, -⟩ :=
    h₁.begins_publishes true lastToken (by rw [hTicks₁, hTicks₀]; rfl) rfl
      (by rw [hStorage₁, hStorage₀]; rfl) (hObtained.not_mem_released hReleased₀) hName rfl
  rw [hPublished₀] at hPublished₁
  rw [hPublished₁] at hPublished₂ hSeen₂
  obtain ⟨_, firstToken, lastToken, rfl, -, -, -, -, hLastKept, hFirstKept, -⟩ :=
    entries_after_two_publications RecordStore.keeps_memory h₂ hPublished₂
      (by rw [hLoop₁, hLoop₂]; decide)
  rw [hLoop₁] at hFirstKept
  rw [hLoop₂] at hLastKept
  exact ⟨d₂, first, last, firstToken, lastToken, h₂, hPublished₂, hSeen₂, hFirstKept.mpr hSeen₂,
    hLastKept⟩

/-- A tick for the key `b` begins before a tick for the key `a` and publishes after it. Then the token
that was published under `a` is no longer there. -/
theorem exists_update_lost :
    ∃ (deployment : Deployment Bool Unit CredentialRecord)
      (first last : Publication Bool CredentialRecord) (token : AccessToken),
      ReachablePair deployment ∧ deployment.published = [first, last] ∧
      first.loop = false ∧ last.loop = true ∧ (∀ loop, deployment.ticks loop = none) ∧
      first.record.get "a" = some token.encode ∧ deployment.world.storage.get "a" = none := by
  obtain ⟨d₀, token, lastToken, h₀, hStorage₀, hPublished₀, hTicks₀, hReleased₀, hFirst,
    hLast⟩ := exists_reachablePair
  obtain ⟨scene, hScene⟩ : ∃ scene : Scene CredentialRecord CredentialState,
      scene = ⟨d₀.world, .empty, .unissued⟩ := ⟨_, rfl⟩
  obtain ⟨d₁, h₁, hWorld₁, hPublished₁, -, hTicks₁⟩ := h₀.begins true scene (by rw [hTicks₀])
    (by rw [hScene]) rfl (by rw [hStorage₀]; rfl)
  rw [← hWorld₁] at hStorage₀ hReleased₀ hFirst hLast
  obtain ⟨d₂, first, h₂, -, hObtained, hPublished₂, -, hTicks₂, hLoop₂, -, hRecord₂⟩ :=
    h₁.begins_publishes false token (by rw [hTicks₁, hTicks₀]; rfl) rfl (by rw [hStorage₀]; rfl)
      (by rw [hReleased₀]; exact List.not_mem_nil) hFirst rfl
  have hName : lastToken.name = "lease-" ++ d₂.world.identifiers d₂.world.drawn := by
    rw [hLast, hObtained.identifiers, hObtained.drawn]
  -- the tick for `b` has loaded the record that was there at first
  have hLoad : RecordStore.memory.load scene.world.storage = .ok .empty := by
    rw [hScene, ← hStorage₀, hWorld₁]
    rfl
  obtain ⟨d₃, last, h₃, hStorage₃, -, hPublished₃, -, hTicks₃, hLoop₃, -, -⟩ :=
    h₂.publishes true lastToken (by rw [hTicks₂, hTicks₁]; rfl) hLoad rfl
      (hObtained.not_mem_released hReleased₀) hName rfl
  refine ⟨d₃, first, last, token, h₃, ?_, hLoop₂, hLoop₃, ?_, ?_, ?_⟩
  · rw [hPublished₃, hPublished₂, hPublished₁, hPublished₀]
    rfl
  · intro loop
    rw [hTicks₃, hTicks₂, hTicks₁, hTicks₀]
    cases loop <;> rfl
  · rw [hRecord₂]
    exact CredentialRecord.get_put_self _ _ _
  · rw [hStorage₃, CredentialRecord.get_put]
    rfl

end Deployment

end CredentialLease
