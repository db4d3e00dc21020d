import CredentialLease.Proofs.Lifecycle.ManagedTicks

/-!
# Ticks that publish are possible

Where the entry of its manager holds no token, a tick publishes one if the login succeeds, the
endpoint issues a token of the name that it is asked for, and the record can be saved
(`Renewer.exists_run_published`). Whatever others do while it logs in, it ends this way.
-/

namespace CredentialLease

variable {κ : Type}

/-- What has changed in a world in which a token was obtained at once. -/
structure World.HasObtained (before after : World κ) : Prop where
  now : after.now = before.now
  identifiers : after.identifiers = before.identifiers
  drawn : after.drawn = before.drawn + 1
  contexts : after.contexts = before.contexts + 1
  released : after.released = before.contexts :: before.released

/-- The next context is new again. -/
theorem World.HasObtained.not_mem_released {before after : World κ} (h : before.HasObtained after)
    (hReleased : before.released = []) : after.contexts ∉ after.released := by
  rw [h.contexts, h.released, hReleased, List.mem_singleton]
  omega

namespace AuthProvider

variable (provider : AuthProvider κ) (context : AuthenticatedContext) (world : World κ)

/-- A logout draws no identifier. -/
theorem closeContext_drawn : (provider.closeContext context world).drawn = world.drawn := by
  obtain ⟨log, hClosed⟩ := provider.closeContext_eq context world
  rw [hClosed]

theorem closeContext_identifiers :
    (provider.closeContext context world).identifiers = world.identifiers := by
  obtain ⟨log, hClosed⟩ := provider.closeContext_eq context world
  rw [hClosed]

end AuthProvider

namespace LifecycleManager

/-- A manager of the entry under a key, with a provider that never answers of its own accord. -/
def plain (key : String) (window : RenewalWindow) : LifecycleManager κ :=
  ⟨⟨none, none, window, key, "lease-", none⟩, default, ⟨fun _ _ => .never, fun _ _ => .ok ()⟩⟩

variable {manager : LifecycleManager κ} {scene loggedIn : Scene κ CredentialState}
  {meanwhile : Scene κ CredentialState → Scene κ CredentialState → Prop} {token : AccessToken}

/-- The context of a login that ended in a scene. -/
def context (loggedIn : Scene κ CredentialState) : AuthenticatedContext :=
  (loggedIn.world.enter (.fresh default)).1

/-- The scene in which a manager calls the endpoint after a login that ended in a scene. -/
def calling (manager : LifecycleManager κ) (loggedIn : Scene κ CredentialState) :
    Scene κ CredentialState :=
  manager.acquirer.calling { loggedIn with world := (loggedIn.world.enter (.fresh default)).2 }
    (context loggedIn)

/-- The waits in which a manager obtains a token from an endpoint that takes no time, after a login
that ended in a scene. -/
def obtaining (manager : LifecycleManager κ) (scene loggedIn : Scene κ CredentialState)
    (token : AccessToken) : List (Wait (Scene κ CredentialState)) :=
  [⟨scene, .login manager.credentials,
      some (Except.ok (.fresh default) : Except CredentialError Admission), loggedIn⟩,
    ⟨manager.calling loggedIn,
      .issue (context loggedIn) (manager.acquirer.nextRequest (loggedIn.world.enter (.fresh default)).2),
      some (Except.ok token : Except Failure AccessToken), manager.calling loggedIn⟩]

/-- Every wait is answered. -/
theorem isSome_answer_of_mem_obtaining {wait : Wait (Scene κ CredentialState)}
    (h : wait ∈ manager.obtaining scene loggedIn token) : wait.answer.isSome = true := by
  rw [obtaining, List.mem_cons, List.mem_singleton] at h
  rcases h with rfl | rfl
  · rfl
  · rfl

/-- A manager that obtains a token at once obtains that token. -/
theorem obtains_obtaining (hName : token.name
      = manager.settings.tokenPrefix ++ loggedIn.world.identifiers loggedIn.world.drawn) :
    manager.Obtains (manager.obtaining scene loggedIn token) token :=
  ⟨_, loggedIn, _, _, _, _, _, rfl, rfl, hName⟩

/-- A token is obtained when the endpoint issues one of the name that it is asked for. -/
theorem exists_run_obtaining (hMeanwhile : meanwhile scene loggedIn)
    (hStays : ∀ scene : Scene κ CredentialState, meanwhile scene scene)
    (hNew : loggedIn.world.contexts ∉ loggedIn.world.released)
    (hName : token.name
      = manager.settings.tokenPrefix ++ loggedIn.world.identifiers loggedIn.world.drawn) :
    ∃ asked, Activity.Run meanwhile (manager.acquire scene)
        (manager.obtaining scene loggedIn token) asked (some (.ok token)) ∧
      asked.record = loggedIn.record ∧ asked.surroundings = loggedIn.surroundings ∧
      loggedIn.world.HasObtained asked.world := by
  have hAccepted : TokenAcquirer.accept (manager.acquirer.nextRequest
      (loggedIn.world.enter (.fresh default)).2) (.ok token) = .ok token :=
    TokenAcquirer.accept_eq_ok_iff.mpr ⟨rfl, hName⟩
  have hAction : Activity.Run meanwhile (manager.acquirer.acquire
      { loggedIn with world := (loggedIn.world.enter (.fresh default)).2 } (context loggedIn)) _ _ _ :=
    TokenAcquirer.run_acquire_iff.mpr
      (.answered (.ok token) (Admission.isActive_fresh hNew default) (hStays _))
  rw [hAccepted] at hAction
  refine ⟨_, run_withAuthenticatedContext_iff.mpr (.acted hMeanwhile hAction), rfl, ?_, ?_⟩
  · exact manager.provider.closeContext_surroundings _ _
  · have hAlone := manager.provider.closeContext_surroundings (context loggedIn)
      (manager.calling loggedIn)
    refine ⟨congrArg Prod.fst hAlone, ?_, ?_, ?_, ?_⟩
    · exact manager.provider.closeContext_identifiers _ _
    · exact manager.provider.closeContext_drawn _ _
    · exact manager.provider.closeContext_contexts _ _
    · exact manager.provider.closeContext_released _ _

end LifecycleManager

namespace Renewer

variable {renewer : Renewer κ CredentialState} {manager : LifecycleManager κ}
  {scene loggedIn : Scene κ CredentialState} {loaded : CredentialRecord}
  {meanwhile : Scene κ CredentialState → Scene κ CredentialState → Prop} {token : AccessToken}

/-- A tick that finds no token waits for a login, with the record that it has loaded. -/
theorem exists_tick_eq_waiting (hIssuer : renewer.issuer = manager.issuer)
    (hLoad : renewer.store.load scene.world.storage = .ok loaded)
    (hEntry : AccessToken.decodeStored (loaded.get manager.key) = .ok none) :
    ∃ (request : Request) (alarm : Option Duration)
      (onAnswer : Scene κ CredentialState → request.Answer →
        Activity (Scene κ CredentialState) (Except Failure TickOutcome))
      (onAlarm : alarm.isSome = true → Scene κ CredentialState →
        Activity (Scene κ CredentialState) (Except Failure TickOutcome))
      (onDrop : Scene κ CredentialState → Scene κ CredentialState),
      renewer.tick scene
        = .waiting { scene with record := loaded } request alarm onAnswer onAlarm onDrop := by
  rw [tick, hLoad]
  dsimp only
  rw [work, hIssuer]
  show ∃ request alarm onAnswer onAlarm onDrop,
    ((((manager.ensureIssued _).andThen _).within _).bind _) = _
  rw [LifecycleManager.ensureIssued, hEntry]
  exact ⟨_, _, _, _, _, rfl⟩

/-- **A tick that finds no token publishes one** when it obtains it and the record can be saved. -/
theorem exists_run_published (hIssuer : renewer.issuer = manager.issuer)
    (hLoad : renewer.store.load scene.world.storage = .ok loaded)
    (hEntry : AccessToken.decodeStored (loaded.get manager.key) = .ok none)
    (hMeanwhile : meanwhile { scene with record := loaded } loggedIn)
    (hRecord : loggedIn.record = loaded)
    (hStays : ∀ scene : Scene κ CredentialState, meanwhile scene scene)
    (hNew : loggedIn.world.contexts ∉ loggedIn.world.released)
    (hName : token.name
      = manager.settings.tokenPrefix ++ loggedIn.world.identifiers loggedIn.world.drawn)
    {after : κ} (hSave : renewer.store.save (loaded.put manager.key token.encode) loggedIn.world.storage
      = (.ok (), after)) :
    ∃ t, Activity.Run meanwhile (renewer.tick scene)
        (manager.obtaining { scene with record := loaded } loggedIn token) t
        (some (.ok .published)) ∧
      t.record = loaded.put manager.key token.encode ∧ t.world.storage = after ∧
      loggedIn.world.HasObtained t.world := by
  have hFresh : loaded.IsFresh manager.key token.name := by
    rw [CredentialRecord.IsFresh, hEntry]
    trivial
  obtain ⟨begun, hBegun⟩ : ∃ begun, begun = { scene with record := loaded } := ⟨_, rfl⟩
  rw [← hBegun] at hMeanwhile ⊢
  obtain ⟨asked, hAsked, hAskedRecord, hSurroundings, hObtained⟩ :=
    LifecycleManager.exists_run_obtaining hMeanwhile hStays hNew hName
  obtain ⟨stored, hStored⟩ : ∃ stored,
      stored = manager.store "access token issued" [] token asked := ⟨_, rfl⟩
  -- the token is stored, so issuing has changed the record and the work is done
  have hIssued : Activity.Run meanwhile (renewer.issuer.ensureIssued begun)
      (manager.obtaining begun loggedIn token) stored (some (.ok (.issued token.name))) := by
    rw [hIssuer]
    show Activity.Run meanwhile (manager.ensureIssued begun) _ _ _
    rw [LifecycleManager.ensureIssued, hBegun, hEntry, ← hBegun,
      ← List.append_nil (manager.obtaining begun loggedIn token), hStored]
    exact Activity.run_andThen_iff.mpr
      (.inr (.inr ⟨_, [], asked, token, rfl, hAsked, .finished _ _⟩))
  have hWork : Activity.Run meanwhile (renewer.work begun) _ _ _ :=
    run_work_iff.mpr (.issued hIssued rfl)
  have hWithin : Activity.Run meanwhile ((renewer.work begun).within (renewer.deadline scene)) _ _ _ :=
    hWork.within fun _ => LifecycleManager.isSome_answer_of_mem_obtaining
  have hRecord' : stored.record = loaded.put manager.key token.encode := by
    rw [hStored, LifecycleManager.store, hAskedRecord, hRecord]
  have hStorage : stored.world.storage = loggedIn.world.storage := by
    rw [hStored]
    exact congrArg (fun around => around.2.2) hSurroundings
  have hPublish : renewer.publish loaded stored (renewer.verdict (some (.ok ()))) =
      (stored.mapWorld fun world => { world with storage := after }.info .renewer
        "credential record published" [], .ok .published) := by
    rw [publish, hRecord', if_neg (CredentialRecord.put_encode_ne hFresh), hStorage, hSave]
    rfl
  refine ⟨stored.mapWorld fun world => { world with storage := after }.info .renewer
    "credential record published" [], ?_, hRecord', rfl, ?_⟩
  · rw [tick, hLoad, ← List.append_nil (manager.obtaining begun loggedIn token)]
    dsimp only
    rw [← hBegun]
    refine Activity.run_bind_iff.mpr (.inr ⟨_, [], _, _, rfl, hWithin, ?_⟩)
    rw [hPublish]
    exact .finished _ _
  · rw [hStored]
    exact ⟨hObtained.now, hObtained.identifiers, hObtained.drawn, hObtained.contexts,
      hObtained.released⟩

end Renewer

end CredentialLease
