import CredentialLease.Proofs.Base64.Canonical
import CredentialLease.Proofs.Deployment.Workers
import CredentialLease.Proofs.Record.SavedFiles

/-!
# From the endpoint to the header of a worker

The secret that the endpoint gives goes into the binary form of a token, into base64, into the text of
a JSON object and into a file, and all the way back before a worker uses it. Nothing is lost on the
way: after a tick that publishes, the file holds the record that the tick had loaded with the token in
the entry of the manager (`Renewer.load_of_published`), and a worker that reads the file binds that
very token.

Main statement: `Renewer.published_is_delivered`.
-/

namespace CredentialLease

/-! ### Workers -/

/-- A worker binds the token whose stored form is in its entry. -/
theorem WorkerCredentials.attach_of_stored {worker : WorkerCredentials} {record : CredentialRecord}
    {token : AccessToken} (hEntry : record.get worker.key = some token.encode)
    (hSecret : token.secret.length < 2 ^ 32) :
    worker.attach record = ({ worker with bound := some token }, .bound token) := by
  rw [attach, find_of_stored hEntry hSecret]

namespace Renewer

variable {renewer : Renewer Disk CredentialState} {manager : LifecycleManager Disk} {path : String}
  {room : Disk → Option Nat}
  {scene t : Scene Disk CredentialState} {loaded : CredentialRecord}
  {waits : List (Wait (Scene Disk CredentialState))}

/-! ### The file after a tick -/

/-- **After a tick that publishes, the file holds what the tick has worked out**: the record that it
had loaded, with a token that was obtained in this tick in the entry of the manager. -/
theorem load_of_published (hIssuer : renewer.issuer = manager.issuer)
    (hStore : renewer.store = FileStore.store path room)
    (hLoad : FileStore.load path scene.world.storage = .ok loaded)
    (hRun : Activity.Run Scene.KeepsRecord (renewer.tick scene) waits t (some (.ok .published))) :
    ∃ token, manager.Obtains waits token ∧
      FileStore.load path t.world.storage = .ok (loaded.put manager.key token.encode) := by
  have hLoaded : renewer.store.load scene.world.storage = .ok loaded := by
    rw [hStore]
    exact hLoad
  obtain ⟨hNone, -⟩ | ⟨ended, came, answer, hAnswer, hWork, hPublishes⟩ := run_tick hLoaded hRun
  · cases hNone
  obtain rfl := Option.some.inj hAnswer
  obtain ⟨-, hDiffers, hSave⟩ := hPublishes.published_iff.mp rfl
  obtain ⟨token, hObtains, hStored, -⟩ := (hWork.keeps_or_stores hIssuer).resolve_left hDiffers
  refine ⟨token, hObtains, ?_⟩
  have hAfter := hPublishes.storage
  rw [saved, if_neg hDiffers, RecordStore.saving_singleton] at hAfter
  rw [hStore] at hSave hAfter
  have hFile : FileStore.load path t.world.storage = .ok ended.record :=
    FileStore.load_of_save (Prod.ext hSave hAfter.symm)
  rw [hFile, hStored]

/-! ### Delivery -/

/-- **A token that is published reaches every worker**, for every path and every room on the disk, every
key and prefix, and whatever the entry of the manager held before. After a tick that answers that it has published, the
file loads. The endpoint has granted a token in this tick under the name that it was asked for; if its
secret has a length that can be stored, a worker with the key of the manager that reads the file binds
this token, and authorizes its calls with the base64 of exactly the secret bytes that were granted.
All other entries of the file are as they were loaded. -/
theorem published_is_delivered (hIssuer : renewer.issuer = manager.issuer)
    (hStore : renewer.store = FileStore.store path room)
    (hLoad : FileStore.load path scene.world.storage = .ok loaded)
    (hRun : Activity.Run Scene.KeepsRecord (renewer.tick scene) waits t (some (.ok .published))) :
    ∃ token record, manager.Obtains waits token ∧
      FileStore.load path t.world.storage = .ok record ∧
      (token.secret.length < 2 ^ 32 → ∀ worker : WorkerCredentials, worker.key = manager.key →
        worker.attach record = ({ worker with bound := some token }, .bound token)) ∧
      (∃ text, token.authorizationHeader = "ApiKey " ++ text ∧
        text = Base64.encode token.secret.bytes ∧ Base64.decode text = .ok token.secret.bytes) ∧
      ∀ key, key ≠ manager.key → record.get key = loaded.get key := by
  obtain ⟨token, hObtains, hFile⟩ := load_of_published hIssuer hStore hLoad hRun
  refine ⟨token, _, hObtains, hFile, fun hSecret worker hKey => ?_, ?_, fun key hKey => ?_⟩
  · refine WorkerCredentials.attach_of_stored ?_ hSecret
    rw [hKey, CredentialRecord.get_put_self]
  · exact ⟨_, rfl, rfl, Base64.decode_eq_ok_iff.mpr rfl⟩
  · rw [CredentialRecord.get_put, if_neg hKey]

/-- A first token is published into a file that holds another entry, and reaches a worker. -/
theorem published_is_delivered_once :
    ∃ (renewer : Renewer Disk CredentialState) (scene t : Scene Disk CredentialState)
      (token : AccessToken) (record : CredentialRecord),
      (∃ waits, Activity.Run Scene.KeepsRecord (renewer.tick scene) waits t
        (some (.ok .published))) ∧
      FileStore.load "lease.json" t.world.storage = .ok record ∧
      ((WorkerCredentials.ofKey "key").attach record).2 = .bound token ∧
      token.authorizationHeader = "ApiKey AAH/" ∧
      record.get "other" = some "value" := by
  obtain ⟨manager, hManager⟩ : ∃ manager : LifecycleManager Disk, manager = .plain "key" .invalid :=
    ⟨_, rfl⟩
  obtain ⟨renewer, hRenewer⟩ : ∃ renewer : Renewer Disk CredentialState,
      renewer = ⟨manager.issuer, FileStore.store "lease.json", defaultPeriod, defaultTickTimeout⟩ :=
    ⟨_, rfl⟩
  obtain ⟨token, hName, hBytes⟩ : ∃ token : AccessToken,
      token.name = "lease-1" ∧ token.secret.bytes = [0, 1, 255] :=
    ⟨⟨"lease-1", ⟨[0, 1, 255]⟩, 0, 1, by decide, by decide, by decide⟩, rfl, rfl⟩
  obtain ⟨loaded, hLoaded⟩ : ∃ loaded : CredentialRecord,
      loaded = CredentialRecord.empty.put "other" "value" := ⟨_, rfl⟩
  -- the file was saved before, with one other entry
  obtain ⟨disk, hDisk⟩ : ∃ disk : Disk,
      disk = ⟨⟨[(["lease.json"], .file (utf8 loaded.toJson.pretty))], []⟩, 0, 1⟩ := ⟨_, rfl⟩
  have hLoad : FileStore.load "lease.json" disk = .ok loaded := by
    have hFirst : FileStore.save "lease.json" loaded ⟨.fresh [], 0, 0⟩ = (.ok (), disk) := by
      rw [hDisk]
      exact FileStore.save_of_moved rfl rfl rfl
    exact FileStore.load_of_save hFirst
  obtain ⟨after, hSave⟩ : ∃ after, FileStore.save "lease.json" (loaded.put manager.key token.encode)
      disk = (.ok (), after) := by
    have hTemporary : FileStore.temporaryPath "lease.json" disk = "lease.json.0.1.tmp" := by
      rw [hDisk]
      show FileStore.temporaryPath "lease.json" ⟨.fresh [], 0, 1⟩ = _
      rfl
    have hParent : FileStore.makeParent disk.tree "lease.json" = (.ok (), disk.tree) := by
      rw [hDisk]
      rfl
    obtain ⟨written, hWrite, moved, hMove⟩ : ∃ written,
        disk.tree.write "lease.json.0.1.tmp" (utf8 (loaded.put manager.key token.encode).toJson.pretty)
          = .ok written ∧
        ∃ moved, written.moveFile "lease.json.0.1.tmp" "lease.json" = .ok moved := by
      rw [hDisk]
      exact ⟨_, rfl, _, rfl⟩
    rw [← hTemporary] at hWrite hMove
    exact ⟨_, FileStore.save_of_moved hParent hWrite hMove⟩
  obtain ⟨scene, hScene⟩ : ∃ scene : Scene Disk CredentialState,
      scene = ⟨.start ⟨0⟩ disk fun _ => "1", loaded, .unissued⟩ := ⟨_, rfl⟩
  have hIssuer : renewer.issuer = manager.issuer := by rw [hRenewer]
  have hStore : renewer.store = FileStore.store "lease.json" := by rw [hRenewer]
  have hStorage : scene.world.storage = disk := by
    rw [hScene]
    rfl
  have hLoad' : FileStore.load "lease.json" scene.world.storage = .ok loaded := by
    rw [hStorage, hLoad]
  have hNamed : token.name
      = manager.settings.tokenPrefix ++ scene.world.identifiers scene.world.drawn := by
    rw [hName, hManager, hScene]
    rfl
  obtain ⟨t, hRun⟩ : ∃ t, Activity.Run Scene.KeepsRecord (renewer.tick scene)
      (manager.obtaining { scene with record := loaded } scene token) t
      (some (.ok .published)) := by
    obtain ⟨t, hRun, -, -, -⟩ := exists_run_published hIssuer (by rw [hStore]; exact hLoad')
      (by rw [hLoaded, hManager]; rfl) (by rw [hScene]; rfl : Scene.KeepsRecord _ scene)
      (by rw [hScene]) (fun _ => rfl) (by rw [hScene]; exact List.not_mem_nil) hNamed
      (by rw [hStore, hStorage]; exact hSave)
    exact ⟨t, hRun⟩
  obtain ⟨granted, record, hObtains, hFile, hBinds, ⟨text, hHeader, hText, -⟩, hOthers⟩ :=
    published_is_delivered hIssuer hStore hLoad' hRun
  obtain rfl : granted = token := hObtains.unique (LifecycleManager.obtains_obtaining hNamed)
  refine ⟨renewer, scene, t, granted, record, ⟨_, hRun⟩, hFile, ?_, ?_, ?_⟩
  · have hSecret : granted.secret.length < 2 ^ 32 := by
      rw [SecretMaterial.length, hBytes]
      decide
    rw [hBinds hSecret (.ofKey "key") (by rw [hManager]; rfl)]
  · rw [hHeader, hText, hBytes]
    decide
  · rw [hOthers "other" (by rw [hManager]; decide), hLoaded, CredentialRecord.get_put_self]

end Renewer

end CredentialLease
