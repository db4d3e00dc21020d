import CredentialLease.Proofs.Record.AtomicSaves
import CredentialLease.Proofs.Record.Replacement

/-!
# The file store is a memory that lasts

As far as its answers tell, a store of a file that starts without a record is a record in memory
that starts empty: every load gives the record that was saved last, whatever its keys and values
are, as long as no save fails (`FileStore.refines_memory`). The argument is a simulation. The disk
stands for the record that is loaded from it, each operation that succeeds on both leaves them
standing for each other (`RecordStore.Simulates`), and so does a sequence of operations, by
induction on it.
-/

namespace CredentialLease

namespace RecordStore

variable {κ μ : Type}

/-! ### Sequences of operations -/

/-- What can be done with a store. -/
inductive Operation where
  | load
  | save (record : CredentialRecord)

/-- What comes of an operation. -/
inductive Answer where
  | loaded (result : Except Failure CredentialRecord)
  | saved (result : Except Failure Unit)
deriving DecidableEq

/-- Performs an operation on a storage. -/
def performOne (store : RecordStore κ) (storage : κ) : Operation → Answer × κ
  | .load => (.loaded (store.load storage), storage)
  | .save record => (.saved (store.save record storage).1, (store.save record storage).2)

/-- What comes of operations that are performed one after the other. -/
def perform (store : RecordStore κ) : List Operation → κ → List Answer
  | [], _ => []
  | operation :: rest, storage =>
    (store.performOne storage operation).1
      :: store.perform rest (store.performOne storage operation).2

/-- Whether no save has failed. -/
def NoSaveFails (answers : List Answer) : Prop :=
  ∀ failure, Answer.saved (.error failure) ∉ answers

/-! ### Simulation -/

/-- **Whether a store simulates another one**, of which storages stand for each other as `stands`
says: the same is loaded from these, and a save that succeeds succeeds on both and leaves storages
that stand for each other again. -/
structure Simulates (store : RecordStore κ) (other : RecordStore μ) (stands : κ → μ → Prop) :
    Prop where
  load : ∀ {storage held}, stands storage held → store.load storage = other.load held
  save : ∀ {storage held after} (record : CredentialRecord), stands storage held →
    store.save record storage = (.ok (), after) →
    ∃ next, other.save record held = (.ok (), next) ∧ stands after next

variable {store : RecordStore κ} {other : RecordStore μ} {stands : κ → μ → Prop} {storage : κ}
  {held : μ}

/-- One operation comes to the same on both, unless it is a save that fails. -/
theorem Simulates.performOne (h : store.Simulates other stands) (hStands : stands storage held)
    (operation : Operation)
    (hSaves : ∀ failure, (store.performOne storage operation).1 ≠ .saved (.error failure)) :
    (store.performOne storage operation).1 = (other.performOne held operation).1 ∧
    stands (store.performOne storage operation).2 (other.performOne held operation).2 := by
  cases operation with
  | load => exact ⟨congrArg Answer.loaded (h.load hStands), hStands⟩
  | save record =>
    cases hSave : store.save record storage with
    | mk result after =>
      unfold RecordStore.performOne at hSaves ⊢
      simp only [hSave] at hSaves ⊢
      cases result with
      | error failure => exact absurd rfl (hSaves failure)
      | ok done =>
        obtain ⟨next, hOther, hNext⟩ := h.save record hStands hSave
        rw [hOther]
        exact ⟨rfl, hNext⟩

/-- **A sequence of operations comes to the same on both.** -/
theorem Simulates.perform (h : store.Simulates other stands) (hStands : stands storage held)
    (operations : List Operation) (hSaves : NoSaveFails (store.perform operations storage)) :
    store.perform operations storage = other.perform operations held := by
  induction operations generalizing storage held with
  | nil => rfl
  | cons operation rest ih =>
    unfold RecordStore.perform at hSaves ⊢
    have hFirst : ∀ failure, (store.performOne storage operation).1 ≠ .saved (.error failure) :=
      fun failure hFailed => hSaves failure (hFailed ▸ List.mem_cons_self)
    have hRest : NoSaveFails (store.perform rest (store.performOne storage operation).2) :=
      fun failure hFailed => hSaves failure (List.mem_cons_of_mem _ hFailed)
    obtain ⟨hAnswer, hNext⟩ := h.performOne hStands operation hFirst
    rw [hAnswer, ih hNext hRest]

end RecordStore

namespace FileStore

variable {path : String} {disk after : Disk} {record : CredentialRecord} {room : Option Nat}

/-! ### The file store -/

/-- **Whether the file of a record starts without one**: the path leads to nothing, because
something on its way is missing, or to a file that is blank. -/
def StartsEmpty (path : String) (disk : Disk) : Prop :=
  disk.tree.locate path = .error .notFound ∨
  ∃ contents text, disk.tree.read path = .ok contents ∧ ofUtf8 contents = some text ∧
    isBlankText text = true

/-- Then the empty record is loaded. -/
theorem load_of_startsEmpty (h : StartsEmpty path disk) : load path disk = .ok .empty := by
  unfold load
  rcases h with hNone | ⟨contents, text, hRead, hText, hBlank⟩
  · have hRead : disk.tree.read path = .error .notFound := by
      unfold FileTree.read
      rw [hNone]
      rfl
    rw [hRead]
  · rw [hRead]
    dsimp only
    rw [hText]
    show parse path text = _
    unfold parse
    rw [if_pos hBlank]

/-- **A disk stands for the record that is loaded from it.** -/
theorem simulates_memory (path : String) (room : Disk → Option Nat) :
    (store path room).Simulates .memory fun disk record => load path disk = .ok record where
  load := id
  save := fun record _ hSave => ⟨record, rfl, load_of_save hSave⟩

/-- What is loaded from a file that can be read stays there when it is saved, whether the save
succeeds or fails. -/
theorem load_of_save_loaded {contents : Bytes} {result : Except Failure Unit}
    (hTree : disk.tree.WellFormed) (hRead : disk.tree.read path = .ok contents)
    (hLoad : load path disk = .ok record) (hSave : save path record disk room = (result, after)) :
    load path after = .ok record := by
  cases result with
  | ok done => exact load_of_save hSave
  | error failure =>
    have hKept := (keepsFile_of_save_error hTree hSave).2.read contents hRead
    unfold load at hLoad ⊢
    rw [hRead] at hLoad
    rw [hKept]
    exact hLoad

/-- **The store of a file is a memory that lasts.** If the file starts without a record, all that
loads and saves give is what a record in memory gives that starts empty, as long as no save fails.
And what is loaded from a file, whatever its text is, is what is loaded again after it has been
saved. Both hold whatever room there is for files. -/
theorem refines_memory (path : String) (room : Disk → Option Nat) (disk : Disk) :
    (StartsEmpty path disk → ∀ operations : List RecordStore.Operation,
      RecordStore.NoSaveFails ((store path room).perform operations disk) →
      (store path room).perform operations disk = RecordStore.memory.perform operations .empty) ∧
    (disk.tree.WellFormed → ∀ contents record, disk.tree.read path = .ok contents →
      load path disk = .ok record → ∀ result after,
      save path record disk (room disk) = (result, after) → load path after = .ok record) := by
  refine ⟨fun hEmpty operations hSaves => ?_, ?_⟩
  · exact (simulates_memory path room).perform (load_of_startsEmpty hEmpty) operations hSaves
  · intro hTree contents record hRead hLoad result after hSave
    exact load_of_save_loaded hTree hRead hLoad hSave

/-- A blank file, in which a record is saved whose key and value need escapes, and after it the
empty record; and the first of these saved once more. -/
theorem refines_memory_blank :
    ∃ (disk after last : Disk) (record : CredentialRecord) (contents : Bytes),
      StartsEmpty "record.json" disk ∧ record.get "\"\\" = some "é\n\x00" ∧
      (store "record.json").perform [.load, .save record, .load, .save .empty, .load] disk
        = [.loaded (.ok .empty), .saved (.ok ()), .loaded (.ok record), .saved (.ok ()),
          .loaded (.ok .empty)] ∧
      after.tree.WellFormed ∧ after.tree.read "record.json" = .ok contents ∧
      save "record.json" record after = (.ok (), last) ∧
      load "record.json" last = .ok record := by
  obtain ⟨record, hRecord⟩ : ∃ record : CredentialRecord,
      record = CredentialRecord.empty.put "\"\\" "é\n\x00" := ⟨_, rfl⟩
  obtain ⟨disk, hDisk⟩ : ∃ disk : Disk,
      disk = ⟨(FileTree.fresh []).set ["record.json"] (.file [10]), 0, 0⟩ :=
    ⟨_, rfl⟩
  have hTree : disk.tree.WellFormed := by
    rw [hDisk]
    exact FileTree.wellFormed_fresh_set _ _
  have hEmpty : StartsEmpty "record.json" disk := by
    rw [hDisk]
    exact .inr ⟨[10], "\n", rfl, rfl, rfl⟩
  obtain ⟨after, third, last, hSave, hEmptied, hAgain⟩ : ∃ after third last,
      save "record.json" record disk = (.ok (), after) ∧
      save "record.json" .empty after = (.ok (), third) ∧
      save "record.json" record after = (.ok (), last) := by
    rw [hRecord, hDisk]
    exact ⟨_, _, _, rfl, rfl, rfl⟩
  have hAnswers : (store "record.json").perform [.load, .save record, .load, .save .empty, .load] disk
      = [.loaded (load "record.json" disk), .saved (.ok ()), .loaded (load "record.json" after),
        .saved (.ok ()), .loaded (load "record.json" third)] := by
    simp only [RecordStore.perform, RecordStore.performOne, store, hSave, hEmptied]
  have hSaves : RecordStore.NoSaveFails ((store "record.json").perform
      [.load, .save record, .load, .save .empty, .load] disk) := by
    rw [hAnswers]
    simp [RecordStore.NoSaveFails]
  obtain ⟨hAfter, hRead⟩ := read_of_save hTree (by decide) hSave
  refine ⟨disk, after, last, record, _, hEmpty, ?_, ?_, hAfter, hRead, hAgain, ?_⟩
  · rw [hRecord]
    exact CredentialRecord.get_put_self .empty _ _
  · exact (refines_memory "record.json" (fun _ => none) disk).1 hEmpty _ hSaves
  · exact (refines_memory "record.json" (fun _ => none) after).2 hAfter _ record hRead (load_of_save hSave) _ last
      hAgain

end FileStore

end CredentialLease
