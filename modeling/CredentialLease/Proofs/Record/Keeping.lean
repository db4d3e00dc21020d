import CredentialLease.Record.Store
import CredentialLease.World

/-!
# Stores that keep what is saved in them

A store keeps records if what is loaded from a storage is the record that it holds, a save that
succeeds puts another one in its place, and one that fails leaves it there (`RecordStore.Keeps`).
Which storages hold which record is a parameter, so that a storage may hold a record that cannot be
loaded at the moment, and one that is out of order may hold none.
-/

namespace CredentialLease

variable {κ : Type}

/-- **Whether a store keeps what is saved in it**, where `holds` tells which record a storage
holds. -/
structure RecordStore.Keeps (store : RecordStore κ) (holds : κ → CredentialRecord → Prop) :
    Prop where
  /-- What is loaded is what is held. -/
  loads : ∀ {storage held record}, holds storage held → store.load storage = .ok record →
    record = held
  /-- What is saved is held from then on. -/
  saves : ∀ {storage held record after}, holds storage held →
    store.save record storage = (.ok (), after) → holds after record
  /-- A save that fails leaves what was held. -/
  refuses : ∀ {storage held record after failure}, holds storage held →
    store.save record storage = (.error failure, after) → holds after held

theorem RecordStore.keeps_memory : RecordStore.memory.Keeps fun storage record => storage = record where
  loads := fun hHeld hLoad => (Except.ok.inj hLoad).symm.trans hHeld
  saves := fun _ hSave => (congrArg Prod.snd hSave).symm
  refuses := by
    intro storage held record after failure _ hSave
    cases hSave

/-- Whether the storage of a world still holds what it held before. -/
def World.Undisturbed (holds : κ → CredentialRecord → Prop) (before after : World κ) : Prop :=
  ∀ record, holds before.storage record → holds after.storage record

theorem World.Undisturbed.refl (holds : κ → CredentialRecord → Prop) (world : World κ) :
    world.Undisturbed holds world := fun _ h => h

end CredentialLease
