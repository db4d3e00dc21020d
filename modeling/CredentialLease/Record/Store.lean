import CredentialLease.Error
import CredentialLease.Record.CredentialRecord

/-!
# Where a record is kept between processes

A store loads a record from a storage and saves one to it. Both may fail; a failed save may still
have changed the storage.
-/

namespace CredentialLease

/-- A way to keep a record in storages of a kind. -/
structure RecordStore (κ : Type) where
  load : κ → Except Failure CredentialRecord
  save : CredentialRecord → κ → Except Failure Unit × κ

/-- The store whose storage is the record itself. -/
def RecordStore.memory : RecordStore CredentialRecord where
  load := .ok
  save record _ := (.ok (), record)

end CredentialLease
