import CredentialLease.Error
import CredentialLease.Text.Casing

/-!
# How documents are written through the bulk endpoint

Every operation has a lower-case name. `WriteOperation.parse` compares a text with these names
after lower-casing it.

Main statement: `parse_name` (every operation is read back from its name).
-/

namespace CredentialLease

/-- How documents are written. -/
inductive WriteOperation where
  | index
  | create
  | update
  | upsert
deriving DecidableEq, Inhabited

namespace WriteOperation

/-- The name of an operation. -/
def name : WriteOperation → String
  | index => "index"
  | create => "create"
  | update => "update"
  | upsert => "upsert"

/-- Whether an operation only ever creates new documents. -/
def createsDocuments : WriteOperation → Bool
  | index => true
  | create => true
  | _ => false

/-- The operation of a name. -/
def ofName (text : String) : Option WriteOperation :=
  if text = "index" then some index
  else if text = "create" then some create
  else if text = "update" then some update
  else if text = "upsert" then some upsert
  else none

/-- The operation whose name a text is, up to letter case. -/
def parse (text : String) : Except Failure WriteOperation :=
  match ofName (lowered text) with
  | some operation => .ok operation
  | none => .error (.other s!"invalid write operation: {lowered text}")

theorem ofName_name (operation : WriteOperation) : ofName operation.name = some operation := by
  cases operation <;> rfl

/-- **Every operation is read back from its name.** -/
theorem parse_name (operation : WriteOperation) : parse operation.name = .ok operation := by
  have hLower : lowered operation.name = operation.name := by
    cases operation <;> decide +kernel
  rw [parse, hLower, ofName_name]

end WriteOperation

end CredentialLease
