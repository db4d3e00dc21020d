import CredentialLease.Address.WriteOperation
import CredentialLease.Json.Tree
import CredentialLease.Json.Value
import CredentialLease.Text.Blank

/-!
# What is known about a write besides its target

The settings hold a query and an ingest pipeline, if there are any, and the write operation. As
JSON they are an object with these members in this order; what is absent is left out, and the
write operation may be left out on reading, when it is the default.
-/

namespace CredentialLease

/-- The settings that a target is read with. -/
structure AddressSettings where
  /-- The query that is given apart from the target. -/
  query : Option String
  ingestPipeline : Option String
  writeOperation : WriteOperation
deriving DecidableEq

instance : Inhabited AddressSettings := ⟨⟨none, none, .index⟩⟩

namespace AddressSettings

/-- Whether there is a query with something in it. -/
def hasQuery (settings : AddressSettings) : Bool :=
  settings.query.any fun query => !isBlankText query

/-! ### JSON -/

/-- The settings as a JSON value. -/
def toJson (settings : AddressSettings) : Json.Value :=
  .object (Json.optional "query" .text settings.query
    ++ Json.optional "ingest_pipeline" .text settings.ingestPipeline
    ++ [("write_operation", .text settings.writeOperation.name)])

/-- The names of the members, in order. -/
def memberNames : List String := ["query", "ingest_pipeline", "write_operation"]

/-- The settings that a JSON tree describes. -/
def ofTree (tree : Json.Tree) : Option AddressSettings := do
  match ← tree.fields memberNames with
  | [query, pipeline, operation] =>
    let optionalText (field : Option Json.Tree) : Option (Option String) :=
      match field with
      | some value => value.optional Json.Tree.text
      | none => some none
    let query ← optionalText query
    let pipeline ← optionalText pipeline
    let operation ← match operation with
      | some value => do WriteOperation.ofName (← value.variant)
      | none => some WriteOperation.index
    return ⟨query, pipeline, operation⟩
  | _ => none

/-- The settings that a JSON text describes. -/
def read (text : String) : Option AddressSettings := do ofTree (← Json.read (utf8 text))

end AddressSettings

end CredentialLease
