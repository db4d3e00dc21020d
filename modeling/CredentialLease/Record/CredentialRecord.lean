import CredentialLease.Json.Tree
import CredentialLease.Json.Value
import CredentialLease.Text.Quoted

/-!
# The texts that a coordinator hands to workers by key

A record is a finite map from keys to values. It is held as its entries in ascending order of
keys, each key once, so that equal maps are equal records. Keys are compared by code points, which
is the order of their UTF-8 encodings.

As JSON a record is an object of texts. Of a repeated name the last member counts.

Main statement: `Entries.ascending_insert`, by which every record that is built here keeps its
keys in order.
-/

namespace CredentialLease

/-! ### Entries in order -/

namespace Entries

/-- The entries with one put in its place; an entry with the same key is replaced. -/
def insert (key value : String) : List (String × String) → List (String × String)
  | [] => [(key, value)]
  | (k, v) :: rest =>
    if key < k then (key, value) :: (k, v) :: rest
    else if key = k then (key, value) :: rest
    else (k, v) :: insert key value rest

/-- Whether the keys of entries ascend. -/
def Ascending (entries : List (String × String)) : Prop :=
  entries.Pairwise fun e f => e.1 < f.1

theorem insert_subset {key value : String} {entries : List (String × String)}
    {e : String × String} (h : e ∈ insert key value entries) :
    e = (key, value) ∨ e ∈ entries := by
  induction entries with
  | nil => exact Or.inl (List.mem_singleton.1 h)
  | cons entry rest ih =>
    unfold insert at h
    split at h
    · rcases List.mem_cons.1 h with h | h
      · exact Or.inl h
      · exact Or.inr h
    · split at h
      · rcases List.mem_cons.1 h with h | h
        · exact Or.inl h
        · exact Or.inr (List.mem_cons_of_mem _ h)
      · rcases List.mem_cons.1 h with h | h
        · exact Or.inr (h ▸ List.mem_cons_self)
        · rcases ih h with h | h
          · exact Or.inl h
          · exact Or.inr (List.mem_cons_of_mem _ h)

/-- **An entry put in its place leaves the keys ascending.** -/
theorem ascending_insert {entries : List (String × String)} (h : Ascending entries)
    (key value : String) : Ascending (insert key value entries) := by
  induction entries with
  | nil => exact List.pairwise_singleton _ _
  | cons entry rest ih =>
    obtain ⟨hHead, hRest⟩ := List.pairwise_cons.1 h
    unfold insert
    split
    · next hLess =>
      refine List.pairwise_cons.2 ⟨fun f hf => ?_, h⟩
      rcases List.mem_cons.1 hf with rfl | hf
      · exact hLess
      · exact String.lt_trans hLess (hHead f hf)
    · next hNot =>
      split
      · next hEq =>
        subst hEq
        exact List.pairwise_cons.2 ⟨fun f hf => hHead f hf, hRest⟩
      · next hNe =>
        refine List.pairwise_cons.2 ⟨fun f hf => ?_, ih hRest⟩
        rcases insert_subset hf with rfl | hf
        · exact String.not_le.1 fun hLe =>
            hNot (Decidable.byContradiction fun hn => hNe (String.le_antisymm hLe hn))
        · exact hHead f hf

end Entries

/-! ### Records -/

/-- A finite map from keys to values, as its entries in ascending order of keys. -/
structure CredentialRecord where
  entries : List (String × String)
  ascending : Entries.Ascending entries
deriving DecidableEq

namespace CredentialRecord

/-- The record without entries. -/
def empty : CredentialRecord := ⟨[], List.Pairwise.nil⟩

instance : Inhabited CredentialRecord := ⟨empty⟩

/-- The value under a key. -/
def get (record : CredentialRecord) (key : String) : Option String := record.entries.lookup key

/-- The record with the value under a key replaced. -/
def put (record : CredentialRecord) (key value : String) : CredentialRecord :=
  ⟨Entries.insert key value record.entries, Entries.ascending_insert record.ascending key value⟩

/-- Whether there is a value under a key. -/
def contains (record : CredentialRecord) (key : String) : Bool := (record.get key).isSome

/-- The keys in ascending order. -/
def keys (record : CredentialRecord) : List String := record.entries.map (·.1)

/-- The record of a list of entries, of which the last one under each key counts. -/
def ofEntries (entries : List (String × String)) : CredentialRecord :=
  entries.foldl (fun record (key, value) => record.put key value) empty

/-- What a diagnostic shows of a record: its keys. -/
def redacted (record : CredentialRecord) : String :=
  "CredentialRecord \x7b keys: " ++ bracketed (record.keys.map quoted) ++ " \x7d"

/-! ### JSON -/

/-- The record as a JSON value. -/
def toJson (record : CredentialRecord) : Json.Value :=
  .object (record.entries.map fun (key, value) => (key, .text value))

/-- The record that a JSON text describes. -/
def read (text : String) : Option CredentialRecord := do
  let tree ← Json.read (utf8 text)
  return ofEntries (← tree.entries)

end CredentialRecord

end CredentialLease
