import CredentialLease.Proofs.Token.StoredForm
import CredentialLease.Record.CredentialRecord

/-!
# What replacing one entry does to a record

Putting a value under a key changes what is found there and nothing else (`get_put`).

A token that is put in an entry changes the record unless the entry was its stored form before.
That cannot be when the name of the token is fresh for the entry (`put_encode_ne`).
-/

namespace CredentialLease

/-! ### Looking up what was put -/

namespace Entries

theorem lookup_cons (key value other : String) (entries : List (String × String)) :
    List.lookup other ((key, value) :: entries)
      = if other = key then some value else entries.lookup other := by
  rw [List.lookup_cons]
  by_cases h : other = key
  · rw [if_pos h, beq_iff_eq.mpr h]
  · rw [if_neg h, beq_eq_false_iff_ne.mpr h]

/-- An entry put in its place is found under its key, and under other keys what was there. -/
theorem lookup_insert (key value other : String) (entries : List (String × String)) :
    (insert key value entries).lookup other
      = if other = key then some value else entries.lookup other := by
  induction entries with
  | nil => rw [insert, lookup_cons]
  | cons entry rest ih =>
    obtain ⟨k, v⟩ := entry
    rw [insert]
    by_cases hLess : key < k
    · rw [if_pos hLess, lookup_cons]
    · rw [if_neg hLess]
      by_cases hSame : key = k
      · subst hSame
        rw [if_pos rfl, lookup_cons, lookup_cons]
        by_cases h : other = key
        · rw [if_pos h, if_pos h]
        · rw [if_neg h, if_neg h, if_neg h]
      · rw [if_neg hSame, lookup_cons, lookup_cons, ih]
        by_cases h : other = k
        · have hOther : other ≠ key := fun hKey => hSame (hKey.symm.trans h)
          rw [if_pos h, if_pos h, if_neg hOther]
        · rw [if_neg h, if_neg h]

/-- An entry that is there already changes nothing when it is put in its place. -/
theorem insert_of_lookup {key value : String} {entries : List (String × String)}
    (hAscending : Ascending entries) (h : entries.lookup key = some value) :
    insert key value entries = entries := by
  induction entries with
  | nil => cases h
  | cons entry rest ih =>
    obtain ⟨k, v⟩ := entry
    obtain ⟨hHead, hRest⟩ := List.pairwise_cons.mp hAscending
    rw [lookup_cons] at h
    rw [insert]
    by_cases hSame : key = k
    · subst hSame
      rw [if_pos rfl] at h
      obtain rfl := Option.some.inj h
      rw [if_neg (String.lt_irrefl key), if_pos rfl]
    · rw [if_neg hSame] at h
      -- the key is among those that follow
      obtain ⟨before, after, rfl, -⟩ := List.lookup_eq_some_iff.mp h
      have hLess : k < key :=
        hHead (key, value) (List.mem_append_right before List.mem_cons_self)
      rw [if_neg (String.lt_asymm hLess), if_neg hSame, ih hRest h]

end Entries

namespace CredentialRecord

/-- **A value that is put under a key is found there**, and the other keys keep their values. -/
theorem get_put (record : CredentialRecord) (key value other : String) :
    (record.put key value).get other = if other = key then some value else record.get other :=
  Entries.lookup_insert key value other record.entries

theorem get_put_self (record : CredentialRecord) (key value : String) :
    (record.put key value).get key = some value := by
  rw [get_put, if_pos rfl]

/-- **A value that is there already changes nothing when it is put.** -/
theorem put_eq_self {record : CredentialRecord} {key value : String}
    (h : record.get key = some value) : record.put key value = record := by
  rw [put, CredentialRecord.mk.injEq]
  exact Entries.insert_of_lookup record.ascending h

/-! ### Fresh names -/

/-- Whether a name is fresh for the entry under a key: the token in the entry has another one. An
entry that cannot be read is not what is stored for a token of that name either. -/
def IsFresh (record : CredentialRecord) (key name : String) : Prop :=
  match AccessToken.decodeStored (record.get key) with
  | .ok (some held) => held.name ≠ name
  | .ok none => True
  | .error _ => ∀ token : AccessToken, record.get key = some token.encode → token.name ≠ name

/-- **Storing a token whose name is fresh changes the record.** -/
theorem put_encode_ne {record : CredentialRecord} {key : String} {token : AccessToken}
    (h : record.IsFresh key token.name) : record.put key token.encode ≠ record := by
  intro hSame
  have hGet : record.get key = some token.encode := by
    rw [← hSame, get_put_self]
  rw [IsFresh, hGet, AccessToken.decodeStored] at h
  split at h
  · next held hDecode =>
    have hStored := (AccessToken.decode_eq_ok_some_iff.mp hDecode).2
    rw [token.trimmed_encode] at hStored
    exact h (congrArg AccessToken.name (AccessToken.encode_injective hStored.symm))
  · next hDecode => exact token.encode_ne_placeholder (AccessToken.decode_eq_ok_none_iff.mp hDecode)
  · exact h token rfl rfl

end CredentialRecord

end CredentialLease
