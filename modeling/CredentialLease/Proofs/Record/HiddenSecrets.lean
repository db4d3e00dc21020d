import CredentialLease.Lifecycle.Status
import CredentialLease.Lifecycle.Worker
import CredentialLease.Proofs.Record.Replacement
import Mathlib.Data.List.Sort

/-!
# Records that differ only in a secret

Two records that hold tokens under a key which differ in their secrets alone are read alike: under
each key both hold no token, or the same unreadable value, or tokens of the same name and times
(`SameButSecret.alike`). This is kept when the same value is put under the same key of both.

Alike records have the same keys, show the same, and have the same status at every instant
(`Alike.keys`, `Alike.redacted`, `Alike.status`).
-/

namespace CredentialLease

/-! ### Tokens and entries -/

/-- **Whether two tokens differ in nothing but their secrets.** -/
structure AccessToken.SameButSecret (token other : AccessToken) : Prop where
  name : token.name = other.name
  issued : token.issued = other.issued
  expires : token.expires = other.expires

namespace AccessToken.SameButSecret

theorem refl (token : AccessToken) : token.SameButSecret token := ⟨rfl, rfl, rfl⟩

variable {token other : AccessToken}

theorem expiresAt (h : token.SameButSecret other) : token.expiresAt = other.expiresAt := by
  unfold AccessToken.expiresAt
  rw [h.expires]

theorem remaining (h : token.SameButSecret other) (now : Instant) :
    token.remaining now = other.remaining now := by
  unfold AccessToken.remaining
  rw [h.expiresAt]

end AccessToken.SameButSecret

/-- **Whether two values of entries are the same, or hold tokens that differ only in a secret.** -/
inductive SameEntry : Option String → Option String → Prop where
  | same (value : Option String) : SameEntry value value
  | tokens {value another : Option String} {token other : AccessToken}
      (hSame : token.SameButSecret other)
      (hToken : AccessToken.decodeStored value = .ok (some token))
      (hOther : AccessToken.decodeStored another = .ok (some other)) : SameEntry value another

variable {value another : Option String}

/-- **Such values are read alike.** -/
theorem SameEntry.decodeStored_cases (h : SameEntry value another) :
    (∃ token other : AccessToken, token.SameButSecret other ∧
      AccessToken.decodeStored value = .ok (some token) ∧
      AccessToken.decodeStored another = .ok (some other)) ∨
    (AccessToken.decodeStored value = .ok none ∧ AccessToken.decodeStored another = .ok none) ∨
    ∃ error, AccessToken.decodeStored value = .error error ∧
      AccessToken.decodeStored another = .error error := by
  cases h with
  | tokens hSame hToken hOther => exact .inl ⟨_, _, hSame, hToken, hOther⟩
  | same =>
    cases hRead : AccessToken.decodeStored value with
    | error error => exact .inr (.inr ⟨error, rfl, rfl⟩)
    | ok found =>
      cases found with
      | none => exact .inr (.inl ⟨rfl, rfl⟩)
      | some token => exact .inl ⟨token, token, .refl token, rfl, rfl⟩

theorem SameEntry.isSome (h : SameEntry value another) : value.isSome = another.isSome := by
  cases h with
  | same => rfl
  | tokens hSame hToken hOther =>
    cases value with
    | none => cases hToken
    | some text =>
      cases another with
      | none => cases hOther
      | some text => rfl

/-! ### Records -/

namespace CredentialRecord

variable {first second : CredentialRecord} {key : String}

/-- **Whether two records differ in nothing but the secret of the token under a key.** -/
structure SameButSecret (key : String) (first second : CredentialRecord) : Prop where
  others : ∀ other, other ≠ key → first.get other = second.get other
  tokens : ∃ token other : AccessToken, token.SameButSecret other ∧
    token.secret.length < 2 ^ 32 ∧ other.secret.length < 2 ^ 32 ∧
    first.get key = some token.encode ∧ second.get key = some other.encode

/-- **Whether two records are read alike.** -/
def Alike (first second : CredentialRecord) : Prop :=
  ∀ key, SameEntry (first.get key) (second.get key)

theorem SameButSecret.alike (h : first.SameButSecret key second) : first.Alike second := by
  intro other
  by_cases hKey : other = key
  · obtain ⟨token, another, hSame, hToken, hOther, hFirst, hSecond⟩ := h.tokens
    rw [hKey, hFirst, hSecond]
    exact .tokens hSame (AccessToken.decodeStored_encode hToken)
      (AccessToken.decodeStored_encode hOther)
  · rw [h.others other hKey]
    exact .same _

namespace Alike

theorem put (h : first.Alike second) (key value : String) :
    (first.put key value).Alike (second.put key value) := by
  intro other
  rw [get_put, get_put]
  split
  · exact .same _
  · exact h other

/-- Alike records have the same keys, which are in order. -/
theorem keys (h : first.Alike second) : first.keys = second.keys := by
  have hKeys (record : CredentialRecord) : record.keys.Pairwise (· < ·) :=
    List.pairwise_map.mpr record.ascending
  have hMem (record : CredentialRecord) (key : String) :
      key ∈ record.keys ↔ (record.get key).isSome = true := by
    rw [CredentialRecord.keys, List.mem_map, get, List.lookup_isSome_iff]
    constructor
    · rintro ⟨entry, hEntry, rfl⟩
      exact ⟨entry, hEntry, beq_self_eq_true _⟩
    · rintro ⟨entry, hEntry, hKey⟩
      exact ⟨entry, hEntry, (beq_iff_eq.mp hKey).symm⟩
  refine List.Pairwise.eq_of_mem_iff (hKeys first) (hKeys second) fun key => ?_
  rw [hMem, hMem, (h key).isSome]

/-- Alike records show the same. -/
theorem redacted (h : first.Alike second) : first.redacted = second.redacted := by
  unfold CredentialRecord.redacted
  rw [h.keys]

/-- **Alike records have the same status.** -/
theorem status (h : first.Alike second) (key : String) (now : Instant) :
    first.status key now = second.status key now := by
  unfold CredentialRecord.status
  obtain ⟨token, other, hSame, hToken, hOther⟩ | ⟨hToken, hOther⟩ | ⟨error, hToken, hOther⟩ :=
    (h key).decodeStored_cases
  · rw [hToken, hOther]
    dsimp only
    rw [hSame.name, hSame.expiresAt, hSame.remaining]
  · rw [hToken, hOther]
  · rw [hToken, hOther]

end Alike

end CredentialRecord

/-! ### What workers find -/

/-- **Whether two workers find the same**, or tokens that differ only in a secret. -/
inductive AttachOutcome.Alike : AttachOutcome → AttachOutcome → Prop where
  | bound {token other : AccessToken} (h : token.SameButSecret other) :
    Alike (.bound token) (.bound other)
  | noToken : Alike .noToken .noToken
  | unusable (error : CredentialError) : Alike (.unusable error) (.unusable error)

theorem WorkerCredentials.attach_alike {first second : CredentialRecord} (h : first.Alike second)
    (worker : WorkerCredentials) : (worker.attach first).2.Alike (worker.attach second).2 := by
  unfold attach find
  obtain ⟨token, other, hSame, hToken, hOther⟩ | ⟨hToken, hOther⟩ | ⟨error, hToken, hOther⟩ :=
    (h worker.key).decodeStored_cases
  · rw [hToken, hOther]
    exact .bound hSame
  · rw [hToken, hOther]
    exact .noToken
  · rw [hToken, hOther]
    exact .unusable error

end CredentialLease
