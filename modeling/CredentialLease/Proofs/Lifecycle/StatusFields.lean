import CredentialLease.Lifecycle.Status
import CredentialLease.Proofs.Token.StoredForm

/-!
# What the fields of a status tell of each other

A status names a state, a token and the time that the token has left, and each of them tells whether
there is a token and whether it has expired. They are found in different ways: the state is that of a
token that has expired only after the instant of its expiry (`CredentialState.atExpiry_eq_expired_iff`),
while at that instant the token has no time left any more (`AccessToken.remaining_eq_none_iff`). So for
one nanosecond a status shows a token as issued and no time that it has left
(`exists_issued_without_time`). At every other instant the fields agree.

Main statement: `status_agrees_unless_expiring`.
-/

namespace CredentialLease

variable {expiry now : Instant}

theorem Instant.le_iff_lt_or_eq {s t : Instant} : s ≤ t ↔ s < t ∨ s = t := by
  obtain ⟨s⟩ := s
  obtain ⟨t⟩ := t
  rw [Instant.mk.injEq]
  exact Int.le_iff_lt_or_eq

theorem Instant.lt_iff_le_and_ne {s t : Instant} : s < t ↔ s ≤ t ∧ t ≠ s := by
  obtain ⟨s⟩ := s
  obtain ⟨t⟩ := t
  rw [Ne, Instant.mk.injEq, eq_comm]
  exact Int.lt_iff_le_and_ne

/-! ### Two ways to tell that a token has expired -/

/-- What the expiry of a token deserves. -/
theorem CredentialState.atExpiry_cases (expiry now : Instant) :
    atExpiry expiry now = issued ∨ atExpiry expiry now = expired := by
  rw [atExpiry]
  split
  · exact .inr rfl
  · exact .inl rfl

theorem CredentialState.atExpiry_eq_issued_iff : atExpiry expiry now = issued ↔ now ≤ expiry := by
  rw [atExpiry]
  split
  · next hExpired => exact ⟨nofun, fun h => absurd hExpired (Int.not_lt.mpr h)⟩
  · next hValid => exact ⟨fun _ => Int.not_lt.mp hValid, fun _ => rfl⟩

theorem CredentialState.atExpiry_eq_expired_iff : atExpiry expiry now = expired ↔ expiry < now := by
  rw [atExpiry]
  split
  · next hExpired => exact ⟨fun _ => hExpired, fun _ => rfl⟩
  · next hValid => exact ⟨nofun, fun h => absurd h hValid⟩

theorem CredentialState.atExpiry_ne_unissued : atExpiry expiry now ≠ unissued := by
  rcases atExpiry_cases expiry now with hState | hState
  · rw [hState]
    nofun
  · rw [hState]
    nofun

/-- A token has time left before the instant of its expiry. -/
theorem AccessToken.remaining_of_lt {token : AccessToken} (h : now < token.expiresAt) :
    token.remaining now = some ⟨(token.expiresAt.nanos - now.nanos).toNat⟩ := by
  have h : now.nanos < token.expiresAt.nanos := h
  have hSome : (token.expiresAt.nanos - now.nanos).toNat ≠ 0 := by omega
  have hSince : token.expiresAt.since now = some ⟨(token.expiresAt.nanos - now.nanos).toNat⟩ :=
    if_pos (Int.le_of_lt h)
  rw [remaining, hSince, Option.filter_some, if_pos]
  simpa using hSome

/-- **At the instant of its expiry a token has no time left any more.** -/
theorem AccessToken.remaining_eq_none_iff {token : AccessToken} :
    token.remaining now = none ↔ token.expiresAt ≤ now := by
  constructor
  · intro hNone
    by_contra hLater
    rw [remaining_of_lt (Int.not_le.mp hLater)] at hNone
    cases hNone
  · intro hReached
    have hReached : token.expiresAt.nanos ≤ now.nanos := hReached
    rw [remaining, Instant.since]
    split
    · next hStart =>
      have hStart : now.nanos ≤ token.expiresAt.nanos := hStart
      have hZero : (token.expiresAt.nanos - now.nanos).toNat = 0 := by omega
      rw [hZero]
      rfl
    · rfl

/-- A token shows the seconds that it has left before the instant of its expiry and no later. -/
theorem AccessToken.isSome_seconds_remaining_iff {token : AccessToken} :
    ((token.remaining now).map Duration.seconds).isSome ↔ now < token.expiresAt := by
  rw [Option.isSome_map, Option.isSome_iff_ne_none, Ne, remaining_eq_none_iff]
  exact Int.not_le

/-! ### The fields of a status -/

/-- **Whether the fields of a status agree.** -/
structure CredentialStatus.FieldsAgree (status : CredentialStatus) : Prop where
  issued_iff : status.state = .issued ↔ status.expiresInSeconds.isSome
  expired_iff : status.state = .expired ↔ status.tokenName.isSome ∧ status.expiresInSeconds = none
  unissued_iff : status.state = .unissued ↔ status.tokenName = none
  unissued_of_error : status.error.isSome → status.state = .unissued

namespace CredentialRecord

/-- Whether the token of an entry expires at this very instant. -/
def ExpiresAt (record : CredentialRecord) (key : String) (now : Instant) : Prop :=
  ∃ token, AccessToken.decodeStored (record.get key) = .ok (some token) ∧ token.expiresAt = now

/-- **What a status shows**: the token of the entry, or that there is none. Then it may say what is wrong
with the entry, unless that is absent or reserved. -/
theorem status_cases (record : CredentialRecord) (key : String) (now : Instant) :
    (∃ token, AccessToken.decodeStored (record.get key) = .ok (some token) ∧
      record.status key now = ⟨key, .atExpiry token.expiresAt now, some token.name,
        (token.remaining now).map Duration.seconds, none⟩) ∨
    (∀ token, AccessToken.decodeStored (record.get key) ≠ .ok (some token)) ∧
      ∃ error, record.status key now = ⟨key, .unissued, none, none, error⟩ ∧
        (error = none ↔ record.get key = none ∨ record.get key = some placeholder) := by
  rw [status, ← AccessToken.decodeStored_eq_ok_none_iff]
  split
  · next token hDecode => exact .inl ⟨token, hDecode, rfl⟩
  · next hDecode =>
    rw [hDecode]
    exact .inr ⟨nofun, none, rfl, ⟨fun _ => rfl, fun _ => rfl⟩⟩
  · next error hDecode =>
    rw [hDecode]
    exact .inr ⟨nofun, some error.message, rfl, ⟨nofun, nofun⟩⟩

variable {record : CredentialRecord} {key : String}

theorem expiresAt_iff {token : AccessToken}
    (hDecode : AccessToken.decodeStored (record.get key) = .ok (some token)) :
    record.ExpiresAt key now ↔ now = token.expiresAt := by
  constructor
  · rintro ⟨found, hFound, hExpires⟩
    rw [hDecode] at hFound
    cases hFound
    exact hExpires.symm
  · intro hExpires
    exact ⟨token, hDecode, hExpires.symm⟩

theorem not_expiresAt
    (hDecode : ∀ token, AccessToken.decodeStored (record.get key) ≠ .ok (some token)) :
    ¬ record.ExpiresAt key now :=
  fun ⟨token, hFound, _⟩ => hDecode token hFound

/-- **A token is shown as issued** as long as it has time left, and at the instant of its expiry. -/
theorem state_eq_issued_iff : (record.status key now).state = .issued ↔
    (record.status key now).expiresInSeconds.isSome ∨ record.ExpiresAt key now := by
  rcases record.status_cases key now with ⟨token, hDecode, hStatus⟩ | ⟨hNone, error, hStatus, -⟩
  · rw [hStatus, expiresAt_iff hDecode, CredentialState.atExpiry_eq_issued_iff,
      AccessToken.isSome_seconds_remaining_iff, Instant.le_iff_lt_or_eq]
  · rw [hStatus]
    exact ⟨nofun, fun h => h.elim nofun fun hExpires => absurd hExpires (not_expiresAt hNone)⟩

/-- **A token is shown as expired** when it has no time left, but not yet at the instant of its expiry. -/
theorem state_eq_expired_iff : (record.status key now).state = .expired ↔
    ((record.status key now).tokenName.isSome ∧ (record.status key now).expiresInSeconds = none) ∧
      ¬ record.ExpiresAt key now := by
  rcases record.status_cases key now with ⟨token, hDecode, hStatus⟩ | ⟨-, error, hStatus, -⟩
  · rw [hStatus, expiresAt_iff hDecode, CredentialState.atExpiry_eq_expired_iff, Option.map_eq_none_iff,
      AccessToken.remaining_eq_none_iff, Instant.lt_iff_le_and_ne]
    exact ⟨fun h => ⟨⟨rfl, h.1⟩, h.2⟩, fun h => ⟨h.1.2, h.2⟩⟩
  · rw [hStatus]
    exact ⟨nofun, fun h => absurd h.1.1 nofun⟩

/-- **An entry is shown as not issued** exactly if no token is named. -/
theorem state_eq_unissued_iff : (record.status key now).state = .unissued ↔
    (record.status key now).tokenName = none := by
  rcases record.status_cases key now with ⟨token, -, hStatus⟩ | ⟨-, error, hStatus, -⟩
  · rw [hStatus]
    exact ⟨fun h => absurd h CredentialState.atExpiry_ne_unissued, nofun⟩
  · rw [hStatus]
    exact ⟨fun _ => rfl, fun _ => rfl⟩

/-- **Something is said to be wrong** with an entry that is shown as not issued, unless it is absent or
reserved. -/
theorem isSome_error_iff : (record.status key now).error.isSome ↔
    (record.status key now).state = .unissued ∧
      ¬ (record.get key = none ∨ record.get key = some placeholder) := by
  rcases record.status_cases key now with ⟨token, -, hStatus⟩ | ⟨-, error, hStatus, hError⟩
  · rw [hStatus]
    exact ⟨nofun, fun h => absurd h.1 CredentialState.atExpiry_ne_unissued⟩
  · rw [hStatus, ← hError, Option.isSome_iff_ne_none]
    exact ⟨fun h => ⟨rfl, h⟩, And.right⟩

/-- At the instant of its expiry a token has no time left to show. -/
theorem ExpiresAt.expiresInSeconds (h : record.ExpiresAt key now) :
    (record.status key now).expiresInSeconds = none := by
  obtain ⟨token, hDecode, rfl⟩ := h
  rw [status, hDecode]
  exact Option.map_eq_none_iff.mpr (AccessToken.remaining_eq_none_iff.mpr (Int.le_refl _))

/-- **The fields of a status agree unless the token expires at that instant.** -/
theorem fieldsAgree_iff : (record.status key now).FieldsAgree ↔ ¬ record.ExpiresAt key now := by
  constructor
  · intro hAgree hExpires
    have hTime := hAgree.issued_iff.mp (state_eq_issued_iff.mpr (.inr hExpires))
    rw [hExpires.expiresInSeconds] at hTime
    cases hTime
  · intro hExpires
    exact {
      issued_iff := state_eq_issued_iff.trans (or_iff_left hExpires)
      expired_iff := state_eq_expired_iff.trans (and_iff_left hExpires)
      unissued_iff := state_eq_unissued_iff
      unissued_of_error := fun hError => (isSome_error_iff.mp hError).1 }

/-- **How the fields of a status agree**, for every record, key and reading of the clock. A token is shown
as issued exactly if a time that it has left is shown, or if it expires at that very instant; as
expired exactly if none is shown and it does not expire at that instant. An entry is shown as not issued
exactly if no token is named, and only then something may be said to be wrong with it: it is unless the
entry is absent or reserved. So the instant of the expiry is the only one at which the fields of a
status do not agree. -/
theorem status_agrees_unless_expiring (record : CredentialRecord) (key : String) (now : Instant) :
    ((record.status key now).state = .issued ↔
      (record.status key now).expiresInSeconds.isSome ∨ record.ExpiresAt key now) ∧
    ((record.status key now).state = .expired ↔
      ((record.status key now).tokenName.isSome ∧ (record.status key now).expiresInSeconds = none) ∧
        ¬ record.ExpiresAt key now) ∧
    ((record.status key now).state = .unissued ↔ (record.status key now).tokenName = none) ∧
    ((record.status key now).error.isSome ↔ (record.status key now).state = .unissued ∧
      ¬ (record.get key = none ∨ record.get key = some placeholder)) ∧
    ((record.status key now).FieldsAgree ↔ ¬ record.ExpiresAt key now) :=
  ⟨state_eq_issued_iff, state_eq_expired_iff, state_eq_unissued_iff, isSome_error_iff, fieldsAgree_iff⟩

/-- **A token is shown as issued and without any time left.** It is looked at in the instant in which it
expires, one second after the epoch. -/
theorem exists_issued_without_time :
    ∃ token : AccessToken, token.name = "lease-1" ∧ token.expires = 1000 ∧
      (empty.put "key" token.encode).status "key" ⟨1000000000⟩
        = ⟨"key", .issued, some "lease-1", none, none⟩ ∧
      ¬ ((empty.put "key" token.encode).status "key" ⟨1000000000⟩).FieldsAgree := by
  have hStatus : (empty.put "key" (AccessToken.encode
      ⟨"lease-1", ⟨[]⟩, 0, 1000, by decide, by decide, by decide⟩)).status "key" ⟨1000000000⟩
      = ⟨"key", .issued, some "lease-1", none, none⟩ := by
    decide +kernel
  refine ⟨_, rfl, rfl, hStatus, fun hAgree => ?_⟩
  rw [hStatus] at hAgree
  cases hAgree.issued_iff.mp rfl

end CredentialRecord

end CredentialLease
