import CredentialLease.Proofs.Time.EpochMillis
import CredentialLease.Proofs.Token.StoredForm

/-!
# The time bounds of a new token

A token is made of a name, a secret and two instants, which are dated in whole milliseconds. By the dates
that are stored it has to expire after it was issued (`exists_create_iff`). As long as the milliseconds
fit in 64 bits these are the dates of the instants, and no token is made that expires before it was issued
(`keepsTimeBounds_of_fitsMillis`).

Dates that do not fit come round before they are compared. So a token is refused that lasts until the
first of them, and one is made that was issued then and expired at the beginning of time
(`not_keepsTimeBounds_of_late_issue`).

Main statement: `create_time_bounds`.
-/

namespace CredentialLease

/-- Stored milliseconds are told apart as instants. -/
theorem Instant.ofEpochMillis_inj {millis other : EpochMillis} :
    Instant.ofEpochMillis millis = .ofEpochMillis other ↔ millis = other := by
  constructor
  · intro h
    rw [← toEpochMillis_ofEpochMillis millis, h, toEpochMillis_ofEpochMillis]
  · rintro rfl
    rfl

namespace AccessToken

variable {name : String} {secret : SecretMaterial} {issued expires : Instant} {token : AccessToken}

/-! ### What is made of the parts -/

/-- A token is made of its parts, with the dates that are stored. -/
theorem create_eq_ok_iff : create name secret issued expires = .ok token ↔
    token.name = name ∧ token.secret = secret ∧
      token.issuedAt = issued.stored ∧ token.expiresAt = expires.stored := by
  rw [create, ofMillis_eq_ok_iff, issuedAt, expiresAt, Instant.stored, Instant.stored,
    Instant.ofEpochMillis_inj, Instant.ofEpochMillis_inj]

/-- **A token is made exactly if the length of its name is allowed and it expires after it was issued**,
by the dates that are stored. -/
theorem exists_create_iff : (∃ token, create name secret issued expires = .ok token) ↔
    (1 ≤ (utf8 name).length ∧ (utf8 name).length ≤ 65535) ∧ issued.stored < expires.stored := by
  rw [← Instant.toEpochMillis_lt_iff]
  constructor
  · rintro ⟨token, hToken⟩
    obtain ⟨rfl, -, hIssued, hExpires⟩ := ofMillis_eq_ok_iff.mp hToken
    exact ⟨⟨token.name_ne, token.name_le⟩, hIssued ▸ hExpires ▸ token.issued_lt⟩
  · rintro ⟨⟨hNonempty, hLength⟩, hOrder⟩
    exact ⟨⟨name, secret, _, _, hNonempty, hLength, hOrder⟩, ofMillis_eq_ok_iff.mpr ⟨rfl, rfl, rfl, rfl⟩⟩

/-! ### Dates that fit -/

/-- **Whether the time bounds of a token are kept when it is made** of its parts. -/
structure KeepsTimeBounds (name : String) (secret : SecretMaterial) (issued expires : Instant) :
    Prop where
  /-- A token is made exactly if by its dates it expires after it was issued. -/
  exists_iff : (∃ token, create name secret issued expires = .ok token) ↔
    (1 ≤ (utf8 name).length ∧ (utf8 name).length ≤ 65535) ∧ issued.truncated < expires.truncated
  /-- It has these dates. -/
  dates : ∀ token, create name secret issued expires = .ok token →
    token.issuedAt = issued.truncated ∧ token.expiresAt = expires.truncated
  /-- It does not expire before it was issued. -/
  in_order : ∀ token, create name secret issued expires = .ok token → issued < expires
  /-- Dates after the epoch are less than a millisecond off. -/
  near : ∀ token, create name secret issued expires = .ok token →
    (.epoch ≤ issued → token.issuedAt ≤ issued ∧ issued < token.issuedAt.plus (.ofMillis 1)) ∧
    (.epoch ≤ expires → token.expiresAt ≤ expires ∧ expires < token.expiresAt.plus (.ofMillis 1))

/-- **The time bounds of a token are kept as long as its dates fit.** -/
theorem keepsTimeBounds_of_fitsMillis (hIssued : issued.FitsMillis) (hExpires : expires.FitsMillis) :
    KeepsTimeBounds name secret issued expires := by
  have hIssued := Instant.stored_eq_truncated_iff.mpr hIssued
  have hExpires := Instant.stored_eq_truncated_iff.mpr hExpires
  have hExists : (∃ token, create name secret issued expires = .ok token) ↔
      (1 ≤ (utf8 name).length ∧ (utf8 name).length ≤ 65535) ∧ issued.truncated < expires.truncated := by
    rw [exists_create_iff, hIssued, hExpires]
  have hDates (token : AccessToken) (h : create name secret issued expires = .ok token) :
      token.issuedAt = issued.truncated ∧ token.expiresAt = expires.truncated := by
    obtain ⟨-, -, hIssuedAt, hExpiresAt⟩ := create_eq_ok_iff.mp h
    exact ⟨hIssuedAt.trans hIssued, hExpiresAt.trans hExpires⟩
  refine ⟨hExists, hDates, ?_, ?_⟩
  · intro token h
    exact Instant.lt_of_truncated_lt (hExists.mp ⟨token, h⟩).2
  · intro token h
    obtain ⟨hIssuedAt, hExpiresAt⟩ := hDates token h
    rw [hIssuedAt, hExpiresAt]
    exact ⟨Instant.truncated_near, Instant.truncated_near⟩

/-- **What the time bounds of a new token are**, for every name and secret and any two instants. The
dates that are stored are those of the instants modulo `2 ^ 64` milliseconds, as a clock counts them in
words; an instant before the epoch is dated by it. By the stored dates a token has to expire after it
was issued, and it has them then. So its time bounds are kept exactly as they were given up to a
millisecond, if the milliseconds of both instants fit in 64 bits. -/
theorem create_time_bounds (name : String) (secret : SecretMaterial) (issued expires : Instant) :
    ((∃ token, create name secret issued expires = .ok token) ↔
      (1 ≤ (utf8 name).length ∧ (utf8 name).length ≤ 65535) ∧ issued.stored < expires.stored) ∧
    (∀ token, create name secret issued expires = .ok token ↔
      token.name = name ∧ token.secret = secret ∧
        token.issuedAt = issued.stored ∧ token.expiresAt = expires.stored) ∧
    (∀ t : Instant, t.stored.nanos = t.truncated.nanos % (2 ^ 64 * 1000000) ∧
      (t ≤ .epoch → t.truncated = .epoch) ∧ (t.stored = t.truncated ↔ t.FitsMillis)) ∧
    (∀ reading : ClockReading, .ofEpochMillis reading.epochMillis = reading.instant.stored ∧
      (ClockReading.epoch.checkedAdd (.ofMillis reading.epochMillis)).map ClockReading.instant
        = some reading.instant.stored) ∧
    (issued.FitsMillis → expires.FitsMillis → KeepsTimeBounds name secret issued expires) := by
  refine ⟨exists_create_iff, fun token => create_eq_ok_iff, fun t => ?_, fun reading => ?_,
    keepsTimeBounds_of_fitsMillis⟩
  · exact ⟨t.nanos_stored, Instant.truncated_of_le_epoch, Instant.stored_eq_truncated_iff⟩
  · rw [ClockReading.map_instant_checkedAdd_ofMillis, reading.epochMillis_eq]
    exact ⟨rfl, rfl⟩

/-- The last two milliseconds that fit are dates of a token. -/
theorem create_time_bounds_last :
    KeepsTimeBounds "lease-1" ⟨[]⟩ ⟨18446744073709551614 * 1000000⟩ ⟨18446744073709551615 * 1000000⟩ ∧
    ∃ token, create "lease-1" ⟨[]⟩ ⟨18446744073709551614 * 1000000⟩ ⟨18446744073709551615 * 1000000⟩
      = .ok token := by
  have hKeeps := (create_time_bounds "lease-1" ⟨[]⟩ ⟨18446744073709551614 * 1000000⟩
    ⟨18446744073709551615 * 1000000⟩).2.2.2.2 (by decide) (by decide)
  exact ⟨hKeeps, hKeeps.exists_iff.mpr (by decide)⟩

/-- **A token is made that expires before it was issued**, a millisecond after the epoch, since the date
of its issue is the first one that does not fit in 64 bits. One that lasts from the epoch until then is
refused. -/
theorem not_keepsTimeBounds_of_late_issue :
    Instant.Representable ⟨18446744073709551616 * 1000000⟩ ∧
    (∃ token, create "lease-1" ⟨[]⟩ ⟨18446744073709551616 * 1000000⟩ ⟨1000000⟩ = .ok token) ∧
    ¬ KeepsTimeBounds "lease-1" ⟨[]⟩ ⟨18446744073709551616 * 1000000⟩ ⟨1000000⟩ ∧
    create "lease-1" ⟨[]⟩ .epoch ⟨18446744073709551616 * 1000000⟩
      = .error (.malformedToken "token expiration must follow its issuance") := by
  have hMade : ∃ token, create "lease-1" ⟨[]⟩ ⟨18446744073709551616 * 1000000⟩ ⟨1000000⟩
      = .ok token := exists_create_iff.mpr (by decide)
  refine ⟨by decide, hMade, ?_, rfl⟩
  intro hKeeps
  obtain ⟨token, hToken⟩ := hMade
  exact absurd (hKeeps.in_order token hToken) (by decide)

end AccessToken

end CredentialLease
