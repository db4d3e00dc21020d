import CredentialLease.Proofs.Base64.Canonical
import CredentialLease.Proofs.Text.Trimming
import CredentialLease.Proofs.Token.Payload
import Mathlib.Algebra.Group.Nat.Defs
import Mathlib.Algebra.Order.Monoid.Unbundled.Pow

/-!
# Stored values and the tokens that they hold

A value of a record holds a token exactly when it is the text that is stored for it, up to white
space around it, and the secret is shorter than `2 ^ 32` bytes (`decode_eq_ok_some_iff`). So storing
a token loses nothing (`decode_encode_eq`), and a token has one stored form (`decode_canonical`).
The placeholder is the only value that stands for no token (`decode_eq_ok_none_iff`), and every
other value is reported as a malformed token (`failsMalformed_decode`).

A token that is stored with a longer secret cannot be read back. It is never taken for another one,
since the length of its secret is written modulo `2 ^ 32` and bytes are left over.
-/

namespace CredentialLease

/-! ### Instants -/

/-- Whole milliseconds after the epoch survive the way through instants, up to the last one. -/
theorem Instant.toEpochMillis_ofEpochMillis (ms : EpochMillis) :
    (Instant.ofEpochMillis ms).toEpochMillis = ms := by
  have hNanos : (Instant.ofEpochMillis ms).nanos.toNat / Duration.nanosPerMilli = ms.toNat := by
    rw [Instant.ofEpochMillis, Int.toNat_natCast]
    exact Nat.mul_div_cancel _ (by decide)
  rw [Instant.toEpochMillis, hNanos, UInt64.ofNat_toNat]

/-- An instant that is not past the last millisecond is told to the millisecond, and one before the
epoch as the epoch. -/
theorem Instant.toNat_toEpochMillis {t : Instant} (h : t.nanos < 2 ^ 64 * 1000000) :
    (t.toEpochMillis.toNat : Int) = max 0 (t.nanos / 1000000) := by
  have hWord : t.nanos.toNat / 1000000 < 2 ^ 64 := by omega
  have hMillis : t.toEpochMillis.toNat = t.nanos.toNat / 1000000 := by
    rw [toEpochMillis, UInt64.toNat_ofNat']
    exact Nat.mod_eq_of_lt hWord
  omega

theorem capacity_four : Bytes.capacity 4 = 2 ^ 32 := by decide

/-! ### Texts of base64 -/

theorem Base64.encode_ne_placeholder (bytes : Bytes) : Base64.encode bytes ≠ placeholder := by
  intro h
  have hRead := Base64.decode_encode bytes
  rw [h, show Base64.decode placeholder = .error .invalidPadding by decide] at hRead
  cases hRead

theorem Base64.trimmed_encode (bytes : Bytes) : trimmed (Base64.encode bytes) = Base64.encode bytes :=
  trimmed_eq_self fun _ hc => Base64.isBlank_of_mem_encode hc

namespace AccessToken

/-- A token is made of its own parts. -/
theorem create_self (token : AccessToken) :
    AccessToken.create token.name token.secret token.issuedAt token.expiresAt = .ok token := by
  rw [create, issuedAt, expiresAt, Instant.toEpochMillis_ofEpochMillis,
    Instant.toEpochMillis_ofEpochMillis, ofMillis_eq_ok_iff]
  exact ⟨rfl, rfl, rfl, rfl⟩

/-! ### Stored values -/

theorem encode_ne_placeholder (token : AccessToken) : token.encode ≠ placeholder :=
  Base64.encode_ne_placeholder _

theorem trimmed_encode (token : AccessToken) : trimmed token.encode = token.encode :=
  Base64.trimmed_encode _

/-- **Tokens are told apart by what is stored for them.** -/
theorem encode_injective {token other : AccessToken}
    (h : token.encode = other.encode) : token = other :=
  Payload.ofToken_injective (Base64.encode_inj.mp h)

/-- A value other than the placeholder is read as its payload is. -/
theorem decode_of_ne {value : String} (h : value ≠ placeholder) :
    AccessToken.decode value =
      match Base64.decode (trimmed value) with
      | .error error => .error (.malformedToken s!"invalid base64: {error.message}")
      | .ok payload => (Payload.toToken payload).map some := by
  unfold decode
  exact if_neg h

/-- The base64 text of any payload is read as that payload is. -/
theorem decode_encode_bytes (payload : Bytes) :
    AccessToken.decode (Base64.encode payload) = (Payload.toToken payload).map some := by
  rw [decode_of_ne (Base64.encode_ne_placeholder payload), Base64.trimmed_encode,
    Base64.decode_encode]

/-- **Only the placeholder stands for no token.** -/
theorem decode_eq_ok_none_iff {value : String} :
    AccessToken.decode value = .ok none ↔ value = placeholder := by
  constructor
  · intro h
    by_contra hNe
    rw [decode_of_ne hNe] at h
    split at h
    · cases h
    · next payload _ =>
      cases hToken : Payload.toToken payload with
      | error error =>
        rw [hToken] at h
        cases h
      | ok token =>
        rw [hToken] at h
        cases h
  · intro h
    rw [decode, if_pos h]

/-- **A value holds a token exactly when what is left of it without white space around it is the
text that is stored for the token, and the length of the secret fits in its field.** -/
theorem decode_eq_ok_some_iff {value : String} {token : AccessToken} :
    AccessToken.decode value = .ok (some token) ↔
      token.secret.length < Bytes.capacity 4 ∧ trimmed value = token.encode := by
  constructor
  · intro h
    have hNe : value ≠ placeholder := by
      intro hValue
      rw [decode_eq_ok_none_iff.mpr hValue] at h
      cases h
    rw [decode_of_ne hNe] at h
    split at h
    · cases h
    · next payload hPayload =>
      cases hToken : Payload.toToken payload with
      | error error =>
        rw [hToken] at h
        cases h
      | ok found =>
        rw [hToken] at h
        obtain rfl := Option.some.inj (Except.ok.inj h)
        obtain ⟨hSecret, rfl⟩ := Payload.toToken_eq_ok_iff.mp hToken
        exact ⟨hSecret, Base64.decode_eq_ok_iff.mp hPayload⟩
  · rintro ⟨hSecret, hValue⟩
    have hNe : value ≠ placeholder := by
      rintro rfl
      exact token.encode_ne_placeholder (hValue ▸ by decide)
    -- the placeholder is not what is stored for a token, so the value is read as base64
    rw [decode_of_ne hNe, hValue, encode, Base64.decode_encode]
    dsimp only
    rw [Payload.toToken_eq_ok_iff.mpr ⟨hSecret, rfl⟩]
    rfl

/-- What is stored for a token is read as that token, if the length of its secret fits, and as no
other one. -/
theorem decodeStored_encode_iff {token other : AccessToken} :
    decodeStored (some token.encode) = .ok (some other) ↔
      token.secret.length < 2 ^ 32 ∧ token = other := by
  rw [decodeStored, decode_eq_ok_some_iff, capacity_four, trimmed_encode]
  constructor
  · rintro ⟨hSecret, hSame⟩
    obtain rfl := encode_injective hSame
    exact ⟨hSecret, rfl⟩
  · rintro ⟨hSecret, rfl⟩
    exact ⟨hSecret, rfl⟩

theorem decodeStored_encode {token : AccessToken} (hSecret : token.secret.length < 2 ^ 32) :
    decodeStored (some token.encode) = .ok (some token) :=
  decodeStored_encode_iff.mpr ⟨hSecret, rfl⟩

/-- An entry stands for no token if it is absent or the placeholder. -/
theorem decodeStored_eq_ok_none_iff {entry : Option String} :
    decodeStored entry = .ok none ↔ entry = none ∨ entry = some placeholder := by
  cases entry with
  | none => exact ⟨fun _ => .inl rfl, fun _ => rfl⟩
  | some value =>
    rw [decodeStored, decode_eq_ok_none_iff, Option.some.injEq]
    exact ⟨.inr, fun h => h.resolve_left nofun⟩

/-- **A value that holds no token and is not the placeholder is a malformed token.** -/
theorem failsMalformed_decode (value : String) : FailsMalformed (AccessToken.decode value) := by
  by_cases h : value = placeholder
  · rw [decode_eq_ok_none_iff.mpr h]
    exact failsMalformed_ok _
  · rw [decode_of_ne h]
    split
    · exact failsMalformed_error _
    · exact (Payload.failsMalformed_toToken _).map some

/-! ### Storing and reading back -/

/-- **What is stored for a token is read as that token, or as none at all.** The first holds when
the length of the secret fits in its field. Otherwise the secret is cut short at that length modulo
`2 ^ 32`, and the bytes that are left over make the value malformed. -/
theorem decode_encode_eq (token : AccessToken) :
    AccessToken.create token.name token.secret token.issuedAt token.expiresAt = .ok token ∧
    token.encode ≠ placeholder ∧
    AccessToken.decode token.encode =
      (if token.secret.length < 2 ^ 32 then .ok (some token)
      else .error (.malformedToken
        s!"{token.secret.length - token.secret.length % 2 ^ 32} trailing bytes after token")) ∧
    ∀ result, AccessToken.decode token.encode = .ok result → result = some token := by
  have hDecode : AccessToken.decode token.encode =
      if token.secret.length < 2 ^ 32 then .ok (some token)
      else .error (.malformedToken
        s!"{token.secret.length - token.secret.length % 2 ^ 32} trailing bytes after token") := by
    have hPayload : Base64.decode token.encode = .ok (Payload.ofToken token) :=
      Base64.decode_eq_ok_iff.mpr rfl
    rw [decode_of_ne token.encode_ne_placeholder, trimmed_encode, hPayload]
    dsimp only
    rw [Payload.toToken_ofToken, capacity_four]
    split_ifs
    · rfl
    · rfl
  refine ⟨token.create_self, token.encode_ne_placeholder, hDecode, ?_⟩
  intro result h
  rw [hDecode] at h
  split_ifs at h
  exact (Except.ok.inj h).symm

/-- The length of a secret of `2 ^ 32` bytes is written as zero, and the whole secret is left
over. -/
theorem decode_encode_eq_wrapped :
    ∃ token : AccessToken, token.secret.length = 2 ^ 32 ∧
      AccessToken.decode token.encode
        = .error (.malformedToken "4294967296 trailing bytes after token") := by
  obtain ⟨token, hToken⟩ : ∃ token : AccessToken, token.secret.length = 2 ^ 32 := by
    refine ⟨⟨"n", ⟨List.replicate (2 ^ 32) 0⟩, 1, 2, by decide, by decide, by decide⟩, ?_⟩
    rw [SecretMaterial.length, List.length_replicate]
  refine ⟨token, hToken, ?_⟩
  rw [(decode_encode_eq token).2.2.1, hToken, if_neg (lt_irrefl _), Nat.mod_self, Nat.sub_zero]
  rfl

end AccessToken

/-! ### One stored form -/

/-- What makes a byte string the payload of a token: the version of the format, a name and a secret
under lengths that are theirs, and an expiry after the issue, with nothing after it. -/
def Payload.IsWellFormed (payload : Bytes) : Prop :=
  ∃ (name : String) (secret : Bytes) (issued expires : Nat),
    payload = 1 :: (Bytes.bigEndian 2 (utf8 name).length ++ utf8 name
      ++ Bytes.bigEndian 4 secret.length ++ secret
      ++ Bytes.bigEndian 8 issued ++ Bytes.bigEndian 8 expires) ∧
    1 ≤ (utf8 name).length ∧ (utf8 name).length ≤ 65535 ∧ secret.length < 2 ^ 32 ∧
    issued < expires ∧ expires < 2 ^ 64

theorem Payload.isWellFormed_iff {payload : Bytes} :
    IsWellFormed payload ↔ ∃ token, toToken payload = .ok token := by
  have hVersion : Bytes.bigEndian 1 version = [1] := by decide
  simp only [toToken_eq_ok_iff, ofToken, hVersion, capacity_four]
  constructor
  · rintro ⟨name, secret, issued, expires, rfl, hPos, hName, hSecret, hOrder, hExpires⟩
    -- the instants fit in eight bytes, so nothing of them is lost
    have hIssuedNat : (UInt64.ofNat issued).toNat = issued :=
      UInt64.toNat_ofNat_of_lt' (show issued < 2 ^ 64 by omega)
    have hExpiresNat : (UInt64.ofNat expires).toNat = expires :=
      UInt64.toNat_ofNat_of_lt' (show expires < 2 ^ 64 by omega)
    have hLess : UInt64.ofNat issued < UInt64.ofNat expires := by
      rw [UInt64.lt_iff_toNat_lt, hIssuedNat, hExpiresNat]
      exact hOrder
    refine ⟨⟨name, ⟨secret⟩, UInt64.ofNat issued, UInt64.ofNat expires, hPos, hName, hLess⟩, hSecret,
      ?_⟩
    simp only [hIssuedNat, hExpiresNat, SecretMaterial.length, List.append_assoc,
      List.cons_append, List.nil_append]
  · rintro ⟨token, hSecret, rfl⟩
    refine ⟨token.name, token.secret.bytes, token.issued.toNat, token.expires.toNat, ?_,
      token.name_ne, token.name_le, hSecret, UInt64.lt_iff_toNat_lt.mp token.issued_lt,
      token.expires.toNat_lt⟩
    simp only [SecretMaterial.length, List.append_assoc, List.cons_append, List.nil_append]

/-- **A token has one stored form.** A value that holds it is that form between blank characters, and
a value holds some token exactly when its payload is well-formed. The placeholder is the only value
that is read as no token, and every failure is that of a malformed token. -/
theorem AccessToken.decode_canonical (value : String) :
    (AccessToken.decode value = .ok none ↔ value = placeholder) ∧
    (∀ token, AccessToken.decode value = .ok (some token) →
      token.encode = trimmed value ∧
      ∃ before after, Text.AllBlank before ∧ Text.AllBlank after ∧
        value.toList = before ++ token.encode.toList ++ after) ∧
    (∀ other token, AccessToken.decode value = .ok (some token) →
      AccessToken.decode other = .ok (some token) → trimmed other = trimmed value) ∧
    ((∃ token, AccessToken.decode value = .ok (some token)) ↔
      ∃ payload, Base64.decode (trimmed value) = .ok payload ∧ Payload.IsWellFormed payload) ∧
    ((∃ details, AccessToken.decode value = .error (.malformedToken details)) ↔
      value ≠ placeholder ∧ ¬ ∃ payload,
        Base64.decode (trimmed value) = .ok payload ∧ Payload.IsWellFormed payload) := by
  have hForm {value : String} {token : AccessToken}
      (h : AccessToken.decode value = .ok (some token)) : trimmed value = token.encode :=
    (decode_eq_ok_some_iff.mp h).2
  have hHolds : (∃ token, AccessToken.decode value = .ok (some token)) ↔
      ∃ payload, Base64.decode (trimmed value) = .ok payload ∧ Payload.IsWellFormed payload := by
    simp only [Payload.isWellFormed_iff]
    constructor
    · rintro ⟨token, h⟩
      obtain ⟨hSecret, hTrimmed⟩ := decode_eq_ok_some_iff.mp h
      exact ⟨Payload.ofToken token, Base64.decode_eq_ok_iff.mpr hTrimmed, token,
        Payload.toToken_eq_ok_iff.mpr ⟨hSecret, rfl⟩⟩
    · rintro ⟨payload, hPayload, token, hToken⟩
      obtain ⟨hSecret, rfl⟩ := Payload.toToken_eq_ok_iff.mp hToken
      exact ⟨token, decode_eq_ok_some_iff.mpr ⟨hSecret, Base64.decode_eq_ok_iff.mp hPayload⟩⟩
  refine ⟨decode_eq_ok_none_iff, ?_, ?_, hHolds, ?_⟩
  · intro token h
    have hBlank : ∀ c ∈ token.encode.toList, Text.isBlank c = false :=
      fun _ hc => Base64.isBlank_of_mem_encode hc
    exact ⟨(hForm h).symm, (trimmed_eq_iff hBlank).mp (hForm h)⟩
  · intro other token hValue hOther
    rw [hForm hOther, hForm hValue]
  · rw [← hHolds, Ne, ← decode_eq_ok_none_iff]
    -- What is neither of the first two results is a failure.
    cases hResult : AccessToken.decode value with
    | error error =>
      obtain ⟨details, rfl⟩ := failsMalformed_decode value error hResult
      simp
    | ok result => cases result <;> simp

/-- A line break after the stored form of a token does no harm. -/
theorem AccessToken.decode_canonical_line :
    ∃ token : AccessToken, token.name = "n" ∧
      AccessToken.decode "AQABbgAAAAFzAAAAAAAAAAEAAAAAAAAAAg==\n" = .ok (some token) ∧
      token.encode = trimmed "AQABbgAAAAFzAAAAAAAAAAEAAAAAAAAAAg==\n" := by
  have hDecode : AccessToken.decode "AQABbgAAAAFzAAAAAAAAAAEAAAAAAAAAAg==\n"
      = .ok (some ⟨"n", ⟨[115]⟩, 1, 2, by decide, by decide, by decide⟩) := by rfl
  exact ⟨_, rfl, hDecode, ((AccessToken.decode_canonical _).2.1 _ hDecode).1⟩

end CredentialLease
