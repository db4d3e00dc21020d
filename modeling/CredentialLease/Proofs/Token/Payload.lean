import CredentialLease.Proofs.Text.Utf8
import CredentialLease.Token.Payload
import Mathlib.Tactic.SplitIfs

/-!
# Payloads and the tokens that they describe

Every step of the reader takes a field from the front of a payload. What it accepts is said by one
lemma each: `take_eq_ok_iff` and `number_eq_ok_iff` for plain fields, `takeVersion_eq_ok_iff`,
`takeName_eq_ok_iff` and `takeSecret_eq_ok_iff` for those made of them. Put together they give
`toToken_eq_ok_iff`: a payload describes a token exactly when it is the payload that is written for
it and the length of the secret fits in its four bytes.

A longer secret is written under a length that is reduced modulo `2 ^ 32`, and more than that many
bytes are left over when it is read (`toToken_ofToken`). The reader never fails but with a malformed
token (`failsMalformed_toToken`).
-/

namespace CredentialLease

/-! ### Steps that can fail -/

section Steps

variable {ε α β : Type}

theorem bind_eq_ok {step : Except ε α} {next : α → Except ε β} {value : β} :
    (step >>= next) = .ok value ↔ ∃ found, step = .ok found ∧ next found = .ok value := by
  cases step with
  | error error => simp [bind, Except.bind]
  | ok found => simp [bind, Except.bind]

/-- A step that fails with a malformed token, if it fails. -/
def FailsMalformed (step : Except CredentialError α) : Prop :=
  ∀ error, step = .error error → ∃ details, error = .malformedToken details

theorem failsMalformed_ok (value : α) : FailsMalformed (.ok value) := by
  intro error h
  cases h

theorem failsMalformed_error (details : String) :
    FailsMalformed (.error (.malformedToken details) : Except CredentialError α) := by
  intro error h
  exact ⟨details, (Except.error.inj h).symm⟩

theorem FailsMalformed.bind {step : Except CredentialError α}
    {next : α → Except CredentialError β} (hStep : FailsMalformed step)
    (hNext : ∀ value, FailsMalformed (next value)) : FailsMalformed (step >>= next) := by
  cases step with
  | error error => exact fun other h => hStep other (by cases h; rfl)
  | ok value => exact hNext value

theorem FailsMalformed.map {step : Except CredentialError α} (h : FailsMalformed step)
    (f : α → β) : FailsMalformed (step.map f) := by
  cases step with
  | error error => exact fun other hOther => h other (by cases hOther; rfl)
  | ok value => exact failsMalformed_ok _

end Steps

/-! ### Numbers of a fixed width -/

theorem bigEndian_mod (width n : Nat) :
    Bytes.bigEndian width (n % Bytes.capacity width) = Bytes.bigEndian width n := by
  have h := Bytes.bigEndian_ofBigEndian (Bytes.bigEndian width n)
  rwa [Bytes.length_bigEndian, Bytes.ofBigEndian_bigEndian] at h

/-- Numbers that fit in a width are told apart by their digits. -/
theorem bigEndian_inj {width m n : Nat} (hm : m < Bytes.capacity width)
    (hn : n < Bytes.capacity width) (h : Bytes.bigEndian width m = Bytes.bigEndian width n) :
    m = n := by
  have hRead := congrArg Bytes.ofBigEndian h
  rwa [Bytes.ofBigEndian_bigEndian, Bytes.ofBigEndian_bigEndian, Nat.mod_eq_of_lt hm,
    Nat.mod_eq_of_lt hn] at hRead

namespace Payload

/-! ### Plain fields -/

/-- A field is taken exactly when the payload begins with that many bytes. -/
theorem take_eq_ok_iff {field : String} {count : Nat} {payload head rest : Bytes} :
    take field count payload = .ok (head, rest) ↔ payload = head ++ rest ∧ head.length = count := by
  unfold take
  split_ifs with hShort
  · simp only [false_iff, not_and]
    rintro rfl rfl
    rw [List.length_append] at hShort
    omega
  · simp only [Except.ok.injEq, Prod.mk.injEq]
    constructor
    · rintro ⟨rfl, rfl⟩
      exact ⟨(List.take_append_drop count payload).symm, List.length_take_of_le (by omega)⟩
    · rintro ⟨rfl, rfl⟩
      exact ⟨List.take_left, List.drop_left⟩

theorem failsMalformed_take (field : String) (count : Nat) (payload : Bytes) :
    FailsMalformed (take field count payload) := by
  unfold take
  split_ifs
  · exact failsMalformed_error _
  · exact failsMalformed_ok _

/-- A number is taken exactly when the payload begins with it, written in that width. -/
theorem number_eq_ok_iff {field : String} {width n : Nat} {payload rest : Bytes} :
    number field width payload = .ok (n, rest) ↔
      n < Bytes.capacity width ∧ payload = Bytes.bigEndian width n ++ rest := by
  simp only [number, bind_eq_ok, Prod.exists, take_eq_ok_iff, pure, Except.pure, Except.ok.injEq,
    Prod.mk.injEq]
  constructor
  · rintro ⟨digits, _, ⟨rfl, rfl⟩, rfl, rfl⟩
    exact ⟨Bytes.ofBigEndian_lt digits, by rw [Bytes.bigEndian_ofBigEndian]⟩
  · rintro ⟨hn, rfl⟩
    refine ⟨Bytes.bigEndian width n, rest, ⟨rfl, Bytes.length_bigEndian width n⟩, ?_, rfl⟩
    rw [Bytes.ofBigEndian_bigEndian, Nat.mod_eq_of_lt hn]

theorem failsMalformed_number (field : String) (width : Nat) (payload : Bytes) :
    FailsMalformed (number field width payload) :=
  (failsMalformed_take field width payload).bind fun _ => failsMalformed_ok _

/-- A number is taken from every payload that is long enough. -/
theorem number_of_le {field : String} {width : Nat} {payload : Bytes}
    (h : width ≤ payload.length) :
    number field width payload
      = .ok (Bytes.ofBigEndian (payload.take width), payload.drop width) := by
  have hLength : (payload.take width).length = width := List.length_take_of_le h
  have hLess := Bytes.ofBigEndian_lt (payload.take width)
  have hDigits := Bytes.bigEndian_ofBigEndian (payload.take width)
  rw [hLength] at hLess hDigits
  rw [number_eq_ok_iff, hDigits, List.take_append_drop]
  exact ⟨hLess, rfl⟩

/-! ### The fields of a token -/

theorem takeVersion_eq_ok_iff {payload rest : Bytes} :
    takeVersion payload = .ok rest ↔ payload = Bytes.bigEndian 1 version ++ rest := by
  simp only [takeVersion, bind_eq_ok, Prod.exists, number_eq_ok_iff]
  constructor
  · rintro ⟨found, remaining, ⟨-, rfl⟩, h⟩
    split_ifs at h with hVersion
    obtain rfl := Except.ok.inj h
    rw [hVersion]
  · rintro rfl
    exact ⟨version, rest, ⟨by decide, rfl⟩, if_pos rfl⟩

theorem takeName_eq_ok_iff {payload rest : Bytes} {name : String} :
    takeName payload = .ok (name, rest) ↔ (utf8 name).length < Bytes.capacity 2 ∧
      payload = Bytes.bigEndian 2 (utf8 name).length ++ utf8 name ++ rest := by
  simp only [takeName, bind_eq_ok, Prod.exists, number_eq_ok_iff, take_eq_ok_iff]
  constructor
  · rintro ⟨length, _, ⟨hLength, rfl⟩, bytes, remaining, ⟨rfl, rfl⟩, h⟩
    split at h
    · next read hRead =>
      obtain ⟨rfl, rfl⟩ := Prod.mk.inj (Except.ok.inj h)
      rw [utf8_of_ofUtf8 hRead]
      exact ⟨hLength, (List.append_assoc _ _ _).symm⟩
    · cases h
  · rintro ⟨hLength, rfl⟩
    refine ⟨_, _, ⟨hLength, List.append_assoc _ _ _⟩, utf8 name, rest, ⟨rfl, rfl⟩, ?_⟩
    rw [ofUtf8_utf8]
    rfl

theorem takeSecret_eq_ok_iff {payload rest : Bytes} {secret : SecretMaterial} :
    takeSecret payload = .ok (secret, rest) ↔ secret.length < Bytes.capacity 4 ∧
      payload = Bytes.bigEndian 4 secret.length ++ secret.bytes ++ rest := by
  simp only [takeSecret, bind_eq_ok, Prod.exists, number_eq_ok_iff, take_eq_ok_iff]
  constructor
  · rintro ⟨length, _, ⟨hLength, rfl⟩, bytes, remaining, ⟨rfl, rfl⟩, h⟩
    obtain ⟨rfl, rfl⟩ := Prod.mk.inj (Except.ok.inj h)
    exact ⟨hLength, (List.append_assoc _ _ _).symm⟩
  · rintro ⟨hLength, rfl⟩
    exact ⟨_, _, ⟨hLength, List.append_assoc _ _ _⟩, secret.bytes, rest, ⟨rfl, rfl⟩, rfl⟩

theorem takeEnd_eq_ok_iff {payload : Bytes} {done : Unit} :
    takeEnd payload = .ok done ↔ payload = [] := by
  unfold takeEnd
  split_ifs with hEnd
  · exact ⟨fun _ => hEnd, fun _ => rfl⟩
  · simp [hEnd]

end Payload

theorem AccessToken.ofMillis_eq_ok_iff {name : String} {secret : SecretMaterial}
    {issued expires : EpochMillis} {token : AccessToken} :
    AccessToken.ofMillis name secret issued expires = .ok token ↔
      token.name = name ∧ token.secret = secret ∧ token.issued = issued ∧
        token.expires = expires := by
  unfold AccessToken.ofMillis
  constructor
  · intro h
    split_ifs at h
    obtain rfl := Except.ok.inj h
    exact ⟨rfl, rfl, rfl, rfl⟩
  · rintro ⟨rfl, rfl, rfl, rfl⟩
    rw [dif_pos ⟨token.name_ne, token.name_le⟩, dif_pos token.issued_lt]

namespace Payload

/-! ### Whole payloads -/

/-- **A payload describes a token exactly when it is the one written for it, and the length of the
secret fits in its field.** -/
theorem toToken_eq_ok_iff {payload : Bytes} {token : AccessToken} :
    toToken payload = .ok token ↔
      token.secret.length < Bytes.capacity 4 ∧ payload = ofToken token := by
  simp only [toToken, bind_eq_ok, Prod.exists, takeVersion_eq_ok_iff, takeName_eq_ok_iff,
    takeSecret_eq_ok_iff, number_eq_ok_iff, takeEnd_eq_ok_iff, AccessToken.ofMillis_eq_ok_iff]
  constructor
  -- what was read is put together again, field by field
  · rintro ⟨_, rfl, name, _, ⟨-, rfl⟩, secret, _, ⟨hSecret, rfl⟩, issued, _, ⟨hIssued, rfl⟩, expires,
      _, ⟨hExpires, rfl⟩, _, rfl, rfl, rfl, hIssuedEq, hExpiresEq⟩
    have hToNat {n : Nat} (hn : n < Bytes.capacity 8) : (UInt64.ofNat n).toNat = n :=
      UInt64.toNat_ofNat_of_lt' hn
    refine ⟨hSecret, ?_⟩
    simp only [ofToken, hIssuedEq, hExpiresEq, hToNat hIssued, hToNat hExpires, List.append_assoc,
      List.append_nil]
  · rintro ⟨hSecret, rfl⟩
    have hName : (utf8 token.name).length < Bytes.capacity 2 :=
      Nat.lt_of_le_of_lt token.name_le (by decide)
    refine ⟨_, ?_, token.name, _, ⟨hName, rfl⟩, token.secret, _, ⟨hSecret, rfl⟩, token.issued.toNat,
      _, ⟨token.issued.toNat_lt, rfl⟩, token.expires.toNat, [], ⟨token.expires.toNat_lt, rfl⟩, (), rfl,
      rfl, rfl, UInt64.ofNat_toNat.symm, UInt64.ofNat_toNat.symm⟩
    simp only [ofToken, List.append_assoc, List.append_nil]

/-- A secret whose length does not fit in its field is cut short when it is read, at the length
that was written. -/
theorem takeSecret_of_le {secret : SecretMaterial} (h : Bytes.capacity 4 ≤ secret.length)
    (rest : Bytes) :
    takeSecret (Bytes.bigEndian 4 secret.length ++ secret.bytes ++ rest)
      = .ok (⟨secret.bytes.take (secret.length % Bytes.capacity 4)⟩,
          secret.bytes.drop (secret.length % Bytes.capacity 4) ++ rest) := by
  have hMod : secret.length % Bytes.capacity 4 < Bytes.capacity 4 := Nat.mod_lt _ (by decide)
  have hLength : (secret.bytes.take (secret.length % Bytes.capacity 4)).length
      = secret.length % Bytes.capacity 4 :=
    List.length_take_of_le (show _ ≤ secret.length by omega)
  rw [takeSecret_eq_ok_iff]
  simp only [SecretMaterial.length] at hLength hMod ⊢
  rw [hLength]
  refine ⟨hMod, ?_⟩
  rw [bigEndian_mod, List.append_assoc, List.append_assoc, ← List.append_assoc (secret.bytes.take _),
    List.take_append_drop]

/-- **The payload of a token gives the token back if the length of the secret fits in its field.
Otherwise bytes of the secret are left over.** -/
theorem toToken_ofToken (token : AccessToken) :
    toToken (ofToken token) =
      if token.secret.length < Bytes.capacity 4 then .ok token
      else .error (.malformedToken
        s!"{token.secret.length - token.secret.length % Bytes.capacity 4} trailing bytes after token") := by
  split_ifs with hSecret
  · exact toToken_eq_ok_iff.mpr ⟨hSecret, rfl⟩
  · have hLarge : Bytes.capacity 4 ≤ token.secret.length := Nat.le_of_not_lt hSecret
    have hName : (utf8 token.name).length < Bytes.capacity 2 :=
      Nat.lt_of_le_of_lt token.name_le (by decide)
    obtain ⟨stamps, hStamps⟩ : ∃ stamps, stamps = Bytes.bigEndian 8 token.issued.toNat
        ++ Bytes.bigEndian 8 token.expires.toNat := ⟨_, rfl⟩
    -- What is left after the secret, as far as it is read, and what of that after the timestamps.
    obtain ⟨left, hLeft⟩ : ∃ left, left = token.secret.bytes.drop
        (token.secret.length % Bytes.capacity 4) ++ stamps := ⟨_, rfl⟩
    have hVersion : takeVersion (ofToken token)
        = .ok (Bytes.bigEndian 2 (utf8 token.name).length ++ utf8 token.name
          ++ (Bytes.bigEndian 4 token.secret.length ++ token.secret.bytes ++ stamps)) := by
      rw [takeVersion_eq_ok_iff, hStamps]
      simp only [ofToken, List.append_assoc]
    have hTakeName (rest : Bytes) : takeName (Bytes.bigEndian 2 (utf8 token.name).length
        ++ utf8 token.name ++ rest) = .ok (token.name, rest) :=
      takeName_eq_ok_iff.mpr ⟨hName, rfl⟩
    have hTakeSecret := takeSecret_of_le hLarge stamps
    rw [← hLeft] at hTakeSecret
    have hLength : left.length
        = token.secret.length - token.secret.length % Bytes.capacity 4 + 16 := by
      rw [hLeft, hStamps]
      simp only [List.length_append, List.length_drop, Bytes.length_bigEndian,
        SecretMaterial.length]
    have hRead : token.secret.length % Bytes.capacity 4 < Bytes.capacity 4 :=
      Nat.mod_lt _ (by decide)
    have hIssued : 8 ≤ left.length := by omega
    have hExpires : 8 ≤ (left.drop 8).length := by
      rw [List.length_drop]
      omega
    have hTrailing : ((left.drop 8).drop 8).length
        = token.secret.length - token.secret.length % Bytes.capacity 4 := by
      rw [List.length_drop, List.length_drop]
      omega
    have hEnd : (left.drop 8).drop 8 ≠ [] := by
      rw [← List.length_pos_iff, hTrailing]
      omega
    simp only [toToken, hVersion, hTakeName, hTakeSecret, number_of_le hIssued,
      number_of_le hExpires, takeEnd, if_neg hEnd, hTrailing, bind, Except.bind]

/-- **Tokens are told apart by their payloads**, also those that cannot be read back. -/
theorem ofToken_injective {token other : AccessToken}
    (h : ofToken token = ofToken other) : token = other := by
  have hFits (ms : EpochMillis) : ms.toNat < Bytes.capacity 8 :=
    Nat.lt_of_lt_of_le ms.toNat_lt (by decide)
  have hBytes := h
  simp only [ofToken, List.append_assoc] at hBytes
  obtain ⟨-, hBytes⟩ := List.append_inj hBytes rfl
  obtain ⟨hNameDigits, hBytes⟩ := List.append_inj hBytes (by simp)
  have hNameLength : (utf8 token.name).length = (utf8 other.name).length :=
    bigEndian_inj (Nat.lt_of_le_of_lt token.name_le (by decide))
      (Nat.lt_of_le_of_lt other.name_le (by decide)) hNameDigits
  obtain ⟨hName, hBytes⟩ := List.append_inj hBytes hNameLength
  obtain ⟨-, hBytes⟩ := List.append_inj hBytes (by simp)
  -- The length of the secret may be cut short, but what follows the secret has a fixed length.
  obtain ⟨hSecret, hBytes⟩ := List.append_inj' hBytes (by simp)
  obtain ⟨hIssued, hExpires⟩ := List.append_inj hBytes (by simp)
  obtain ⟨name, ⟨secret⟩, issued, expires, _, _, _⟩ := token
  obtain ⟨otherName, ⟨otherSecret⟩, otherIssued, otherExpires, _, _, _⟩ := other
  have hSameName : name = otherName := utf8_injective hName
  have hSameIssued : issued = otherIssued :=
    UInt64.toNat_inj.mp (bigEndian_inj (hFits issued) (hFits otherIssued) hIssued)
  have hSameExpires : expires = otherExpires :=
    UInt64.toNat_inj.mp (bigEndian_inj (hFits expires) (hFits otherExpires) hExpires)
  have hSameSecret : secret = otherSecret := hSecret
  subst hSameName hSameIssued hSameExpires hSameSecret
  rfl

/-! ### Failures -/

theorem failsMalformed_takeVersion (payload : Bytes) : FailsMalformed (takeVersion payload) := by
  refine (failsMalformed_number _ _ _).bind fun ⟨found, rest⟩ => ?_
  dsimp only
  split_ifs
  · exact failsMalformed_ok _
  · exact failsMalformed_error _

theorem failsMalformed_takeName (payload : Bytes) : FailsMalformed (takeName payload) := by
  refine (failsMalformed_number _ _ _).bind fun ⟨length, rest⟩ => ?_
  refine (failsMalformed_take _ _ _).bind fun ⟨bytes, remaining⟩ => ?_
  dsimp only
  split
  · exact failsMalformed_ok _
  · exact failsMalformed_error _

theorem failsMalformed_takeSecret (payload : Bytes) : FailsMalformed (takeSecret payload) :=
  (failsMalformed_number _ _ _).bind fun _ =>
    (failsMalformed_take _ _ _).bind fun _ => failsMalformed_ok _

theorem failsMalformed_takeEnd (payload : Bytes) : FailsMalformed (takeEnd payload) := by
  unfold takeEnd
  split_ifs
  · exact failsMalformed_ok _
  · exact failsMalformed_error _

theorem failsMalformed_ofMillis (name : String) (secret : SecretMaterial)
    (issued expires : EpochMillis) :
    FailsMalformed (AccessToken.ofMillis name secret issued expires) := by
  unfold AccessToken.ofMillis
  split_ifs
  · exact failsMalformed_ok _
  · exact failsMalformed_error _
  · exact failsMalformed_error _

/-- **A payload that describes no token is reported as a malformed token.** -/
theorem failsMalformed_toToken (payload : Bytes) : FailsMalformed (toToken payload) :=
  (failsMalformed_takeVersion _).bind fun _ => (failsMalformed_takeName _).bind fun _ =>
    (failsMalformed_takeSecret _).bind fun _ => (failsMalformed_number _ _ _).bind fun _ =>
      (failsMalformed_number _ _ _).bind fun _ => (failsMalformed_takeEnd _).bind fun _ =>
        failsMalformed_ofMillis _ _ _ _

end Payload

end CredentialLease
