import CredentialLease.Text.Utf8

/-!
# The bytes of a text

A text is encoded character by character (`utf8_eq_flatMap`). An ASCII character is a byte of its own,
and the bytes of all others are beyond ASCII. So an ASCII byte is found in a text exactly where the
character is that it stands for (`mem_utf8_iff`).
-/

namespace CredentialLease

theorem utf8_ofList (s : List Char) : utf8 (String.ofList s) = s.flatMap String.utf8EncodeChar := by
  simp [utf8, List.utf8Encode]

theorem utf8_eq_flatMap (s : String) : utf8 s = s.toList.flatMap String.utf8EncodeChar := by
  rw [← utf8_ofList, String.ofList_toList]

theorem utf8_append (s t : String) : utf8 (s ++ t) = utf8 s ++ utf8 t := by
  simp [utf8]

theorem utf8_injective {s t : String} (h : utf8 s = utf8 t) : s = t := by
  have hRead := congrArg ofUtf8 h
  rw [ofUtf8_utf8, ofUtf8_utf8] at hRead
  exact Option.some.inj hRead

/-- An ASCII character is encoded as one byte. -/
theorem utf8EncodeChar_of_ascii {c : Char} (h : c.toNat < 128) :
    String.utf8EncodeChar c = [UInt8.ofNat c.toNat] := by
  have hFirst : c.val.toNat ≤ 127 := Nat.le_of_lt_succ h
  rw [String.utf8EncodeChar, if_pos hFirst]
  rfl

/-- **An ASCII byte in the encoding of a character is that character.** -/
theorem toNat_of_mem_utf8EncodeChar {c : Char} {b : UInt8} (h : b ∈ String.utf8EncodeChar c)
    (hAscii : b.toNat < 128) : c.toNat = b.toNat := by
  have hBeyond {n : Nat} (hFrom : 128 ≤ n) (hTo : n < 256) : b ≠ UInt8.ofNat n := by
    rintro rfl
    rw [UInt8.toNat_ofNat', Nat.mod_eq_of_lt hTo] at hAscii
    omega
  rw [String.utf8EncodeChar] at h
  split at h
  · next hOne =>
    obtain rfl := List.mem_singleton.mp h
    rw [UInt8.toNat_ofNat', Nat.mod_eq_of_lt (by omega)]
    rfl
  -- each of the bytes of a longer encoding is a number from 128 on
  · exfalso
    split at h
    · simp only [List.mem_cons, List.not_mem_nil, or_false] at h
      rcases h with h | h <;> exact hBeyond (by omega) (by omega) h
    · split at h
      · simp only [List.mem_cons, List.not_mem_nil, or_false] at h
        rcases h with h | h | h <;> exact hBeyond (by omega) (by omega) h
      · simp only [List.mem_cons, List.not_mem_nil, or_false] at h
        rcases h with h | h | h | h <;> exact hBeyond (by omega) (by omega) h

/-- **An ASCII byte is found in a text exactly where its character is.** -/
theorem mem_utf8_iff {c : Char} (h : c.toNat < 128) {s : String} :
    UInt8.ofNat c.toNat ∈ utf8 s ↔ c ∈ s.toList := by
  have hByte : (UInt8.ofNat c.toNat).toNat = c.toNat := by
    rw [UInt8.toNat_ofNat', Nat.mod_eq_of_lt (by omega)]
  rw [utf8_eq_flatMap, List.mem_flatMap]
  constructor
  · rintro ⟨d, hd, hMem⟩
    have hSame := toNat_of_mem_utf8EncodeChar hMem (by omega)
    rw [hByte] at hSame
    rwa [← Char.toNat_inj.mp hSame]
  · intro hc
    exact ⟨c, hc, by rw [utf8EncodeChar_of_ascii h]; exact List.mem_singleton.mpr rfl⟩

end CredentialLease
