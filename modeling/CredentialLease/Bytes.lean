/-!
# Byte strings, their hexadecimal spelling and big-endian numbers

A byte string is a list of bytes. `bigEndian width n` is the number `n` in `width` bytes, most
significant first, and `ofBigEndian` reads such a number back. There are `capacity width` numbers
of `width` bytes; a larger number is reduced modulo that.

Main statements: `ofBigEndian_bigEndian` and `bigEndian_ofBigEndian`, which say that writing and
reading are inverse up to that reduction, and `ofBigEndian_lt`.
-/

namespace CredentialLease

/-- A byte string. -/
abbrev Bytes := List UInt8

namespace Bytes

/-- The bytes in lower-case hexadecimal, two digits each. -/
def hex (bytes : Bytes) : String :=
  String.ofList (bytes.flatMap fun b =>
    [Nat.digitChar (b.toNat / 16), Nat.digitChar (b.toNat % 16)])

/-! ### Big-endian numbers -/

/-- How many different byte strings of a given length there are. -/
def capacity : Nat → Nat
  | 0 => 1
  | width + 1 => 256 * capacity width

/-- A number in a fixed number of bytes, most significant first. -/
def bigEndian : Nat → Nat → Bytes
  | 0, _ => []
  | width + 1, n => bigEndian width (n / 256) ++ [UInt8.ofNat n]

/-- The number that the bytes spell, most significant first. -/
def ofBigEndian (bytes : Bytes) : Nat := bytes.foldl (fun n b => n * 256 + b.toNat) 0

@[simp]
theorem ofBigEndian_nil : ofBigEndian [] = 0 := rfl

/-- Reading one byte more shifts what was read before it. -/
theorem ofBigEndian_concat (bytes : Bytes) (b : UInt8) :
    ofBigEndian (bytes ++ [b]) = ofBigEndian bytes * 256 + b.toNat := by
  simp [ofBigEndian]

@[simp]
theorem length_bigEndian (width n : Nat) : (bigEndian width n).length = width := by
  induction width generalizing n with
  | zero => rfl
  | succ width ih => simp [bigEndian, ih]

/-- **A number comes back reduced to the width it was written in.** -/
theorem ofBigEndian_bigEndian (width n : Nat) :
    ofBigEndian (bigEndian width n) = n % capacity width := by
  induction width generalizing n with
  | zero => simp [bigEndian, capacity, Nat.mod_one]
  | succ width ih =>
    have hByte : (UInt8.ofNat n).toNat = n % 256 := UInt8.toNat_ofNat'
    have hSplit : n % (256 * capacity width) = n % 256 + 256 * (n / 256 % capacity width) :=
      Nat.mod_mul
    rw [bigEndian, ofBigEndian_concat, ih, hByte, capacity, hSplit]
    omega

/-- **A byte string is the number it spells, written in its own length.** -/
theorem bigEndian_ofBigEndian (bytes : Bytes) :
    bigEndian bytes.length (ofBigEndian bytes) = bytes := by
  generalize hLength : bytes.length = width
  induction width generalizing bytes with
  | zero => rw [List.length_eq_zero_iff.mp hLength, bigEndian]
  | succ width ih =>
    have hNonempty : bytes ≠ [] := by
      intro hNil
      simp [hNil] at hLength
    obtain ⟨front, b, rfl⟩ : ∃ front b, bytes = front ++ [b] :=
      ⟨_, _, (List.dropLast_concat_getLast hNonempty).symm⟩
    have hFront : front.length = width := by simpa using hLength
    have hByte : b.toNat < 256 := b.toNat_lt
    have hQuotient : (ofBigEndian front * 256 + b.toNat) / 256 = ofBigEndian front := by omega
    have hLast : UInt8.ofNat (ofBigEndian front * 256 + b.toNat) = b := by
      apply UInt8.toNat_inj.mp
      rw [UInt8.toNat_ofNat']
      omega
    rw [bigEndian, ofBigEndian_concat, hQuotient, hLast, ih front hFront]

/-- **A byte string spells one of as many numbers as there are strings of its length.** -/
theorem ofBigEndian_lt (bytes : Bytes) : ofBigEndian bytes < capacity bytes.length := by
  have hPositive (width : Nat) : 0 < capacity width := by
    induction width with
    | zero => exact Nat.one_pos
    | succ width ih => exact Nat.mul_pos (by omega) ih
  have hReduced := ofBigEndian_bigEndian bytes.length (ofBigEndian bytes)
  rw [bigEndian_ofBigEndian] at hReduced
  rw [hReduced]
  exact Nat.mod_lt _ (hPositive _)

end Bytes

end CredentialLease
