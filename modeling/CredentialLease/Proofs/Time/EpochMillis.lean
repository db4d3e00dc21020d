import CredentialLease.Proofs.Time.ClockWords
import Mathlib.Algebra.Group.Int.Defs
import Mathlib.Algebra.Group.Nat.Defs
import Mathlib.Algebra.Order.Monoid.Unbundled.Pow

/-!
# Instants in whole milliseconds

An instant is dated in milliseconds by clamping it to the epoch and dropping what is left beyond a whole
millisecond (`Instant.truncated`). In 64 bits there is room for some 584 million years of them, and a
clock can hold instants that are five hundred times as late. Those come round: what is stored is the
rest modulo `2 ^ 64` milliseconds (`Instant.nanos_stored`), so an instant is stored as it is dated
exactly if it comes before the first one that does not fit (`Instant.stored_eq_truncated_iff`).

A clock counts the milliseconds in words of 128 bits and keeps the low 64 of them. That is what
`Instant.toEpochMillis` does in whole numbers (`ClockReading.epochMillis_eq`). The way back, from stored
milliseconds to a reading, never overflows (`ClockReading.map_instant_checkedAdd_ofMillis`).
-/

namespace CredentialLease

/-! ### Dates -/

namespace Instant

variable {s t : Instant}

/-- The date of an instant: the last whole millisecond that has passed, and the epoch for instants that
are earlier. -/
def truncated (t : Instant) : Instant := ⟨max 0 t.nanos / 1000000 * 1000000⟩

theorem truncated_of_le_epoch (h : t ≤ epoch) : t.truncated = epoch := by
  have h : t.nanos ≤ 0 := h
  rw [truncated, max_eq_left h]
  rfl

/-- **The date of an instant after the epoch is less than a millisecond before it.** -/
theorem truncated_near (h : epoch ≤ t) :
    t.truncated ≤ t ∧ t < t.truncated.plus (.ofMillis 1) := by
  have h : 0 ≤ t.nanos := h
  constructor
  · show max 0 t.nanos / 1000000 * 1000000 ≤ t.nanos
    omega
  · show t.nanos < max 0 t.nanos / 1000000 * 1000000 + (1 * 1000000 : Nat)
    omega

/-- Instants with different dates come in the order of these. -/
theorem lt_of_truncated_lt (h : s.truncated < t.truncated) : s < t := by
  have h : max 0 s.nanos / 1000000 * 1000000 < max 0 t.nanos / 1000000 * 1000000 := h
  show s.nanos < t.nanos
  omega

/-! ### Dates in 64 bits -/

/-- Whether the milliseconds up to an instant fit in 64 bits. -/
def FitsMillis (t : Instant) : Prop := t.nanos < 2 ^ 64 * 1000000

instance (t : Instant) : Decidable t.FitsMillis := inferInstanceAs (Decidable (_ < _))

/-- The instant that is stored for an instant. -/
def stored (t : Instant) : Instant := .ofEpochMillis t.toEpochMillis

/-- **What is stored is the date of an instant modulo `2 ^ 64` milliseconds.** -/
theorem nanos_stored (t : Instant) :
    t.stored.nanos = t.truncated.nanos % (2 ^ 64 * 1000000) := by
  have hWord : t.toEpochMillis.toNat = t.nanos.toNat / 1000000 % 2 ^ 64 := UInt64.toNat_ofNat'
  show ((t.toEpochMillis.toNat * 1000000 : Nat) : Int)
    = max 0 t.nanos / 1000000 * 1000000 % (2 ^ 64 * 1000000)
  omega

/-- **The date of an instant is stored exactly if its milliseconds fit.** -/
theorem stored_eq_truncated_iff : t.stored = t.truncated ↔ t.FitsMillis := by
  have hStored := t.nanos_stored
  have hDate : t.truncated.nanos = max 0 t.nanos / 1000000 * 1000000 := rfl
  constructor
  · intro h
    rw [h] at hStored
    show t.nanos < 2 ^ 64 * 1000000
    omega
  · intro h
    have h : t.nanos < 2 ^ 64 * 1000000 := h
    refine congrArg Instant.mk (hStored.trans ?_)
    exact Int.emod_eq_of_lt (by omega) (by omega)

theorem toEpochMillis_lt_iff : s.toEpochMillis < t.toEpochMillis ↔ s.stored < t.stored := by
  rw [UInt64.lt_iff_toNat_lt]
  show _ ↔ ((s.toEpochMillis.toNat * 1000000 : Nat) : Int) < (t.toEpochMillis.toNat * 1000000 : Nat)
  omega

end Instant

/-! ### Counting in words -/

/-- Seconds after the epoch are the same in a signed and in an unsigned word. -/
theorem toNat_toUInt64 {second : Int64} (h : 0 ≤ second.toInt) :
    (second.toUInt64.toNat : Int) = second.toInt := by
  have hSigned : second.toInt = _ := BitVec.toInt_eq_toNat_bmod second.toBitVec
  have hUnsigned : second.toBitVec.toNat < 2 ^ 64 := second.toBitVec.isLt
  show (second.toBitVec.toNat : Int) = second.toInt
  rw [Int.bmod_def] at hSigned
  split at hSigned
  · omega
  · omega

/-- The milliseconds of a span, in 128 bits. -/
def ClockSpan.millis (span : ClockSpan) : BitVec 128 :=
  span.seconds.toBitVec.setWidth 128 * 1000 + BitVec.ofNat 128 (span.nanos / 1000000)

/-- The span of some milliseconds. -/
def ClockSpan.ofMillis (millis : EpochMillis) : ClockSpan where
  seconds := millis / 1000
  nanos := (millis % 1000).toNat * 1000000
  nanos_lt := by
    have hRest : (millis % 1000).toNat = millis.toNat % 1000 := UInt64.toNat_mod millis 1000
    show (millis % 1000).toNat * 1000000 < 1000000000
    omega

theorem ClockSpan.toNat_millis (span : ClockSpan) :
    span.millis.toNat = span.seconds.toNat * 1000 + span.nanos / 1000000 := by
  have hSeconds := span.seconds.toNat_lt
  have hNanos : span.nanos < 1000000000 := span.nanos_lt
  have hWord : (span.seconds.toBitVec.setWidth 128 * 1000).toNat = span.seconds.toNat * 1000 := by
    rw [BitVec.toNat_mul, BitVec.toNat_setWidth, UInt64.toNat_toBitVec]
    show span.seconds.toNat % 2 ^ 128 * 1000 % 2 ^ 128 = _
    omega
  rw [millis, BitVec.toNat_add, hWord, BitVec.toNat_ofNat]
  omega

theorem ClockSpan.duration_ofMillis (millis : EpochMillis) :
    (ofMillis millis).duration = .ofMillis millis.toNat := by
  have hSeconds : (millis / 1000).toNat = millis.toNat / 1000 := UInt64.toNat_div millis 1000
  have hRest : (millis % 1000).toNat = millis.toNat % 1000 := UInt64.toNat_mod millis 1000
  rw [Duration.ofMillis, ClockSpan.duration, Duration.mk.injEq]
  show (millis / 1000).toNat * 1000000000 + (millis % 1000).toNat * 1000000 = millis.toNat * 1000000
  omega

namespace ClockReading

/-- The reading at the epoch. -/
def epoch : ClockReading := ⟨0, 0, by decide⟩

/-- The span from the epoch to a reading, without any length if the reading is earlier. -/
def sinceEpoch (reading : ClockReading) : ClockSpan :=
  if reading.seconds < 0 then ⟨0, 0, by decide⟩
  else ⟨reading.seconds.toUInt64, reading.nanos, reading.nanos_lt⟩

/-- The milliseconds from the epoch to a reading, of which the low 64 bits are kept. -/
def epochMillis (reading : ClockReading) : EpochMillis :=
  .ofBitVec (reading.sinceEpoch.millis.setWidth 64)

/-- **The milliseconds in words are those in whole numbers.** -/
theorem epochMillis_eq (reading : ClockReading) :
    reading.epochMillis = reading.instant.toEpochMillis := by
  have hNanos : reading.nanos < 1000000000 := reading.nanos_lt
  have hInstant := reading.nanos_instant
  have hKept : reading.epochMillis.toNat = reading.sinceEpoch.millis.toNat % 2 ^ 64 :=
    BitVec.toNat_setWidth 64 reading.sinceEpoch.millis
  have hWord : reading.instant.toEpochMillis.toNat
      = reading.instant.nanos.toNat / 1000000 % 2 ^ 64 := UInt64.toNat_ofNat'
  rw [← UInt64.toNat_inj, hKept, hWord, ClockSpan.toNat_millis, sinceEpoch]
  -- a reading is earlier than the epoch exactly if its seconds are negative
  split
  · next hEarlier =>
    have hEarlier : reading.seconds.toInt < 0 := Int64.lt_iff_toInt_lt.mp hEarlier
    show (0 * 1000 + 0 / 1000000) % 2 ^ 64 = reading.instant.nanos.toNat / 1000000 % 2 ^ 64
    omega
  · next hLater =>
    have hLater : ¬ reading.seconds.toInt < 0 := fun h => hLater (Int64.lt_iff_toInt_lt.mpr h)
    have hSeconds := toNat_toUInt64 (Int.not_lt.mp hLater)
    show (reading.seconds.toUInt64.toNat * 1000 + reading.nanos / 1000000) % 2 ^ 64 = _
    omega

/-- **From stored milliseconds the way back to a reading never overflows.** -/
theorem map_instant_checkedAdd_ofMillis (millis : EpochMillis) :
    (epoch.checkedAdd (.ofMillis millis)).map instant = some (.ofEpochMillis millis) := by
  have hWord := millis.toNat_lt
  have hSum : epoch.instant.plus (.ofMillis millis.toNat) = .ofEpochMillis millis :=
    congrArg Instant.mk (Int.zero_add _)
  rw [map_instant_checkedAdd, ClockSpan.duration_ofMillis, Instant.checkedAdd_of_lt, hSum]
  rw [hSum]
  show ((millis.toNat * 1000000 : Nat) : Int) < 9223372036854775808 * 1000000000
  omega

end ClockReading

end CredentialLease
