import CredentialLease.Time

/-!
# Instants and durations in machine words

A clock holds an instant as whole seconds in a signed 64-bit word and the nanoseconds beyond them; a
span of time has its seconds in an unsigned word. In these words a sum is made of two steps, and each
may overflow: the seconds are added, and a full second of nanoseconds is carried over to them.

The readings of clocks are the representable instants (`Instant.representable_iff`), and the sum in
words is the one that is made of whole nanoseconds (`ClockReading.map_instant_checkedAdd`), near both
ends of the range too.
-/

namespace CredentialLease

/-! ### Readings and spans -/

/-- What a clock holds. -/
structure ClockReading where
  seconds : Int64
  /-- The nanoseconds beyond the whole seconds. -/
  nanos : Nat
  nanos_lt : nanos < Duration.nanosPerSecond

/-- The instant of a reading. The seconds before the epoch are negative, the nanoseconds never are. -/
def ClockReading.instant (reading : ClockReading) : Instant :=
  ⟨reading.seconds.toInt * Duration.nanosPerSecond + reading.nanos⟩

theorem ClockReading.nanos_instant (reading : ClockReading) :
    reading.instant.nanos = reading.seconds.toInt * 1000000000 + reading.nanos := rfl

/-- A duration in words. -/
structure ClockSpan where
  seconds : UInt64
  /-- The nanoseconds beyond the whole seconds. -/
  nanos : Nat
  nanos_lt : nanos < Duration.nanosPerSecond

/-- The duration of a span. -/
def ClockSpan.duration (span : ClockSpan) : Duration :=
  ⟨span.seconds.toNat * Duration.nanosPerSecond + span.nanos⟩

/-- **The representable instants are the readings of clocks.** -/
theorem Instant.representable_iff {t : Instant} :
    t.Representable ↔ ∃ reading : ClockReading, reading.instant = t := by
  constructor
  · rintro ⟨hFrom, hTo⟩
    have hFrom : -9223372036854775808 * 1000000000 ≤ t.nanos := hFrom
    have hTo : t.nanos ≤ 9223372036854775807 * 1000000000 + 999999999 := hTo
    -- the whole seconds, rounded down, fit in the word
    have hWord : (Int64.ofInt (t.nanos / 1000000000)).toInt = t.nanos / 1000000000 :=
      Int64.toInt_ofInt_of_le (by omega) (by omega)
    refine ⟨⟨.ofInt (t.nanos / 1000000000), (t.nanos % 1000000000).toNat, ?_⟩, ?_⟩
    · show (t.nanos % 1000000000).toNat < 1000000000
      omega
    · rw [ClockReading.instant, Instant.mk.injEq, hWord]
      show t.nanos / 1000000000 * 1000000000 + ((t.nanos % 1000000000).toNat : Int) = t.nanos
      omega
  · rintro ⟨⟨seconds, nanos, hNanos⟩, rfl⟩
    have hNanos : nanos < 1000000000 := hNanos
    have hFrom := seconds.le_toInt
    have hTo := seconds.toInt_lt
    constructor
    · show -9223372036854775808 * 1000000000 ≤ seconds.toInt * 1000000000 + (nanos : Int)
      omega
    · show seconds.toInt * 1000000000 + (nanos : Int) ≤ 9223372036854775807 * 1000000000 + 999999999
      omega

/-! ### Sums -/

/-- A sum that a clock can hold. -/
theorem Instant.checkedAdd_of_lt {t : Instant} {duration : Duration}
    (h : (t.plus duration).nanos < 9223372036854775808 * 1000000000) :
    t.checkedAdd duration = some (t.plus duration) := by
  refine if_pos ?_
  show (t.plus duration).nanos ≤ 9223372036854775807 * 1000000000 + 999999999
  omega

/-- A sum that no clock can hold. -/
theorem Instant.checkedAdd_of_le {t : Instant} {duration : Duration}
    (h : 9223372036854775808 * 1000000000 ≤ (t.plus duration).nanos) :
    t.checkedAdd duration = none := by
  refine if_neg ?_
  show ¬ (t.plus duration).nanos ≤ 9223372036854775807 * 1000000000 + 999999999
  omega

/-- The second that is some seconds later. A sum that overflows comes round to an earlier one. -/
def laterSecond (second : Int64) (more : UInt64) : Option Int64 :=
  if second ≤ second + more.toInt64 then some (second + more.toInt64) else none

/-- The sum in the word is the exact one, or has come round once. -/
theorem toInt_add_toInt64 (second : Int64) (more : UInt64) :
    (second + more.toInt64).toInt
      = if second.toInt + more.toNat < 9223372036854775808 then second.toInt + more.toNat
        else second.toInt + more.toNat - 18446744073709551616 := by
  have hFrom := second.le_toInt
  have hTo := second.toInt_lt
  have hMore := more.toNat_lt
  have hWord : more.toInt64.toInt = _ := BitVec.toInt_eq_toNat_bmod more.toBitVec
  -- adding the unsigned word as a signed one is the same up to a whole turn, so one turn is enough
  rw [Int64.toInt_add, hWord, UInt64.toNat_toBitVec, Int.add_bmod_bmod, Int.bmod_def]
  split <;> split <;> omega

/-- A later second that fits in the word is exact. -/
theorem exists_laterSecond {second : Int64} {more : UInt64}
    (hFits : second.toInt + more.toNat < 9223372036854775808) :
    ∃ later, laterSecond second more = some later ∧ later.toInt = second.toInt + more.toNat := by
  have hSum := toInt_add_toInt64 second more
  rw [if_pos hFits] at hSum
  refine ⟨_, if_pos ?_, hSum⟩
  rw [Int64.le_iff_toInt_le, hSum]
  omega

/-- One that does not fit is found out. -/
theorem laterSecond_eq_none {second : Int64} {more : UInt64}
    (hOver : 9223372036854775808 ≤ second.toInt + more.toNat) : laterSecond second more = none := by
  have hSum := toInt_add_toInt64 second more
  have hMore := more.toNat_lt
  rw [if_neg (Int.not_lt.mpr hOver)] at hSum
  -- a whole turn is more than any span, so the sum that comes round is before the start
  refine if_neg ?_
  rw [Int64.le_iff_toInt_le, hSum]
  omega

namespace ClockReading

/-- The reading some time later, unless it overflows. -/
def checkedAdd (reading : ClockReading) (span : ClockSpan) : Option ClockReading :=
  (laterSecond reading.seconds span.seconds).bind fun seconds =>
    if h : reading.nanos + span.nanos < Duration.nanosPerSecond then
      some ⟨seconds, reading.nanos + span.nanos, h⟩
    else
      -- the carry is checked too: the seconds alone may have reached the last one
      (laterSecond seconds 1).map fun carried =>
        ⟨carried, reading.nanos + span.nanos - Duration.nanosPerSecond, by
          have := reading.nanos_lt
          have := span.nanos_lt
          omega⟩

/-- The exact sum, by seconds and nanoseconds. -/
theorem nanos_plus (reading : ClockReading) (span : ClockSpan) :
    (reading.instant.plus span.duration).nanos
      = (reading.seconds.toInt + span.seconds.toNat) * 1000000000
        + (reading.nanos + span.nanos : Nat) := by
  show reading.seconds.toInt * 1000000000 + (reading.nanos : Int)
    + ((span.seconds.toNat * 1000000000 + span.nanos : Nat) : Int) = _
  omega

/-- **The sum in words is the exact sum**, and it overflows exactly when a clock cannot hold that. -/
theorem map_instant_checkedAdd (reading : ClockReading) (span : ClockSpan) :
    (reading.checkedAdd span).map instant = reading.instant.checkedAdd span.duration := by
  have hNanos := reading.nanos_lt
  have hSpan := span.nanos_lt
  have hExact := nanos_plus reading span
  have hSecond : Duration.nanosPerSecond = 1000000000 := rfl
  have hOne : ((1 : UInt64).toNat : Int) = 1 := rfl
  rw [checkedAdd]
  -- the cases are those of the two steps; without an overflow each of them is exact
  by_cases hSeconds : reading.seconds.toInt + span.seconds.toNat < 9223372036854775808
  · obtain ⟨later, hLater, hLaterExact⟩ := exists_laterSecond hSeconds
    rw [hLater, Option.bind_some]
    by_cases hWhole : reading.nanos + span.nanos < Duration.nanosPerSecond
    · rw [Instant.checkedAdd_of_lt (by omega), dif_pos hWhole, Option.map_some]
      congr 1
      rw [Instant.mk.injEq, hExact, nanos_instant, hLaterExact]
    -- a full second is carried over, which may overflow in its turn
    · rw [dif_neg hWhole]
      by_cases hCarry : later.toInt + (1 : UInt64).toNat < 9223372036854775808
      · obtain ⟨carried, hCarried, hCarriedExact⟩ := exists_laterSecond hCarry
        rw [Instant.checkedAdd_of_lt (by omega), hCarried, Option.map_some, Option.map_some]
        congr 1
        rw [Instant.mk.injEq, hExact, nanos_instant, hCarriedExact, hLaterExact]
        dsimp only
        omega
      · rw [laterSecond_eq_none (Int.not_lt.mp hCarry), Instant.checkedAdd_of_le (by omega)]
        rfl
  -- seconds that overflow do so with any nanoseconds, as these only add to them
  · rw [laterSecond_eq_none (Int.not_lt.mp hSeconds), Instant.checkedAdd_of_le (by omega)]
    rfl

end ClockReading

end CredentialLease
