/-!
# Instants, durations and the millisecond time line of tokens

An instant is a whole number of nanoseconds before or after the Unix epoch. A clock can hold the
instants whose whole seconds fit in a signed 64-bit word, and `Instant.checkedAdd` and
`Instant.checkedSub` stay inside that range.

Tokens are dated in whole milliseconds since the epoch, as an unsigned 64-bit word
(`EpochMillis`). `Instant.toEpochMillis` clamps earlier instants to the epoch, drops the fraction
of a millisecond and keeps the low 64 bits.
-/

namespace CredentialLease

/-! ### Durations -/

/-- A length of time, in nanoseconds. -/
structure Duration where
  nanos : Nat
deriving DecidableEq, Inhabited

namespace Duration

/-- Nanoseconds in a second. -/
def nanosPerSecond : Nat := 1000000000

/-- Nanoseconds in a millisecond. -/
def nanosPerMilli : Nat := 1000000

/-- A duration of whole seconds. -/
def ofSeconds (seconds : Nat) : Duration := ⟨seconds * nanosPerSecond⟩

/-- A duration of whole milliseconds. -/
def ofMillis (millis : Nat) : Duration := ⟨millis * nanosPerMilli⟩

/-- The whole seconds of a duration. -/
def seconds (d : Duration) : Nat := d.nanos / nanosPerSecond

/-- The nanoseconds of a duration beyond its whole seconds. -/
def subsecondNanos (d : Duration) : Nat := d.nanos % nanosPerSecond

end Duration

/-! ### Instants -/

/-- A point in time, in nanoseconds relative to the Unix epoch. -/
structure Instant where
  nanos : Int
deriving DecidableEq, Inhabited

namespace Instant

/-- The Unix epoch. -/
def epoch : Instant := ⟨0⟩

/-- The earliest instant a clock can hold: the least signed 64-bit second. -/
def earliest : Instant := ⟨-9223372036854775808 * 1000000000⟩

/-- The latest instant a clock can hold: the last nanosecond of the greatest signed 64-bit
second. -/
def latest : Instant := ⟨9223372036854775807 * 1000000000 + 999999999⟩

/-- Whether a clock can hold an instant. -/
def Representable (t : Instant) : Prop :=
  earliest.nanos ≤ t.nanos ∧ t.nanos ≤ latest.nanos

instance (t : Instant) : Decidable t.Representable :=
  inferInstanceAs (Decidable (_ ∧ _))

instance : LT Instant := ⟨fun s t => s.nanos < t.nanos⟩
instance : LE Instant := ⟨fun s t => s.nanos ≤ t.nanos⟩
instance (s t : Instant) : Decidable (s < t) := inferInstanceAs (Decidable (s.nanos < t.nanos))
instance (s t : Instant) : Decidable (s ≤ t) := inferInstanceAs (Decidable (s.nanos ≤ t.nanos))

/-- The earlier of two instants. -/
def earlier (s t : Instant) : Instant := if s ≤ t then s else t

/-- The instant a duration later, with no bound on the range. -/
def plus (t : Instant) (d : Duration) : Instant := ⟨t.nanos + d.nanos⟩

/-- The instant a duration later, unless it lies past the latest representable one. -/
def checkedAdd (t : Instant) (d : Duration) : Option Instant :=
  if t.plus d ≤ latest then some (t.plus d) else none

/-- The instant a duration earlier, unless it lies before the earliest representable one. -/
def checkedSub (t : Instant) (d : Duration) : Option Instant :=
  if earliest.nanos ≤ t.nanos - d.nanos then some ⟨t.nanos - d.nanos⟩ else none

/-- The time from an instant to this one, unless this one is earlier. -/
def since (t start : Instant) : Option Duration :=
  if start ≤ t then some ⟨(t.nanos - start.nanos).toNat⟩ else none

end Instant

/-! ### Epoch milliseconds -/

/-- Whole milliseconds since the Unix epoch, in 64 bits. -/
abbrev EpochMillis := UInt64

/-- Milliseconds from the epoch to an instant: zero for earlier instants, the fraction dropped,
reduced modulo `2 ^ 64`. -/
def Instant.toEpochMillis (t : Instant) : EpochMillis :=
  UInt64.ofNat (t.nanos.toNat / Duration.nanosPerMilli)

/-- The instant a number of milliseconds after the epoch. -/
def Instant.ofEpochMillis (ms : EpochMillis) : Instant :=
  ⟨(ms.toNat * Duration.nanosPerMilli : Nat)⟩

end CredentialLease
