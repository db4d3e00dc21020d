import CredentialLease.Proofs.Time.ClockWords
import CredentialLease.Renewal

/-!
# The renewal rule in unbounded time

The end of a window is computed with the arithmetic of a clock, and a window that ends where no clock
reaches counts as due. The rule itself (`ExactRule`) knows no such bound: it compares the exact end of
the window with the expiry. Both agree for every expiry that a clock can hold, since an end that
overflows lies past all of those (`decide_eq_iff`).

A token is left alone exactly while the window ends no later than it expires
(`renews_eq_false_iff`). So what is renewed at some instant is renewed at every later one, for every
earlier expiry and under every longer window (`renews_mono`).

Main statement: `decide_exact`.
-/

namespace CredentialLease

/-- Only one decision leaves a token alone. -/
theorem RenewalDecision.renews_eq_false_iff {decision : RenewalDecision} :
    decision.renews = false ↔ decision = .notExpiredNotDue := by
  cases decision <;> decide

namespace RenewalWindow

variable {window wider : RenewalWindow} {lead : Duration} {now later expiry sooner : Instant}

/-! ### The rule -/

/-- **What is decided about a token, and why**, for a clock and an expiry in nanoseconds. The instants
and the end of the window are unbounded. -/
inductive ExactRule : RenewalWindow → Int → Int → RenewalDecision → Prop where
  | alreadyExpired {window : RenewalWindow} {now expiry : Int} (hExpired : expiry < now) :
      ExactRule window now expiry .alreadyExpired
  | windowInvalid {now expiry : Int} (hValid : now ≤ expiry) :
      ExactRule invalid now expiry .windowInvalid
  | withinRenewalWindow {lead : Duration} {now expiry : Int} (hValid : now ≤ expiry)
      (hDue : expiry < now + lead.nanos) :
      ExactRule (configured lead) now expiry .withinRenewalWindow
  | notExpiredNotDue {lead : Duration} {now expiry : Int} (hNotDue : now + lead.nanos ≤ expiry) :
      ExactRule (configured lead) now expiry .notExpiredNotDue

/-- The rule gives one answer at most. -/
theorem ExactRule.unique {now expiry : Int} {decision other : RenewalDecision}
    (h : ExactRule window now expiry decision) (hOther : ExactRule window now expiry other) :
    decision = other := by
  cases h <;> cases hOther <;> first | rfl | omega

/-- **The decision follows the rule.** An end of the window that overflows lies past every expiry that a
clock can hold. -/
theorem exactRule_decide (window : RenewalWindow) (now : Instant) (hExpiry : expiry.Representable) :
    ExactRule window now.nanos expiry.nanos (window.decide now expiry) := by
  unfold decide
  by_cases hExpired : expiry < now
  · rw [if_pos hExpired]
    exact .alreadyExpired hExpired
  · have hValid : now.nanos ≤ expiry.nanos := Int.not_lt.mp hExpired
    rw [if_neg hExpired]
    cases window with
    | invalid => exact .windowInvalid hValid
    | configured lead =>
      dsimp only
      -- where the end of the window overflows, no clock holds an expiry that is as late
      by_cases hClock : now.plus lead ≤ Instant.latest
      · rw [Instant.checkedAdd, if_pos hClock]
        dsimp only
        by_cases hDue : expiry < now.plus lead
        · rw [if_pos hDue]
          exact .withinRenewalWindow hValid hDue
        · rw [if_neg hDue]
          exact .notExpiredNotDue (Int.not_lt.mp hDue)
      · rw [Instant.checkedAdd, if_neg hClock]
        exact .withinRenewalWindow hValid (Int.lt_of_le_of_lt hExpiry.2 (Int.not_le.mp hClock))

theorem decide_eq_iff (hExpiry : expiry.Representable) {decision : RenewalDecision} :
    window.decide now expiry = decision ↔ ExactRule window now.nanos expiry.nanos decision := by
  constructor
  · rintro rfl
    exact exactRule_decide window now hExpiry
  · exact (exactRule_decide window now hExpiry).unique

/-! ### Renewing or not -/

/-- **A token is left alone exactly while the window ends no later than it expires.** -/
theorem renews_eq_false_iff (hExpiry : expiry.Representable) :
    (window.decide now expiry).renews = false ↔
      ∃ lead, window = configured lead ∧ now.plus lead ≤ expiry := by
  have hRule := exactRule_decide window now hExpiry
  constructor
  · intro h
    rw [RenewalDecision.renews_eq_false_iff.mp h] at hRule
    cases hRule with
    | notExpiredNotDue hNotDue => exact ⟨_, rfl, hNotDue⟩
  · rintro ⟨lead, rfl, hNotDue⟩
    rw [hRule.unique (.notExpiredNotDue hNotDue)]
    rfl

/-- Whether a window renews no later than another one. The invalid window renews always. -/
def AtMost : RenewalWindow → RenewalWindow → Prop
  | _, invalid => True
  | configured lead, configured longer => lead.nanos ≤ longer.nanos
  | invalid, configured _ => False

/-- **What is renewed stays due** at every later instant, for every earlier expiry and under every longer
window. -/
theorem renews_mono (hExpiry : expiry.Representable) (hSooner : sooner.Representable)
    (h : (window.decide now expiry).renews = true) (hLater : now ≤ later)
    (hEarlier : sooner ≤ expiry) (hWider : window.AtMost wider) :
    (wider.decide later sooner).renews = true := by
  rw [← Bool.not_eq_false, renews_eq_false_iff hSooner]
  rintro ⟨longer, rfl, hNotDue⟩
  -- the shorter window would end before the later expiry then
  have hKept : (window.decide now expiry).renews = false := by
    rw [renews_eq_false_iff hExpiry]
    cases window with
    | invalid => cases hWider
    | configured lead =>
      refine ⟨lead, rfl, ?_⟩
      have hLonger : lead.nanos ≤ longer.nanos := hWider
      have hNotDue : later.nanos + longer.nanos ≤ sooner.nanos := hNotDue
      have hLater : now.nanos ≤ later.nanos := hLater
      have hEarlier : sooner.nanos ≤ expiry.nanos := hEarlier
      show now.nanos + lead.nanos ≤ expiry.nanos
      omega
  rw [h] at hKept
  cases hKept

/-- **The renewal rule holds exactly**, for every expiry that a clock can hold, every reading of the
clock and every window. The sum on which it relies is the one that a clock makes in words. Only one of
the decisions leaves a token alone, and what is renewed stays due. -/
theorem decide_exact (window : RenewalWindow) (now : Instant) {expiry : Instant}
    (hExpiry : expiry.Representable) :
    (∀ decision, window.decide now expiry = decision ↔
      ExactRule window now.nanos expiry.nanos decision) ∧
    (now.Representable → ∃ reading : ClockReading, reading.instant = now ∧
      ∀ span, (reading.checkedAdd span).map ClockReading.instant = now.checkedAdd span.duration) ∧
    ((window.decide now expiry).renews = false ↔ window.decide now expiry = .notExpiredNotDue) ∧
    ((window.decide now expiry).renews = true →
      ∀ later sooner wider, now ≤ later → sooner.Representable → sooner ≤ expiry →
        window.AtMost wider → (wider.decide later sooner).renews = true) := by
  refine ⟨fun decision => decide_eq_iff hExpiry, ?_, RenewalDecision.renews_eq_false_iff, ?_⟩
  · intro hNow
    obtain ⟨reading, rfl⟩ := Instant.representable_iff.mp hNow
    exact ⟨reading, rfl, reading.map_instant_checkedAdd⟩
  · intro h later sooner wider hLater hSooner hEarlier hWider
    exact renews_mono hExpiry hSooner h hLater hEarlier hWider

/-- The longest window is as long as the time line of a clock. At the earliest instant it ends exactly
when a token of the latest expiry does; a nanosecond later its end overflows. -/
theorem decide_exact_longest :
    Instant.latest.Representable ∧
    (configured ⟨18446744073709551615 * 1000000000 + 999999999⟩).decide Instant.earliest
      Instant.latest = .notExpiredNotDue ∧
    (configured ⟨18446744073709551615 * 1000000000 + 999999999⟩).decide
      ⟨Instant.earliest.nanos + 1⟩ Instant.latest = .withinRenewalWindow := by
  have hLatest : Instant.latest.Representable := by decide
  refine ⟨hLatest, ?_, ?_⟩
  · exact ((decide_exact _ _ hLatest).1 _).mpr (.notExpiredNotDue (by decide))
  · exact ((decide_exact _ _ hLatest).1 _).mpr (.withinRenewalWindow (by decide) (by decide))

end RenewalWindow

end CredentialLease
