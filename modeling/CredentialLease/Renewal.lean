import CredentialLease.Json.Value
import CredentialLease.Time

/-!
# When a token must be renewed

A renewal window is the lead time before its expiry from which on a valid token is renewed. An
absent or negative setting is an invalid window, and under it every token is renewed rather than
none. `RenewalWindow.decide` looks at the expiry first, then at the window.
-/

namespace CredentialLease

/-! ### Windows -/

/-- The lead time before its expiry from which on a token is renewed. -/
inductive RenewalWindow where
  | configured (lead : Duration)
  /-- The setting is absent or negative. -/
  | invalid
deriving DecidableEq, Inhabited

namespace RenewalWindow

/-- The window of a setting in whole seconds. -/
def ofSetting : Option Int → RenewalWindow
  | some seconds => if 0 ≤ seconds then configured (Duration.ofSeconds seconds.toNat) else invalid
  | none => invalid

/-- The lead time of a valid window. -/
def lead? : RenewalWindow → Option Duration
  | configured lead => some lead
  | invalid => none

end RenewalWindow

/-! ### Decisions -/

/-- Whether a token is renewed, with the reason. -/
inductive RenewalDecision where
  | notExpiredNotDue
  | alreadyExpired
  | withinRenewalWindow
  | windowInvalid
deriving DecidableEq, Inhabited

namespace RenewalDecision

/-- Whether the token is renewed. -/
def renews : RenewalDecision → Bool
  | notExpiredNotDue => false
  | _ => true

/-- The name of the reason. -/
def reason : RenewalDecision → String
  | notExpiredNotDue => "not_expired_not_due"
  | alreadyExpired => "already_expired"
  | withinRenewalWindow => "within_renewal_window"
  | windowInvalid => "window_invalid"

/-- The decision as a JSON value. -/
def toJson (decision : RenewalDecision) : Json.Value :=
  .object [("reason", .text decision.reason), ("should_renew", .bool decision.renews)]

end RenewalDecision

/-- Whether a token that expires at `expiry` is renewed at `now`. The end of a window that no clock
can hold lies after every expiry. -/
def RenewalWindow.decide (window : RenewalWindow) (now expiry : Instant) : RenewalDecision :=
  if expiry < now then .alreadyExpired
  else match window with
    | .invalid => .windowInvalid
    | .configured lead =>
      match now.checkedAdd lead with
      | none => .withinRenewalWindow
      | some horizon => if expiry < horizon then .withinRenewalWindow else .notExpiredNotDue

end CredentialLease
