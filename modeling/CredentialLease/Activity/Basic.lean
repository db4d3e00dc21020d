import CredentialLease.Lease.Settings
import CredentialLease.World

/-!
# Work that waits for others

An activity either has finished with a value, or waits: for the answer to a request, and possibly
for a time at which it stops waiting for it. While it waits it can also be dropped, which ends it
for good. What it does next is a function of the state at that moment, which others may have
changed in the meantime. So an activity is a tree whose branches are everything that its
surroundings may do, and a statement about every run of it is a statement about every branch,
proved by structural induction.

`bind` continues an activity with another one, `ensuring` does something when it ends or is
dropped, and `within` bounds the time it may take.

Main statements: `bind_finished` and `bind_assoc`, the laws by which steps of an activity can be
regrouped.
-/

namespace CredentialLease

/-! ### Requests -/

/-- What an activity waits for. -/
inductive Request where
  | login (credentials : LoginCredentials)
  | issue (context : AuthenticatedContext) (request : IssueRequest)
  /-- Nothing but a time or the end. -/
  | pause
deriving DecidableEq, Inhabited

/-- What answers a request. -/
def Request.Answer : Request → Type
  | login _ => Except CredentialError Admission
  | issue _ _ => Except Failure AccessToken
  | pause => Empty

/-! ### Activities -/

/-- Work on a state that may wait for others. -/
inductive Activity (σ α : Type) where
  /-- The work is done. -/
  | finished (state : σ) (value : α)
  /-- The work waits for the answer to a request, at most until `alarm` if there is one. -/
  | waiting (state : σ) (request : Request) (alarm : Option Duration)
      (onAnswer : σ → request.Answer → Activity σ α)
      (onAlarm : alarm.isSome = true → σ → Activity σ α)
      (onDrop : σ → σ)

namespace Activity

variable {σ α β : Type}

/-! ### Building activities -/

/-- Waits for the answer to a request. There is nothing to do when dropped. -/
def ask (s : σ) (request : Request) (next : σ → request.Answer → Activity σ α) : Activity σ α :=
  waiting s request none next (fun h _ => nomatch h) id

/-- Waits for a time on the time line. -/
def sleepUntil (s : σ) (due : Duration) (next : σ → Activity σ α) : Activity σ α :=
  waiting s .pause (some due) (fun _ answer => nomatch answer) (fun _ s => next s) id

/-- Waits until it is dropped. -/
def hang (s : σ) : Activity σ α :=
  waiting s .pause none (fun _ answer => nomatch answer) (fun h _ => nomatch h) id

/-! ### Combining activities -/

/-- Continues an activity with another one. -/
def bind : Activity σ α → (σ → α → Activity σ β) → Activity σ β
  | finished s value, next => next s value
  | waiting s request alarm onAnswer onAlarm onDrop, next =>
    waiting s request alarm (fun s answer => (onAnswer s answer).bind next)
      (fun h s => (onAlarm h s).bind next) onDrop

/-- Continues an activity that succeeds with another one; a failure is the result of both. -/
def andThen {ε : Type} (activity : Activity σ (Except ε α))
    (next : σ → α → Activity σ (Except ε β)) : Activity σ (Except ε β) :=
  activity.bind fun s result =>
    match result with
    | .ok value => next s value
    | .error error => finished s (.error error)

/-- Changes the value of an activity. -/
def map (f : α → β) (activity : Activity σ α) : Activity σ β :=
  activity.bind fun s value => finished s (f value)

/-- Changes the state when an activity has finished, depending on its value, and when it is
dropped. -/
def ensuring (atEnd : α → σ → σ) (atDrop : σ → σ) : Activity σ α → Activity σ α
  | finished s value => finished (atEnd value s) value
  | waiting s request alarm onAnswer onAlarm onDrop =>
    waiting s request alarm (fun s answer => (onAnswer s answer).ensuring atEnd atDrop)
      (fun h s => (onAlarm h s).ensuring atEnd atDrop) (fun s => atDrop (onDrop s))

/-- Drops an activity that still waits at a time on the time line. An answer that is there at that
time, or an earlier alarm of the activity, comes first. -/
def within (limit : Duration) : Activity σ α → Activity σ (Option α)
  | finished s value => finished s (some value)
  | waiting s request none onAnswer _ onDrop =>
    waiting s request (some limit) (fun s answer => (onAnswer s answer).within limit)
      (fun _ s => finished (onDrop s) none) onDrop
  | waiting s request (some alarm) onAnswer onAlarm onDrop =>
    if alarm.nanos ≤ limit.nanos then
      waiting s request (some alarm) (fun s answer => (onAnswer s answer).within limit)
        (fun h s => (onAlarm h s).within limit) onDrop
    else
      waiting s request (some limit) (fun s answer => (onAnswer s answer).within limit)
        (fun _ s => finished (onDrop s) none) onDrop

/-! ### Laws -/

theorem bind_finished (activity : Activity σ α) : activity.bind finished = activity := by
  induction activity with
  | finished s value => rfl
  | waiting s request alarm onAnswer onAlarm onDrop ihAnswer ihAlarm =>
    simp only [bind, ihAnswer, ihAlarm]

/-- **Steps can be regrouped.** -/
theorem bind_assoc {γ : Type} (activity : Activity σ α) (f : σ → α → Activity σ β)
    (g : σ → β → Activity σ γ) :
    (activity.bind f).bind g = activity.bind fun s value => (f s value).bind g := by
  induction activity with
  | finished s value => rfl
  | waiting s request alarm onAnswer onAlarm onDrop ihAnswer ihAlarm =>
    simp only [bind, ihAnswer, ihAlarm]

end Activity

end CredentialLease
