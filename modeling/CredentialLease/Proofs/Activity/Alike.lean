import CredentialLease.Activity.Execution
import Mathlib.Data.List.Forall2

/-!
# Activities that behave alike

Two activities are alike if nobody who only sees their requests can tell them apart: they wait for
the same, and go on alike from whatever answer they get. A relation between their states says what
may differ while they wait, and another one what may differ in the states and the values with which
they end. A predicate bounds what they wait for.

All ways to combine activities keep this (`Alike.bind`, `Alike.andThen`, `Alike.ensuring`). A host
that answers these requests alike in related states executes alike activities alike
(`Alike.execute`): it is asked for the same, in related states, and both executions end in the same
way.
-/

namespace CredentialLease

namespace Activity

variable {σ α β ε : Type} {asks others : Request → Prop} {R : σ → σ → Prop}
  {P : σ → α → σ → α → Prop} {Q : σ → β → σ → β → Prop} {s t : σ}

/-- **Whether two activities are alike**: they wait for what `asks` allows, with states that `R`
relates, and end with states and values that `P` relates. -/
inductive Alike (asks : Request → Prop) (R : σ → σ → Prop) (P : σ → α → σ → α → Prop) :
    Activity σ α → Activity σ α → Prop where
  | finished {s t : σ} {value other : α} (h : P s value t other) :
      Alike asks R P (.finished s value) (.finished t other)
  | waiting {s t : σ} {request : Request} {alarm : Option Duration}
      {onAnswer onAnswer' : σ → request.Answer → Activity σ α}
      {onAlarm onAlarm' : alarm.isSome = true → σ → Activity σ α} {onDrop onDrop' : σ → σ}
      (hAsks : asks request) (hState : R s t)
      (hAnswer : ∀ {u v} answer, R u v → Alike asks R P (onAnswer u answer) (onAnswer' v answer))
      (hAlarm : ∀ hAlarm {u v}, R u v → Alike asks R P (onAlarm hAlarm u) (onAlarm' hAlarm v))
      (hDrop : ∀ {u v}, R u v → R (onDrop u) (onDrop' v)) :
      Alike asks R P (.waiting s request alarm onAnswer onAlarm onDrop)
        (.waiting t request alarm onAnswer' onAlarm' onDrop')

/-- What may differ at the end of activities that come to the same. -/
def SameValue (R : σ → σ → Prop) (s : σ) (value : α) (t : σ) (other : α) : Prop :=
  R s t ∧ value = other

/-- The bound on what they wait for may be widened. -/
theorem Alike.mono {first second : Activity σ α} (hAsks : ∀ request, asks request → others request)
    (h : Alike asks R P first second) : Alike others R P first second := by
  induction h with
  | finished hEnd => exact .finished hEnd
  | waiting hAsked hState _ _ hDrop ihAnswer ihAlarm =>
    exact .waiting (hAsks _ hAsked) hState (fun answer hBoth => ihAnswer answer hBoth)
      (fun hAlarm _ _ hBoth => ihAlarm hAlarm hBoth) hDrop

/-! ### Combining activities -/

theorem Alike.ask {request : Request} {next next' : σ → request.Answer → Activity σ α}
    (hAsks : asks request) (hState : R s t)
    (hNext : ∀ {u v} answer, R u v → Alike asks R P (next u answer) (next' v answer)) :
    Alike asks R P (Activity.ask s request next) (Activity.ask t request next') :=
  .waiting hAsks hState hNext (fun hAlarm => nomatch hAlarm) id

theorem Alike.bind {first second : Activity σ α} {next next' : σ → α → Activity σ β}
    (h : Alike asks R P first second)
    (hNext : ∀ {s value t other}, P s value t other →
      Alike asks R Q (next s value) (next' t other)) :
    Alike asks R Q (first.bind next) (second.bind next') := by
  induction h with
  | finished hEnd => exact hNext hEnd
  | waiting hAsks hState _ _ hDrop ihAnswer ihAlarm =>
    exact .waiting hAsks hState (fun answer hBoth => ihAnswer answer hBoth)
      (fun hAlarm _ _ hBoth => ihAlarm hAlarm hBoth) hDrop

theorem Alike.andThen {first second : Activity σ (Except ε α)}
    {next next' : σ → α → Activity σ (Except ε β)} (h : Alike asks R (SameValue R) first second)
    (hNext : ∀ {s t} value, R s t → Alike asks R (SameValue R) (next s value) (next' t value)) :
    Alike asks R (SameValue R) (first.andThen next) (second.andThen next') := by
  refine h.bind ?_
  rintro s value t other ⟨hBoth, rfl⟩
  cases value with
  | error error => exact .finished ⟨hBoth, rfl⟩
  | ok value => exact hNext value hBoth

theorem Alike.ensuring {first second : Activity σ α} {atEnd atEnd' : α → σ → σ}
    {atDrop atDrop' : σ → σ} (h : Alike asks R (SameValue R) first second)
    (hEnd : ∀ {s t} value, R s t → R (atEnd value s) (atEnd' value t))
    (hDrop : ∀ {s t}, R s t → R (atDrop s) (atDrop' t)) :
    Alike asks R (SameValue R) (first.ensuring atEnd atDrop) (second.ensuring atEnd' atDrop') := by
  induction h with
  | finished hBoth =>
    obtain ⟨hBoth, rfl⟩ := hBoth
    exact .finished ⟨hEnd _ hBoth, rfl⟩
  | waiting hAsks hState _ _ hDropped ihAnswer ihAlarm =>
    exact .waiting hAsks hState (fun answer hBoth => ihAnswer answer hBoth)
      (fun hAlarm _ _ hBoth => ihAlarm hAlarm hBoth) fun hBoth => hDrop (hDropped hBoth)

end Activity

/-! ### Executions under one host -/

section Executions

variable {κ μ α : Type} {asks : Request → Prop} {R : Scene κ μ → Scene κ μ → Prop}
  {P : Scene κ μ → α → Scene κ μ → α → Prop}

/-- **Whether two executions are alike**: they end in the same way, and ask for the same. -/
structure Execution.Alike (R : Scene κ μ → Scene κ μ → Prop)
    (P : Scene κ μ → α → Scene κ μ → α → Prop) (first second : Execution κ μ α) : Prop where
  ending : (∃ value other, first.ending = .finished value ∧ second.ending = .finished other ∧
      P first.scene value second.scene other) ∨
    (first.ending = .dropped ∧ second.ending = .dropped ∧ R first.scene second.scene) ∨
    (first.ending = .stuck ∧ second.ending = .stuck ∧ R first.scene second.scene)
  requests : List.Forall₂ (fun asked other => R asked.1 other.1 ∧ asked.2 = other.2)
    first.requests second.requests

/-- **Activities that are alike are executed alike** by a host that answers alike in related states.
-/
theorem Activity.Alike.execute {first second : Activity (Scene κ μ) α} {host : Host κ}
    (hHost : ∀ {s t request}, R s t → asks request → host s.world request = host t.world request)
    (hElapsed : ∀ {s t}, R s t → s.world.elapsed = t.world.elapsed)
    (hLasts : ∀ {s t} delay, R s t →
      R (s.mapWorld (World.advance delay)) (t.mapWorld (World.advance delay)))
    (h : Activity.Alike asks R P first second) (cutoff : Option Duration) :
    (first.execute host cutoff).Alike R P (second.execute host cutoff) := by
  induction h with
  | finished hEnd => exact ⟨.inl ⟨_, _, rfl, rfl, hEnd⟩, .nil⟩
  | waiting hAsks hState _ _ hDrop ihAnswer ihAlarm =>
    simp only [Activity.execute, hHost hState hAsks, hElapsed hState]
    split
    · next delay answer _ =>
      obtain ⟨hEnding, hRequests⟩ := ihAnswer answer (hLasts delay hState)
      exact ⟨hEnding, .cons ⟨hState, rfl⟩ hRequests⟩
    · next delay _ =>
      split
      · next hAlarm =>
        obtain ⟨hEnding, hRequests⟩ := ihAlarm hAlarm (hLasts delay hState)
        exact ⟨hEnding, .cons ⟨hState, rfl⟩ hRequests⟩
      · exact ⟨.inr (.inr ⟨rfl, rfl, hState⟩), .cons ⟨hState, rfl⟩ .nil⟩
    · next delay _ =>
      exact ⟨.inr (.inl ⟨rfl, rfl, hDrop (hLasts delay hState)⟩), .cons ⟨hState, rfl⟩ .nil⟩
    · exact ⟨.inr (.inr ⟨rfl, rfl, hState⟩), .cons ⟨hState, rfl⟩ .nil⟩

end Executions

end CredentialLease
