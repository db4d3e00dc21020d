import CredentialLease.Proofs.Issuance.Acquirer

/-!
# What a call may do with logins

Between two waits a call may log in, call the endpoint with an active context that comes from a
login, log out of a context that it holds, and do anything else that leaves the exchanges and the
logins alone (`Dealing`). A call conforms when it does nothing but that on every branch, and ends on
every branch, a drop included, with the contexts that it is to keep (`Activity.Conforms`). It can
rely on others only adding to the journal while it waits.

Conforming is kept by all ways to combine activities: `conformsFrom_ask`, `ConformsFrom.bind`,
`ConformsFrom.ensuring` and `ConformsFrom.within`. A session conforms when its action does
(`conformsFrom_withAuthenticatedContext`), and so does asking for a token with a context from any
login, whether that has ended or not (`TokenAcquirer.conformsFrom_acquire`).
-/

namespace CredentialLease

variable {κ μ α β : Type} {held kept : List AuthenticatedContext} {world : World κ}

/-! ### Dealings -/

/-- One thing that a call may do, given the contexts that it holds open before and after. -/
inductive Dealing : List AuthenticatedContext → World κ → List AuthenticatedContext → World κ →
    Prop where
  | login (held : List AuthenticatedContext) (world : World κ) (admission : Admission) :
      Dealing held world ((world.enter admission).1 :: held) (world.enter admission).2
  | call {held : List AuthenticatedContext} {world : World κ} {context : AuthenticatedContext}
      (request : IssueRequest) (hKnown : context ∈ held ∨ .loggedIn context ∈ world.journal)
      (hActive : context.isReleased world = false) :
      Dealing held world held (world.noting (.called context request))
  | logout (held : List AuthenticatedContext) (world : World κ) (provider : AuthProvider κ)
      (context : AuthenticatedContext) :
      Dealing (context :: held) world held (provider.closeContext context world)
  /-- Anything that has nothing to do with logins. -/
  | apart {held : List AuthenticatedContext} {world after : World κ}
      (hSame : world.SameExchanges after) : Dealing held world held after

/-- What a call may do between two waits. -/
inductive Dealings (held : List AuthenticatedContext) (world : World κ) :
    List AuthenticatedContext → World κ → Prop where
  | refl : Dealings held world held world
  | tail {held' held'' : List AuthenticatedContext} {world' world'' : World κ}
      (h : Dealings held world held' world') (hLast : Dealing held' world' held'' world'') :
      Dealings held world held'' world''

/-- A dealing only adds to the journal. -/
theorem Dealing.journal_prefix {held' : List AuthenticatedContext} {world' : World κ}
    (h : Dealing held world held' world') : world.journal <+: world'.journal := by
  cases h with
  | login _ _ admission =>
    rw [World.enter_journal]
    exact List.prefix_append _ _
  | call request hKnown hActive => exact List.prefix_append _ _
  | logout _ _ provider context =>
    rw [provider.closeContext_journal]
    exact List.prefix_append _ _
  | apart hSame => exact hSame.journal_prefix

namespace Dealings

variable {held' held'' : List AuthenticatedContext} {world' world'' : World κ}

theorem single (h : Dealing held world held' world') : Dealings held world held' world' :=
  .tail .refl h

theorem apart (hSame : world.SameExchanges world') : Dealings held world held world' :=
  single (.apart hSame)

theorem trans (h : Dealings held world held' world') (hNext : Dealings held' world' held'' world'') :
    Dealings held world held'' world'' := by
  induction hNext with
  | refl => exact h
  | tail _ hLast ih => exact .tail ih hLast

/-- What a call does only adds to the journal. -/
theorem journal_prefix (h : Dealings held world held' world') :
    world.journal <+: world'.journal := by
  induction h with
  | refl => exact List.prefix_rfl
  | tail _ hLast ih => exact ih.trans hLast.journal_prefix

end Dealings

/-! ### Conforming activities -/

namespace Activity

/-- The state in which an activity has finished or waits. -/
def state {σ : Type} : Activity σ α → σ
  | finished s _ => s
  | waiting s _ _ _ _ _ => s

/-- **Whether an activity that holds some contexts open does with logins what it may**, on every
branch on which others only add to the journal while it waits, and ends with the contexts `kept`. -/
def Conforms (kept : List AuthenticatedContext) :
    Activity (Scene κ μ) α → List AuthenticatedContext → Prop
  | finished _ _, held => held = kept
  | waiting s _ _ onAnswer onAlarm onDrop, held =>
    (∀ (scene : Scene κ μ) answer, s.world.journal <+: scene.world.journal →
      ∃ held', Dealings held scene.world held' (onAnswer scene answer).state.world ∧
        (onAnswer scene answer).Conforms kept held') ∧
    (∀ hAlarm (scene : Scene κ μ), s.world.journal <+: scene.world.journal →
      ∃ held', Dealings held scene.world held' (onAlarm hAlarm scene).state.world ∧
        (onAlarm hAlarm scene).Conforms kept held') ∧
    ∀ scene : Scene κ μ, s.world.journal <+: scene.world.journal →
      Dealings held scene.world kept (onDrop scene).world

/-- Whether an activity conforms from a world on, with the contexts that are held in it. -/
def ConformsFrom (kept held : List AuthenticatedContext) (world : World κ)
    (activity : Activity (Scene κ μ) α) : Prop :=
  ∃ held', Dealings held world held' activity.state.world ∧ activity.Conforms kept held'

theorem conformsFrom_finished {scene : Scene κ μ} {value : α}
    (h : Dealings held world kept scene.world) :
    ConformsFrom kept held world (finished scene value) :=
  ⟨kept, h, rfl⟩

/-- A question conforms when what comes after every answer does. -/
theorem conformsFrom_ask {scene : Scene κ μ} {request : Request}
    {next : Scene κ μ → request.Answer → Activity (Scene κ μ) α}
    (h : Dealings held world kept scene.world)
    (hNext : ∀ scene' answer, scene.world.journal <+: scene'.world.journal →
      ConformsFrom kept kept scene'.world (next scene' answer)) :
    ConformsFrom kept held world (ask scene request next) := by
  refine ⟨kept, h, hNext, ?_, ?_⟩
  · intro hAlarm
    cases hAlarm
  · intro scene' _
    exact .refl

/-- What is done before an activity can be counted to it. -/
theorem ConformsFrom.after {held' : List AuthenticatedContext} {world' : World κ}
    {activity : Activity (Scene κ μ) α} (hBefore : Dealings held world held' world')
    (h : ConformsFrom kept held' world' activity) : ConformsFrom kept held world activity := by
  obtain ⟨held'', hDealings, hConforms⟩ := h
  exact ⟨held'', hBefore.trans hDealings, hConforms⟩

/-- An activity conforms when it is continued with one that does. -/
theorem ConformsFrom.bind {activity : Activity (Scene κ μ) α}
    {next : Scene κ μ → α → Activity (Scene κ μ) β}
    (h : ConformsFrom kept held world activity)
    (hNext : ∀ scene value, ConformsFrom kept kept scene.world (next scene value)) :
    ConformsFrom kept held world (activity.bind next) := by
  -- at its end the first activity holds what the second one begins with
  induction activity generalizing held world with
  | finished s value =>
    obtain ⟨_, hDealings, rfl⟩ := h
    exact (hNext s value).after hDealings
  | waiting s request alarm onAnswer onAlarm onDrop ihAnswer ihAlarm =>
    obtain ⟨held', hDealings, hAnswer, hAlarm, hDrop⟩ := h
    refine ⟨held', hDealings, ?_, ?_, hDrop⟩
    · intro scene answer hJournal
      exact ihAnswer scene answer (hAnswer scene answer hJournal)
    · intro hSome scene hJournal
      exact ihAlarm hSome scene (hAlarm hSome scene hJournal)

theorem ConformsFrom.map {activity : Activity (Scene κ μ) α} (f : α → β)
    (h : ConformsFrom kept held world activity) : ConformsFrom kept held world (activity.map f) :=
  h.bind fun _ _ => conformsFrom_finished .refl

theorem ConformsFrom.andThen {ε : Type} {activity : Activity (Scene κ μ) (Except ε α)}
    {next : Scene κ μ → α → Activity (Scene κ μ) (Except ε β)}
    (h : ConformsFrom kept held world activity)
    (hNext : ∀ scene value, ConformsFrom kept kept scene.world (next scene value)) :
    ConformsFrom kept held world (activity.andThen next) := by
  refine h.bind fun scene result => ?_
  cases result with
  | error error => exact conformsFrom_finished .refl
  | ok value => exact hNext scene value

/-- An activity that conforms does so with what is done at its end. -/
theorem ConformsFrom.ensuring {activity : Activity (Scene κ μ) α}
    {atEnd : α → Scene κ μ → Scene κ μ} {atDrop : Scene κ μ → Scene κ μ}
    {left : List AuthenticatedContext} (h : ConformsFrom kept held world activity)
    (hEnd : ∀ value scene, Dealings kept scene.world left (atEnd value scene).world)
    (hDropped : ∀ scene, Dealings kept scene.world left (atDrop scene).world) :
    ConformsFrom left held world (activity.ensuring atEnd atDrop) := by
  induction activity generalizing held world with
  | finished s value =>
    obtain ⟨_, hDealings, rfl⟩ := h
    exact conformsFrom_finished (hDealings.trans (hEnd value s))
  | waiting s request alarm onAnswer onAlarm onDrop ihAnswer ihAlarm =>
    obtain ⟨held', hDealings, hAnswer, hAlarm, hDrop⟩ := h
    refine ⟨held', hDealings, ?_, ?_, ?_⟩
    · intro scene answer hJournal
      exact ihAnswer scene answer (hAnswer scene answer hJournal)
    · intro hSome scene hJournal
      exact ihAlarm hSome scene (hAlarm hSome scene hJournal)
    · intro scene hJournal
      exact (hDrop scene hJournal).trans (hDropped _)

/-- An activity that conforms does so under a time limit, at which it is dropped. -/
theorem ConformsFrom.within {activity : Activity (Scene κ μ) α} {limit : Duration}
    (h : ConformsFrom kept held world activity) :
    ConformsFrom kept held world (activity.within limit) := by
  induction activity generalizing held world with
  | finished s value =>
    obtain ⟨_, hDealings, rfl⟩ := h
    exact conformsFrom_finished hDealings
  | waiting s request alarm onAnswer onAlarm onDrop ihAnswer ihAlarm =>
    obtain ⟨held', hDealings, hAnswer, hAlarm, hDrop⟩ := h
    have hLimited (scene : Scene κ μ) (answer : request.Answer)
        (hJournal : s.world.journal <+: scene.world.journal) :
        ConformsFrom kept held' scene.world ((onAnswer scene answer).within limit) :=
      ihAnswer scene answer (hAnswer scene answer hJournal)
    -- at the limit the activity is dropped, which it has to be ready for at every wait
    have hCut (scene : Scene κ μ) (hJournal : s.world.journal <+: scene.world.journal) :
        ConformsFrom kept held' scene.world (finished (onDrop scene) (none : Option α)) :=
      conformsFrom_finished (hDrop scene hJournal)
    cases alarm with
    | none => exact ⟨held', hDealings, hLimited, fun _ => hCut, hDrop⟩
    | some alarm =>
      rw [Activity.within]
      split
      · refine ⟨held', hDealings, hLimited, ?_, hDrop⟩
        intro hSome scene hJournal
        exact ihAlarm hSome scene (hAlarm hSome scene hJournal)
      · exact ⟨held', hDealings, hLimited, fun _ => hCut, hDrop⟩

end Activity

/-! ### Sessions and calls of the endpoint -/

/-- **A session conforms when its action does.** The action may count on its context having been
logged in. -/
theorem conformsFrom_withAuthenticatedContext {provider : AuthProvider κ}
    {credentials : LoginCredentials}
    {action : Scene κ μ → AuthenticatedContext → Activity (Scene κ μ) (Except CredentialError α)}
    {scene : Scene κ μ}
    (hAction : ∀ scene' context, scene.world.journal <+: scene'.world.journal →
      .loggedIn context ∈ scene'.world.journal →
      (action scene' context).ConformsFrom (context :: kept) (context :: kept) scene'.world) :
    (withAuthenticatedContext provider credentials action scene).ConformsFrom kept kept
      scene.world := by
  refine Activity.conformsFrom_ask .refl fun scene' answer hJournal => ?_
  match answer with
  | .error error => exact Activity.conformsFrom_finished .refl
  | .ok admission =>
    -- the action holds the context of the login on top of those that the call held before
    have hLogin := Dealings.single (.login kept scene'.world admission)
    have hLoggedIn : .loggedIn (scene'.world.enter admission).1
        ∈ (scene'.world.enter admission).2.journal := by
      rw [World.enter_journal]
      exact List.mem_append_right _ (List.mem_singleton_self _)
    have hActs := hAction { scene' with world := (scene'.world.enter admission).2 }
      (scene'.world.enter admission).1 (hJournal.trans hLogin.journal_prefix) hLoggedIn
    refine Activity.ConformsFrom.after hLogin (hActs.ensuring ?_ ?_)
    · intro result ended
      exact .single (.logout kept ended.world provider _)
    · intro ended
      exact .single (.logout kept ended.world provider _)

/-- **Asking for a token conforms** with a context that is held or that comes from another login. If
that login has ended, the endpoint is not called. -/
theorem TokenAcquirer.conformsFrom_acquire {acquirer : TokenAcquirer} {scene : Scene κ μ}
    {context : AuthenticatedContext}
    (hKnown : context ∈ held ∨ .loggedIn context ∈ scene.world.journal) :
    (acquirer.acquire scene context).ConformsFrom held held scene.world := by
  cases hReleased : context.isReleased scene.world with
  | true =>
    rw [acquirer.acquire_of_isReleased hReleased]
    exact Activity.conformsFrom_finished .refl
  | false =>
    rw [acquirer.acquire_of_active hReleased]
    refine Activity.conformsFrom_ask ?_ fun scene' answer _ =>
      Activity.conformsFrom_finished .refl
    have hDraw : scene.world.SameExchanges scene.world.draw.2 := ⟨rfl, rfl, rfl⟩
    exact (Dealings.apart hDraw).trans (.single (.call _ hKnown hReleased))

end CredentialLease
