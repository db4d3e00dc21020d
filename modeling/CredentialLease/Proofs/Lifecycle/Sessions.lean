import CredentialLease.Proofs.Lifecycle.Exchanges
import CredentialLease.Proofs.Login.Discipline

/-!
# Every login has its logout

A `System` is a world and the calls in progress in it: sessions with any actions that conform, calls
of the endpoint with contexts from any login, and the calls of managers. They take their steps in
any order, they are answered in any way or never, and each may be dropped at every wait.

In every system that can be reached, every login that has had no logout yet is that of one call in
progress, a context is active until it is first logged out of, and the endpoint is called with active
contexts only (`System.Reachable.sound`). When a provider gives one context to several logins, the
first of their sessions to end releases it for all of them (`exists_action_with_released_context`); a
context that no other login has given is active throughout its session. `session_discipline` puts this
together with what a single session does on each way through it and with the exchanges of a manager's
calls.
-/

namespace CredentialLease

variable {κ : Type}

/-! ### Calls in progress -/

/-- What may begin as a call in a world. The action of a session does with logins what it may, and
can count on the journal up to the call and on the login of its context. -/
inductive IsCall (world : World κ) :
    (Scene κ CredentialState → Activity (Scene κ CredentialState) Unit) → Prop where
  | session {α : Type} (provider : AuthProvider κ) (credentials : LoginCredentials)
      (action : Scene κ CredentialState → AuthenticatedContext →
        Activity (Scene κ CredentialState) (Except CredentialError α))
      (hAction : ∀ scene context, world.journal <+: scene.world.journal →
        .loggedIn context ∈ scene.world.journal →
        (action scene context).ConformsFrom [context] [context] scene.world) :
      IsCall world fun scene =>
        (withAuthenticatedContext provider credentials action scene).map fun _ => ()
  | acquire (acquirer : TokenAcquirer) (context : AuthenticatedContext)
      (hKnown : .loggedIn context ∈ world.journal) :
      IsCall world fun scene => (acquirer.acquire scene context).map fun _ => ()
  | ensureIssued (manager : LifecycleManager κ) :
      IsCall world fun scene => (manager.ensureIssued scene).map fun _ => ()
  | maybeRenew (manager : LifecycleManager κ) :
      IsCall world fun scene => (manager.maybeRenew scene).map fun _ => ()
  | tick (renewer : Renewer κ CredentialState) (manager : LifecycleManager κ)
      (hIssuer : renewer.issuer = manager.issuer) :
      IsCall world fun scene => (renewer.tick scene).map fun _ => ()

theorem IsCall.conformsFrom {scene : Scene κ CredentialState}
    {call : Scene κ CredentialState → Activity (Scene κ CredentialState) Unit}
    (h : IsCall scene.world call) : (call scene).ConformsFrom [] [] scene.world := by
  cases h with
  | session provider credentials action hAction =>
    exact (conformsFrom_withAuthenticatedContext hAction).map _
  | acquire acquirer context hKnown => exact (TokenAcquirer.conformsFrom_acquire (.inr hKnown)).map _
  | ensureIssued manager => exact LifecycleManager.conformsFrom_ensureIssued.map _
  | maybeRenew manager => exact LifecycleManager.conformsFrom_maybeRenew.map _
  | tick renewer manager hIssuer => exact (Renewer.conformsFrom_tick hIssuer).map _

/-- Whether these contexts are held open by calls in progress, each by one call. A call logs out of
those that it holds, on every branch. -/
inductive Holds (world : World κ) :
    List (Activity (Scene κ CredentialState) Unit) → List AuthenticatedContext → Prop where
  | nil : Holds world [] []
  | cons {call : Activity (Scene κ CredentialState) Unit} {held opened : List AuthenticatedContext}
      {calls : List (Activity (Scene κ CredentialState) Unit)} (hCall : call.Conforms [] held)
      (hJournal : call.state.world.journal <+: world.journal) (h : Holds world calls opened) :
      Holds world (call :: calls) (held ++ opened)

namespace Holds

variable {world after : World κ} {calls calls' : List (Activity (Scene κ CredentialState) Unit)}
  {opened : List AuthenticatedContext}

/-- Calls hold what they held while others add to the journal. -/
theorem grows (h : Holds world calls opened) (hJournal : world.journal <+: after.journal) :
    Holds after calls opened := by
  induction h with
  | nil => exact .nil
  | cons hCall hBefore _ ih => exact .cons hCall (hBefore.trans hJournal) ih

/-- The order of the calls does not matter. -/
theorem perm (h : Holds world calls opened) (hPerm : calls.Perm calls') :
    ∃ opened', opened.Perm opened' ∧ Holds world calls' opened' := by
  induction hPerm generalizing opened with
  | nil => exact ⟨opened, .refl _, h⟩
  | cons call _ ih =>
    cases h with
    | cons hCall hJournal h =>
      obtain ⟨opened', hOpened, hCalls⟩ := ih h
      exact ⟨_, hOpened.append_left _, .cons hCall hJournal hCalls⟩
  | swap call other calls =>
    cases h with
    | cons hCall hJournal h =>
      cases h with
      | @cons _ held rest _ hOther hOtherJournal h =>
        refine ⟨_, ?_, .cons hOther hOtherJournal (.cons hCall hJournal h)⟩
        -- two calls change places, and what they hold with them
        rw [← List.append_assoc, ← List.append_assoc]
        exact List.perm_append_comm.append_right rest
  | trans _ _ ihFirst ihSecond =>
    obtain ⟨middle, hFirst, hMiddle⟩ := ihFirst h
    obtain ⟨opened', hSecond, hCalls⟩ := ihSecond hMiddle
    exact ⟨opened', hFirst.trans hSecond, hCalls⟩

end Holds

/-! ### Systems -/

/-- A world and the calls in progress in it, in any order. -/
structure System (κ : Type) where
  world : World κ
  calls : List (Activity (Scene κ CredentialState) Unit)

namespace System

/-- **One step of a system.** A call that goes on finds the world of the system, and the record and
the memory that it works on. -/
inductive Step : System κ → System κ → Prop where
  /-- Something happens that has nothing to do with logins. -/
  | passes {world after : World κ} {calls : List (Activity (Scene κ CredentialState) Unit)}
      (hSame : world.SameExchanges after) : Step ⟨world, calls⟩ ⟨after, calls⟩
  | begins {scene : Scene κ CredentialState}
      {calls : List (Activity (Scene κ CredentialState) Unit)}
      {call : Scene κ CredentialState → Activity (Scene κ CredentialState) Unit}
      (hCall : IsCall scene.world call) :
      Step ⟨scene.world, calls⟩ ⟨(call scene).state.world, call scene :: calls⟩
  | answered {s scene : Scene κ CredentialState} {request : Request} {alarm : Option Duration}
      {onAnswer : Scene κ CredentialState → request.Answer →
        Activity (Scene κ CredentialState) Unit}
      {onAlarm : alarm.isSome = true → Scene κ CredentialState →
        Activity (Scene κ CredentialState) Unit}
      {onDrop : Scene κ CredentialState → Scene κ CredentialState}
      {calls others : List (Activity (Scene κ CredentialState) Unit)}
      (hCalls : calls.Perm (.waiting s request alarm onAnswer onAlarm onDrop :: others))
      (answer : request.Answer) :
      Step ⟨scene.world, calls⟩
        ⟨(onAnswer scene answer).state.world, onAnswer scene answer :: others⟩
  | alarmed {s scene : Scene κ CredentialState} {request : Request} {alarm : Option Duration}
      {onAnswer : Scene κ CredentialState → request.Answer →
        Activity (Scene κ CredentialState) Unit}
      {onAlarm : alarm.isSome = true → Scene κ CredentialState →
        Activity (Scene κ CredentialState) Unit}
      {onDrop : Scene κ CredentialState → Scene κ CredentialState}
      {calls others : List (Activity (Scene κ CredentialState) Unit)}
      (hCalls : calls.Perm (.waiting s request alarm onAnswer onAlarm onDrop :: others))
      (hAlarm : alarm.isSome = true) :
      Step ⟨scene.world, calls⟩
        ⟨(onAlarm hAlarm scene).state.world, onAlarm hAlarm scene :: others⟩
  | dropped {s scene : Scene κ CredentialState} {request : Request} {alarm : Option Duration}
      {onAnswer : Scene κ CredentialState → request.Answer →
        Activity (Scene κ CredentialState) Unit}
      {onAlarm : alarm.isSome = true → Scene κ CredentialState →
        Activity (Scene κ CredentialState) Unit}
      {onDrop : Scene κ CredentialState → Scene κ CredentialState}
      {calls others : List (Activity (Scene κ CredentialState) Unit)}
      (hCalls : calls.Perm (.waiting s request alarm onAnswer onAlarm onDrop :: others)) :
      Step ⟨scene.world, calls⟩ ⟨(onDrop scene).world, others⟩
  /-- A call that has finished is in progress no longer. -/
  | returned {world : World κ} {s : Scene κ CredentialState}
      {calls others : List (Activity (Scene κ CredentialState) Unit)}
      (hCalls : calls.Perm (.finished s () :: others)) :
      Step ⟨world, calls⟩ ⟨world, others⟩

/-- **The systems that can be reached** from a world at its start, with no call in progress. -/
inductive Reachable : System κ → Prop where
  | start (now : Instant) (storage : κ) (identifiers : Nat → String) :
      Reachable ⟨.start now storage identifiers, []⟩
  | step {system next : System κ} (h : Reachable system) (hStep : Step system next) :
      Reachable next

/-- **Whether the open contexts of a system are exactly those that its calls hold.** -/
def Sound (system : System κ) : Prop :=
  ∃ opened, system.world.Sound opened ∧ Holds system.world system.calls opened

variable {world : World κ} {calls others : List (Activity (Scene κ CredentialState) Unit)}
  {held opened : List AuthenticatedContext}

/-- A system stays sound when a call goes on as one that conforms. -/
theorem Sound.of_conformsFrom {call : Activity (Scene κ CredentialState) Unit}
    (hWorld : world.Sound (held ++ opened)) (hOthers : Holds world others opened)
    (hCall : call.ConformsFrom [] held world) : Sound ⟨call.state.world, call :: others⟩ := by
  obtain ⟨held', hDealings, hConforms⟩ := hCall
  exact ⟨held' ++ opened, hWorld.dealings hDealings,
    .cons hConforms List.prefix_rfl (hOthers.grows hDealings.journal_prefix)⟩

/-- Any call of a sound system can be looked at first. -/
theorem Sound.exists_held {call : Activity (Scene κ CredentialState) Unit}
    (h : Sound ⟨world, calls⟩) (hCalls : calls.Perm (call :: others)) :
    ∃ held opened, world.Sound (held ++ opened) ∧ Holds world others opened ∧
      call.Conforms [] held ∧ call.state.world.journal <+: world.journal := by
  obtain ⟨opened, hWorld, hHolds⟩ := h
  obtain ⟨opened', hOpened, hHolds⟩ := hHolds.perm hCalls
  cases hHolds with
  | cons hCall hJournal hOthers => exact ⟨_, _, hWorld.perm hOpened, hOthers, hCall, hJournal⟩

/-- **Every step keeps a system sound.** -/
theorem Step.sound {system next : System κ} (hStep : Step system next) (h : system.Sound) :
    next.Sound := by
  cases hStep with
  | passes hSame =>
    obtain ⟨opened, hWorld, hHolds⟩ := h
    exact ⟨opened, hWorld.apart hSame, hHolds.grows hSame.journal_prefix⟩
  | begins hCall =>
    obtain ⟨opened, hWorld, hHolds⟩ := h
    exact .of_conformsFrom hWorld hHolds hCall.conformsFrom
  | answered hCalls answer =>
    obtain ⟨held, opened, hWorld, hOthers, ⟨hAnswer, -, -⟩, hJournal⟩ := h.exists_held hCalls
    exact .of_conformsFrom hWorld hOthers (hAnswer _ answer hJournal)
  | alarmed hCalls hAlarm =>
    obtain ⟨held, opened, hWorld, hOthers, ⟨-, hAlarmed, -⟩, hJournal⟩ := h.exists_held hCalls
    exact .of_conformsFrom hWorld hOthers (hAlarmed hAlarm _ hJournal)
  | dropped hCalls =>
    obtain ⟨held, opened, hWorld, hOthers, ⟨-, -, hDrop⟩, hJournal⟩ := h.exists_held hCalls
    have hDealings := hDrop _ hJournal
    exact ⟨opened, hWorld.dealings hDealings, hOthers.grows hDealings.journal_prefix⟩
  | returned hCalls =>
    obtain ⟨held, opened, hWorld, hOthers, rfl, -⟩ := h.exists_held hCalls
    exact ⟨opened, hWorld, hOthers⟩

/-- **Every system that can be reached is sound.** -/
theorem Reachable.sound {system : System κ} (h : system.Reachable) : system.Sound := by
  induction h with
  | start now storage identifiers => exact ⟨[], .start now storage identifiers, .nil⟩
  | step _ hStep ih => exact hStep.sound ih

/-- **Every run of a call is a way of the system**, when nothing else happens that has to do with
logins. -/
theorem Reachable.of_run {call : Activity (Scene κ CredentialState) Unit}
    {t : Scene κ CredentialState}
    {waits : List (Wait (Scene κ CredentialState))} {result : Option Unit}
    (hRun : Activity.Run Scene.SameExchanges call waits t result)
    (h : Reachable ⟨call.state.world, call :: others⟩) :
    Reachable ⟨t.world, others⟩ := by
  induction hRun with
  | finished s value => exact h.step (.returned (.refl _))
  | answered answer hMeanwhile _ ih =>
    exact ih ((h.step (.passes hMeanwhile)).step (.answered (.refl _) answer))
  | alarmed hAlarm hMeanwhile _ ih =>
    exact ih ((h.step (.passes hMeanwhile)).step (.alarmed (.refl _) hAlarm))
  | dropped hMeanwhile => exact (h.step (.passes hMeanwhile)).step (.dropped (.refl _))

/-- **Whether logins and logouts are as they should be in a system.** -/
structure Orderly (system : System κ) : Prop where
  /-- Every login that has had no logout yet is that of one call in progress, which logs out of the
  context. If no other login has given the context, it is active for as long as the call has it. -/
  held : ∃ opened, Holds system.world system.calls opened ∧
    (∀ property, logins system.world.journal property
      = logouts system.world.journal property + opened.countP property) ∧
    ∀ context ∈ opened, logins system.world.journal (·.number == context.number) = 1 →
      context.isReleased system.world = false
  /-- A context that is made for the next login is active, and no login has given it before. -/
  fresh : ∀ identity, (Admission.fresh identity).IsActive system.world ∧
    logins system.world.journal
      (·.number == (system.world.enter (.fresh identity)).1.number) = 0
  /-- A context is active until it is logged out of. -/
  active_iff : ∀ context : AuthenticatedContext,
    context.isReleased system.world = false ↔ ¬ context.WasReleased system.world.journal
  /-- A logout ends a session that a login has begun, and the endpoint is called with contexts only
  that were logged in and not released. -/
  follows : ∀ before exchange after, system.world.journal = before ++ exchange :: after →
    exchange.Follows before
  /-- When no call is in progress, every login has had its logout. -/
  settled : system.calls = [] → ∀ property,
    logins system.world.journal property = logouts system.world.journal property

/-- **Every system that can be reached is orderly.** -/
theorem Reachable.orderly {system : System κ} (h : system.Reachable) : system.Orderly := by
  obtain ⟨opened, hWorld, hHolds⟩ := h.sound
  refine ⟨⟨opened, hHolds, hWorld.balance, fun _ => hWorld.active_of_mem⟩, ?_, ?_, ?_, ?_⟩
  · intro identity
    refine ⟨Admission.isActive_fresh (fun hReleased => ?_) identity, ?_⟩
    · exact Nat.lt_irrefl _ (hWorld.released_lt _ hReleased)
    · refine Nat.eq_zero_of_not_pos fun hPos => ?_
      obtain ⟨context, hIn, hNumber⟩ := logins_pos_iff.mp hPos
      exact Nat.ne_of_lt (hWorld.number_lt context hIn) (eq_of_beq hNumber)
  · intro context
    exact hWorld.active_iff
  · intro before exchange after hJournal
    have hDisciplined := hWorld.disciplined
    rw [hJournal] at hDisciplined
    exact hDisciplined.follows_of_append
  · intro hCalls property
    rw [hCalls] at hHolds
    cases hHolds
    exact hWorld.balance property

end System

/-! ### The discipline of sessions -/

/-- **Every login has its logout.** A session goes only the ways of `SessionRun`. A logout asks the
provider once, notes what it answers and releases the context, whatever that is. A released context
gives nothing out and is of no use for a call of the endpoint. A manager's call adds at most one
session to the journal, and every system of calls that can be reached is orderly. -/
theorem session_discipline (κ : Type) :
    (∀ (μ α : Type) (meanwhile : Scene κ μ → Scene κ μ → Prop) (provider : AuthProvider κ)
      (credentials : LoginCredentials)
      (action : Scene κ μ → AuthenticatedContext →
        Activity (Scene κ μ) (Except CredentialError α))
      (scene t : Scene κ μ) (waits : List (Wait (Scene κ μ)))
      (result : Option (Except CredentialError α)),
      Activity.Run meanwhile (withAuthenticatedContext provider credentials action scene) waits t
          result ↔
        SessionRun meanwhile provider credentials action scene waits t result) ∧
    (∀ (provider : AuthProvider κ) (context : AuthenticatedContext) (world : World κ),
      ∃ logout : Logout,
        (provider.closeContext context world).journal = world.journal ++ [.loggedOut logout] ∧
        logout.context = context ∧ logout.answer = provider.logout world context ∧
        (provider.closeContext context world).released = context.number :: world.released ∧
        context.isReleased (provider.closeContext context world) = true) ∧
    (∀ (context : AuthenticatedContext) (world : World κ), context.isReleased world = true →
      context.ensureActive world = .error context.releasedError ∧
      context.material world = .error context.releasedError ∧
      context.basicAuthorization world = .error context.releasedError ∧
      ∀ (μ : Type) (acquirer : TokenAcquirer) (scene : Scene κ μ), scene.world = world →
        acquirer.acquire scene context = .finished scene (.error context.releasedError)) ∧
    (∀ (manager : LifecycleManager κ) (scene t : Scene κ CredentialState)
      (meanwhile : Scene κ CredentialState → Scene κ CredentialState → Prop)
      (waits : List (Wait (Scene κ CredentialState))),
      (∀ result, Activity.Run meanwhile (manager.ensureIssued scene) waits t result →
        ∃ exchanges, OneSession exchanges ∧ Exchanged scene.world waits t.world exchanges) ∧
      (∀ result, Activity.Run meanwhile (manager.maybeRenew scene) waits t result →
        ∃ exchanges, OneSession exchanges ∧ Exchanged scene.world waits t.world exchanges) ∧
      ∀ renewer : Renewer κ CredentialState, renewer.issuer = manager.issuer →
        ∀ result, Activity.Run meanwhile (renewer.tick scene) waits t result →
          ∃ exchanges, OneSession exchanges ∧ Exchanged scene.world waits t.world exchanges) ∧
    ∀ system : System κ, system.Reachable → system.Orderly := by
  refine ⟨?_, ?_, ?_, ?_, fun system h => h.orderly⟩
  · intro μ α meanwhile provider credentials action scene t waits result
    exact run_withAuthenticatedContext_iff
  · intro provider context world
    exact ⟨provider.answeredLogout context world, provider.closeContext_journal context world, rfl,
      provider.answer_answeredLogout context world, provider.closeContext_released context world,
      provider.isReleased_closeContext context world⟩
  · intro context world hReleased
    refine ⟨AuthenticatedContext.ensureActive_of_isReleased hReleased,
      AuthenticatedContext.material_of_isReleased hReleased,
      AuthenticatedContext.basicAuthorization_of_isReleased hReleased, ?_⟩
    rintro μ acquirer scene rfl
    exact acquirer.acquire_of_isReleased hReleased
  · intro manager scene t meanwhile waits
    refine ⟨?_, ?_, ?_⟩
    · intro result h
      obtain ⟨exchanges, hOne, hExchanged, -⟩ := LifecycleManager.ensureIssued_exchanged h
      exact ⟨exchanges, hOne, hExchanged⟩
    · intro result h
      exact LifecycleManager.maybeRenew_exchanged h
    · intro renewer hIssuer result h
      exact Renewer.tick_exchanged hIssuer h

/-- A manager's call that is dropped while the endpoint does not answer has logged in, called the
endpoint and logged out, each once. -/
theorem session_discipline_dropped :
    ∃ (system : System Unit) (logout : Logout) (request : IssueRequest),
      system.Reachable ∧ system.calls = [] ∧
      system.world.journal
        = [.loggedIn logout.context, .called logout.context request, .loggedOut logout] ∧
      logins system.world.journal (· == logout.context)
        = logouts system.world.journal (· == logout.context) ∧
      logout.context.isReleased system.world = true ∧
      logout.context.ensureActive system.world = .error logout.context.releasedError := by
  obtain ⟨manager, hManager⟩ : ∃ manager : LifecycleManager Unit,
      manager = ⟨⟨none, none, .invalid, "key", "lease-", none⟩, default,
        ⟨fun _ _ => .never, fun _ _ => .ok ()⟩⟩ := ⟨_, rfl⟩
  obtain ⟨scene, hScene⟩ : ∃ scene : Scene Unit CredentialState,
      scene = ⟨.start ⟨0⟩ () fun _ => "1", .empty, .unissued⟩ := ⟨_, rfl⟩
  have hEntry : AccessToken.decodeStored (scene.record.get manager.key) = .ok none := by
    rw [hScene]
    rfl
  have hNew : scene.world.contexts ∉ scene.world.released := by
    rw [hScene]
    exact List.not_mem_nil
  have hStart : System.Reachable ⟨scene.world, []⟩ := by
    rw [hScene]
    exact .start ⟨0⟩ () _
  obtain ⟨waits, t, request, logout, hRun, hJournal⟩ :=
    manager.exists_run_dropped Scene.SameExchanges.refl hEntry hNew
  have hReachable := System.Reachable.of_run (Activity.run_map_iff.mpr ⟨none, hRun, rfl⟩)
    (hStart.step (.begins (.ensureIssued manager)))
  have hOrderly := (session_discipline Unit).2.2.2.2 _ hReachable
  rw [show scene.world.journal = [] by rw [hScene]; rfl, List.nil_append] at hJournal
  have hReleased : logout.context.isReleased t.world = true := by
    rw [← Bool.not_eq_false, hOrderly.active_iff, not_not, hJournal]
    exact ⟨logout, by simp, rfl⟩
  exact ⟨_, logout, request, hReachable, rfl, hJournal, hOrderly.settled rfl _, hReleased,
    ((session_discipline Unit).2.2.1 logout.context t.world hReleased).1⟩

/-- **A provider that gives one context to two sessions makes the second one run with a released
context.** The actions ask whether their context is active, and the second is told that it is not. -/
theorem exists_action_with_released_context :
    ∃ (provider : AuthProvider Unit) (endpoint : TokenEndpoint Unit) (scene : Scene Unit Unit)
      (context : AuthenticatedContext),
      let action := fun (scene : Scene Unit Unit) (context : AuthenticatedContext) =>
        Activity.finished scene (context.ensureActive scene.world)
      let session := withAuthenticatedContext provider default action
      let execution := ((session scene).bind fun after _ => session after).execute
        (.of provider endpoint) none
      execution.scene.world.journal = [.loggedIn context, .loggedOut ⟨context, none⟩,
        .loggedIn context, .loggedOut ⟨context, none⟩] ∧
      execution.ending = .finished (.error context.releasedError) :=
  ⟨⟨fun _ _ => .now (.ok (.shared ⟨0, default⟩)), fun _ _ => .ok ()⟩, ⟨fun _ _ _ => .never⟩,
    ⟨.start ⟨0⟩ () fun _ => "", .empty, ()⟩, ⟨0, default⟩, rfl, rfl⟩

end CredentialLease
