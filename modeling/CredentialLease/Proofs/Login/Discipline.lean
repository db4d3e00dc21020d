import CredentialLease.Proofs.Login.Conduct
import CredentialLease.Proofs.Login.Exchanges
import Mathlib.Data.List.Induction

/-!
# Journals in which every logout has its login

In a disciplined journal there are never more logouts of a context than logins that gave it, and a
context is called with only after a login that gave it and before any logout that releases it. A
provider may give one context to several logins, so the sessions are counted. A world is sound when
its journal is disciplined, its released contexts are those that were logged out of, and the logins
without a logout are those of the open sessions.

Main statement: `World.Sound.dealings`. What a call may do keeps a world sound, and changes the
contexts that are open as the call's own account of them says.
-/

namespace CredentialLease

variable {κ : Type}

/-! ### Disciplined journals -/

/-- Whether a journal has a logout of a context, or of another handle with its number. -/
def AuthenticatedContext.WasReleased (context : AuthenticatedContext) (journal : List Exchange) :
    Prop :=
  ∃ logout, .loggedOut logout ∈ journal ∧ logout.context.number = context.number

/-- An exchange that is no logout releases no context. -/
theorem AuthenticatedContext.wasReleased_concat {context : AuthenticatedContext}
    {journal : List Exchange} {exchange : Exchange}
    (hOther : ∀ logout, exchange ≠ .loggedOut logout) :
    context.WasReleased (journal ++ [exchange]) ↔ context.WasReleased journal := by
  constructor
  · rintro ⟨logout, hOut, hNumber⟩
    rcases List.mem_append.mp hOut with hOut | hOut
    · exact ⟨logout, hOut, hNumber⟩
    · exact absurd (List.mem_singleton.mp hOut).symm (hOther logout)
  · rintro ⟨logout, hOut, hNumber⟩
    exact ⟨logout, List.mem_append_left _ hOut, hNumber⟩

/-- Whether an exchange may follow on a journal: a call is made with a context that was logged in and
was not released, and a logout ends one of the sessions over its context. -/
def Exchange.Follows (journal : List Exchange) : Exchange → Prop
  | loggedIn _ => True
  | loggedOut logout =>
    logouts journal (· == logout.context) < logins journal (· == logout.context)
  | called context _ => .loggedIn context ∈ journal ∧ ¬ context.WasReleased journal

/-- **A journal in which every exchange may follow on those before it.** -/
inductive Disciplined : List Exchange → Prop where
  | start : Disciplined []
  | concat {journal : List Exchange} {exchange : Exchange} (h : Disciplined journal)
      (hFollows : exchange.Follows journal) : Disciplined (journal ++ [exchange])

namespace Disciplined

variable {journal : List Exchange}

/-- A beginning of a disciplined journal is one. -/
theorem of_append {more : List Exchange} (h : Disciplined (journal ++ more)) :
    Disciplined journal := by
  induction more using List.reverseRecOn with
  | nil => rwa [List.append_nil] at h
  | append_singleton more exchange ih =>
    apply ih
    rw [← List.append_assoc] at h
    generalize hWhole : journal ++ more ++ [exchange] = whole at h
    cases h with
    | start => simp at hWhole
    | concat h _ => rwa [(List.append_inj' hWhole rfl).1]

/-- **Every exchange in a disciplined journal follows on those before it.** -/
theorem follows_of_append {exchange : Exchange} {more : List Exchange}
    (h : Disciplined (journal ++ exchange :: more)) : exchange.Follows journal := by
  rw [← List.singleton_append, ← List.append_assoc] at h
  have hConcat := h.of_append
  generalize hWhole : journal ++ [exchange] = whole at hConcat
  cases hConcat with
  | start => simp at hWhole
  | concat _ hFollows =>
    obtain ⟨rfl, hSame⟩ := List.append_inj' hWhole rfl
    rwa [List.singleton_inj.mp hSame]

end Disciplined

/-! ### Sound worlds -/

/-- **Whether a world is sound, with the contexts of the sessions that are open in it.** A context is
listed as often as there are sessions over it. -/
structure World.Sound (world : World κ) (opened : List AuthenticatedContext) : Prop where
  disciplined : Disciplined world.journal
  /-- The logins without a logout are those of the open sessions. -/
  balance : ∀ property,
    logins world.journal property = logouts world.journal property + opened.countP property
  /-- The numbers that were handed out are below the next one. -/
  number_lt : ∀ context, .loggedIn context ∈ world.journal → context.number < world.contexts
  /-- The contexts that were logged out of are released, and no others. -/
  released_iff : ∀ context : AuthenticatedContext,
    context.number ∈ world.released ↔ context.WasReleased world.journal

namespace World.Sound

variable {world after : World κ} {opened held held' others : List AuthenticatedContext}
  {context : AuthenticatedContext}

/-- The context of an open session was logged in. -/
theorem loggedIn_of_mem (h : world.Sound opened) (hOpen : context ∈ opened) :
    .loggedIn context ∈ world.journal := by
  have hBalance := h.balance (· == context)
  have hCount : 0 < opened.countP (· == context) :=
    List.countP_pos_iff.mpr ⟨context, hOpen, beq_self_eq_true context⟩
  exact logins_self_pos_iff.mp (by omega)

/-- A context that was logged out of was logged in before. -/
theorem loggedIn_of_loggedOut (h : world.Sound opened) {logout : Logout}
    (hOut : .loggedOut logout ∈ world.journal) : .loggedIn logout.context ∈ world.journal := by
  have hBalance := h.balance (· == logout.context)
  have hCount : 0 < logouts world.journal (· == logout.context) :=
    logouts_pos_iff.mpr ⟨logout, hOut, beq_self_eq_true _⟩
  exact logins_self_pos_iff.mp (by omega)

theorem released_lt (h : world.Sound opened) : ∀ number ∈ world.released, number < world.contexts := by
  intro number hReleased
  obtain ⟨logout, hOut, hNumber⟩ := (h.released_iff ⟨number, default⟩).mp hReleased
  have hLess := h.number_lt _ (h.loggedIn_of_loggedOut hOut)
  rwa [hNumber] at hLess

/-- A context is active exactly when it was not logged out of. -/
theorem active_iff (h : world.Sound opened) :
    context.isReleased world = false ↔ ¬ context.WasReleased world.journal := by
  rw [← h.released_iff, ← Bool.not_eq_true, AuthenticatedContext.isReleased, List.contains_iff_mem]

/-- **The context of an open session is active, if no other login has given it.** -/
theorem active_of_mem (h : world.Sound opened) (hOpen : context ∈ opened)
    (hOnce : logins world.journal (·.number == context.number) = 1) :
    context.isReleased world = false := by
  rw [h.active_iff]
  rintro ⟨logout, hOut, hNumber⟩
  -- the one login cannot be both open and logged out of
  have hBalance := h.balance (·.number == context.number)
  have hHeld : 0 < opened.countP (·.number == context.number) :=
    List.countP_pos_iff.mpr ⟨context, hOpen, beq_self_eq_true _⟩
  have hEnded : 0 < logouts world.journal (·.number == context.number) :=
    logouts_pos_iff.mpr ⟨logout, hOut, beq_iff_eq.mpr hNumber⟩
  omega

/-- A world is sound before anything has happened. -/
theorem start (now : Instant) (storage : κ) (identifiers : Nat → String) :
    (World.start now storage identifiers).Sound [] where
  disciplined := .start
  balance := fun _ => rfl
  number_lt := by
    intro context h
    cases h
  released_iff := by
    intro context
    constructor
    · intro h
      cases h
    · rintro ⟨logout, h, -⟩
      cases h

theorem perm (h : world.Sound opened) (hPerm : opened.Perm others) : world.Sound others where
  disciplined := h.disciplined
  balance := fun property => hPerm.countP_eq property ▸ h.balance property
  number_lt := h.number_lt
  released_iff := h.released_iff

theorem apart (h : world.Sound opened) (hSame : world.SameExchanges after) :
    after.Sound opened := by
  obtain ⟨hJournal, hContexts, hReleased⟩ := hSame
  obtain ⟨hDisciplined, hBalance, hNumber, hIff⟩ := h
  rw [← hJournal] at hDisciplined hBalance hNumber hIff
  rw [← hContexts] at hNumber
  rw [← hReleased] at hIff
  exact ⟨hDisciplined, hBalance, hNumber, hIff⟩

theorem login (h : world.Sound opened) (admission : Admission) :
    (world.enter admission).2.Sound ((world.enter admission).1 :: opened) := by
  have hContexts := world.contexts_le_enter admission
  have hNumber := world.number_lt_enter admission
  have hReleased := world.enter_released admission
  have hJournal := world.enter_journal admission
  generalize (world.enter admission).1 = context at hNumber hJournal ⊢
  refine ⟨?_, ?_, ?_, ?_⟩
  · rw [hJournal]
    exact .concat h.disciplined trivial
  · intro property
    rw [hJournal, logins_append, logouts_append, h.balance, List.countP_cons]
    cases hProperty : property context
    all_goals simp [logins, logouts, Exchange.logsIn, Exchange.logsOut, hProperty]
    omega
  · intro other hIn
    rw [hJournal, List.mem_append, List.mem_singleton] at hIn
    rcases hIn with hIn | hIn
    · exact Nat.lt_of_lt_of_le (h.number_lt other hIn) hContexts
    · rwa [Exchange.loggedIn.inj hIn]
  · intro other
    rw [hReleased, hJournal, h.released_iff,
      AuthenticatedContext.wasReleased_concat fun _ => Exchange.noConfusion]

theorem call (h : world.Sound opened) (request : IssueRequest)
    (hIn : .loggedIn context ∈ world.journal) (hActive : context.isReleased world = false) :
    (world.noting (.called context request)).Sound opened := by
  refine ⟨.concat h.disciplined ⟨hIn, h.active_iff.mp hActive⟩, ?_, ?_, ?_⟩
  · intro property
    show logins (world.journal ++ _) property = logouts (world.journal ++ _) property + _
    rw [logins_append, logouts_append, h.balance]
    simp [logins, logouts, Exchange.logsIn, Exchange.logsOut]
  · intro other hOther
    refine h.number_lt other ?_
    simpa [World.noting] using hOther
  · intro other
    show other.number ∈ world.released ↔ other.WasReleased (world.journal ++ _)
    rw [h.released_iff,
      AuthenticatedContext.wasReleased_concat fun _ => Exchange.noConfusion]

theorem logout (h : world.Sound (context :: opened)) (provider : AuthProvider κ) :
    (provider.closeContext context world).Sound opened := by
  have hJournal := provider.closeContext_journal context world
  have hContexts := provider.closeContext_contexts context world
  have hReleased := provider.closeContext_released context world
  have hSame : (provider.answeredLogout context world).context = context := rfl
  generalize provider.answeredLogout context world = logout at hJournal hSame
  refine ⟨?_, ?_, ?_, ?_⟩
  · rw [hJournal]
    refine .concat h.disciplined ?_
    have hBalance := h.balance (· == context)
    have hOpen : 0 < (context :: opened).countP (· == context) :=
      List.countP_pos_iff.mpr ⟨context, List.mem_cons_self, beq_self_eq_true context⟩
    rw [Exchange.Follows, hSame]
    omega
  · intro property
    have hBalance := h.balance property
    rw [List.countP_cons] at hBalance
    rw [hJournal, logins_append, logouts_append, hBalance]
    cases hProperty : property context
    all_goals simp [logins, logouts, Exchange.logsIn, Exchange.logsOut, hSame, hProperty]
    omega
  · intro other hOther
    rw [hContexts]
    rw [hJournal] at hOther
    exact h.number_lt other (by simpa using hOther)
  · intro other
    rw [hReleased, hJournal, List.mem_cons, h.released_iff]
    constructor
    · rintro (hNumber | ⟨old, hOut, hNumber⟩)
      · exact ⟨logout, List.mem_append_right _ List.mem_cons_self, hSame ▸ hNumber.symm⟩
      · exact ⟨old, List.mem_append_left _ hOut, hNumber⟩
    · rintro ⟨last, hOut, hNumber⟩
      rcases List.mem_append.mp hOut with hOut | hOut
      · exact .inr ⟨last, hOut, hNumber⟩
      · have hLast := Exchange.loggedOut.inj (List.mem_singleton.mp hOut)
        rw [hLast, hSame] at hNumber
        exact .inl hNumber.symm

/-- One thing that a call may do keeps a world sound. -/
theorem dealing (h : world.Sound (held ++ others)) (hDealing : Dealing held world held' after) :
    after.Sound (held' ++ others) := by
  cases hDealing with
  | login _ _ admission => exact h.login admission
  | @call _ _ context request hKnown hActive =>
    refine h.call request ?_ hActive
    rcases hKnown with hHeld | hIn
    · exact h.loggedIn_of_mem (List.mem_append_left others hHeld)
    · exact hIn
  | logout _ _ provider context => exact h.logout provider
  | apart hSame => exact h.apart hSame

/-- **What a call may do keeps a world sound.** -/
theorem dealings (h : world.Sound (held ++ others)) (hDealings : Dealings held world held' after) :
    after.Sound (held' ++ others) := by
  induction hDealings with
  | refl => exact h
  | tail _ hLast ih => exact ih.dealing hLast

end World.Sound

end CredentialLease
