import CredentialLease.Proofs.Login.Session

/-!
# The exchanges of one activity

The journal of a world is shared. `Exchanged start waits last exchanges` picks out what one activity
adds to it in a run: before its first wait, between two waits and after the last, whatever others
add while it waits.

`logins` and `logouts` count the sessions that have begun and ended in a journal. As several logins
can give the same context, they are counted for every property that a context may have.

Main statement: `SessionRun.exchanged`. A session adds nothing unless its login succeeds, and then
what its action adds between the login and the logout.
-/

namespace CredentialLease

variable {κ μ α : Type} {start last : World κ} {waits : List (Wait (Scene κ μ))}
  {exchanges more : List Exchange}

/-! ### Counting logins and logouts -/

section Counting

variable {journal : List Exchange} {property : AuthenticatedContext → Bool}

/-- Whether an exchange is a login that gives a context with a property. -/
def Exchange.logsIn (property : AuthenticatedContext → Bool) : Exchange → Bool
  | loggedIn context => property context
  | _ => false

/-- Whether an exchange is a logout of a context with a property. -/
def Exchange.logsOut (property : AuthenticatedContext → Bool) : Exchange → Bool
  | loggedOut logout => property logout.context
  | _ => false

/-- How many logins in a journal gave a context with a property. -/
def logins (journal : List Exchange) (property : AuthenticatedContext → Bool) : Nat :=
  journal.countP (Exchange.logsIn property)

/-- How many logouts in a journal were of a context with a property. -/
def logouts (journal : List Exchange) (property : AuthenticatedContext → Bool) : Nat :=
  journal.countP (Exchange.logsOut property)

theorem logins_append (journal more : List Exchange) (property : AuthenticatedContext → Bool) :
    logins (journal ++ more) property = logins journal property + logins more property :=
  List.countP_append

theorem logouts_append (journal more : List Exchange) (property : AuthenticatedContext → Bool) :
    logouts (journal ++ more) property = logouts journal property + logouts more property :=
  List.countP_append

theorem logins_pos_iff :
    0 < logins journal property ↔ ∃ context, .loggedIn context ∈ journal ∧ property context := by
  rw [logins, List.countP_pos_iff]
  constructor
  · rintro ⟨_ | _ | _, hMem, hProperty⟩
    · exact ⟨_, hMem, hProperty⟩
    · cases hProperty
    · cases hProperty
  · rintro ⟨context, hMem, hProperty⟩
    exact ⟨_, hMem, hProperty⟩

theorem logouts_pos_iff :
    0 < logouts journal property ↔
      ∃ logout, .loggedOut logout ∈ journal ∧ property logout.context := by
  rw [logouts, List.countP_pos_iff]
  constructor
  · rintro ⟨_ | _ | _, hMem, hProperty⟩
    · cases hProperty
    · exact ⟨_, hMem, hProperty⟩
    · cases hProperty
  · rintro ⟨logout, hMem, hProperty⟩
    exact ⟨_, hMem, hProperty⟩

/-- A context was logged in when a login gave it. -/
theorem logins_self_pos_iff {context : AuthenticatedContext} :
    0 < logins journal (· == context) ↔ .loggedIn context ∈ journal := by
  rw [logins_pos_iff]
  constructor
  · rintro ⟨other, hMem, hSame⟩
    rwa [eq_of_beq hSame] at hMem
  · intro hMem
    exact ⟨context, hMem, beq_self_eq_true context⟩

end Counting

/-! ### The exchanges of an activity -/

/-- Whether these are the exchanges that an activity adds to the journal in a run with these waits,
from the world in which it starts to that in which it ends. -/
def Exchanged (start : World κ) : List (Wait (Scene κ μ)) → World κ → List Exchange → Prop
  | [], last, exchanges => last.journal = start.journal ++ exchanges
  | wait :: waits, last, exchanges => ∃ first rest, exchanges = first ++ rest ∧
      wait.began.world.journal = start.journal ++ first ∧
      Exchanged wait.resumed.world waits last rest

/-- What is added before an activity starts comes first. -/
theorem Exchanged.after {begun : World κ} (hBegun : begun.journal = start.journal ++ more)
    (h : Exchanged begun waits last exchanges) :
    Exchanged start waits last (more ++ exchanges) := by
  cases waits with
  | nil =>
    rw [Exchanged] at h ⊢
    rw [h, hBegun, List.append_assoc]
  | cons wait waits =>
    obtain ⟨first, rest, rfl, hFirst, hRest⟩ := h
    refine ⟨more ++ first, rest, (List.append_assoc more first rest).symm, ?_, hRest⟩
    rw [hFirst, hBegun, List.append_assoc]

/-- What is added after an activity has ended comes last. -/
theorem Exchanged.before {ended : World κ} (h : Exchanged start waits ended exchanges)
    (hEnded : last.journal = ended.journal ++ more) :
    Exchanged start waits last (exchanges ++ more) := by
  induction waits generalizing start exchanges with
  | nil =>
    rw [Exchanged] at h ⊢
    rw [hEnded, h, List.append_assoc]
  | cons wait waits ih =>
    obtain ⟨first, rest, rfl, hFirst, hRest⟩ := h
    exact ⟨first, rest ++ more, List.append_assoc first rest more, hFirst, ih hRest⟩

/-- Activities that run one after the other add what the first adds and then what the second
adds. -/
theorem Exchanged.append {middle : World κ} {second : List (Wait (Scene κ μ))}
    (h : Exchanged start waits middle exchanges) (hSecond : Exchanged middle second last more) :
    Exchanged start (waits ++ second) last (exchanges ++ more) := by
  induction waits generalizing start exchanges with
  | nil => exact hSecond.after h
  | cons wait waits ih =>
    obtain ⟨first, rest, rfl, hFirst, hRest⟩ := h
    exact ⟨first, rest ++ more, List.append_assoc first rest more, hFirst, ih hRest⟩

/-- **A session adds nothing, or what its action adds between a login and a logout** of the context
that the action is given. -/
theorem SessionRun.exchanged {meanwhile : Scene κ μ → Scene κ μ → Prop}
    {provider : AuthProvider κ} {credentials : LoginCredentials}
    {action : Scene κ μ → AuthenticatedContext → Activity (Scene κ μ) (Except CredentialError α)}
    {scene t : Scene κ μ} {result : Option (Except CredentialError α)}
    (h : SessionRun meanwhile provider credentials action scene waits t result) :
    Exchanged scene.world waits t.world [] ∨
    ∃ (resumed ended : Scene κ μ) (admission : Admission) (rest : List (Wait (Scene κ μ))),
      Activity.Run meanwhile
        (action { resumed with world := (resumed.world.enter admission).2 }
          (resumed.world.enter admission).1) rest ended result ∧
      ∀ exchanges, Exchanged (resumed.world.enter admission).2 rest ended.world exchanges →
        Exchanged scene.world waits t.world
          (.loggedIn (resumed.world.enter admission).1 :: exchanges ++
            [.loggedOut (provider.answeredLogout (resumed.world.enter admission).1
              ended.world)]) := by
  cases h with
  | abandoned hMeanwhile =>
    exact .inl ⟨[], [], rfl, (List.append_nil _).symm, (List.append_nil _).symm⟩
  | refused hMeanwhile =>
    exact .inl ⟨[], [], rfl, (List.append_nil _).symm, (List.append_nil _).symm⟩
  | @acted resumed ended admission rest _ hMeanwhile hAction =>
    -- nothing is added while the login is awaited, and the login comes right after it
    refine .inr ⟨resumed, ended, admission, rest, hAction, fun exchanges hExchanges => ?_⟩
    refine ⟨[], _, rfl, (List.append_nil _).symm, ?_⟩
    exact (hExchanges.after (World.enter_journal _ _)).before (provider.closeContext_journal _ _)

end CredentialLease
