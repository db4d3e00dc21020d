import CredentialLease.Activity.Execution

/-!
# The runs of an activity

A run follows one branch of an activity to its end. `Run meanwhile activity waits state result`
says that the activity can end in `state` after these waits, with a value or, when it was dropped,
with none. While it waits its surroundings may change the state as `meanwhile` allows, they may
answer in any way or never, and they may drop it at any wait.

Each way to build an activity has one lemma that says what its runs are: `run_finished_iff`,
`run_ask_iff`, `run_bind_iff`, `run_map_iff`, `run_andThen_iff`, `run_ensuring_iff` and
`run_of_within`. What holds of every run holds of every execution under a host
(`exists_run_of_execute`), and there the host gives the answers (`exists_answered_run_of_execute`).
-/

namespace CredentialLease

/-! ### Waits -/

/-- A wait of an activity. -/
structure Wait (σ : Type) where
  /-- The state in which the activity began to wait. -/
  began : σ
  request : Request
  /-- What it was answered; nothing when an alarm or the drop came first. -/
  answer : Option request.Answer
  /-- The state in which the activity went on or was dropped. -/
  resumed : σ

namespace Activity

variable {σ α β ε : Type} {meanwhile : σ → σ → Prop} {waits : List (Wait σ)} {s t : σ}

/-- **The runs of an activity**: its waits, the state in which it ends, and the value with which it
finishes unless it is dropped. -/
inductive Run (meanwhile : σ → σ → Prop) :
    Activity σ α → List (Wait σ) → σ → Option α → Prop where
  | finished (s : σ) (value : α) : Run meanwhile (.finished s value) [] s (some value)
  | answered {s resumed t : σ} {request : Request} {alarm : Option Duration}
      {onAnswer : σ → request.Answer → Activity σ α}
      {onAlarm : alarm.isSome = true → σ → Activity σ α} {onDrop : σ → σ}
      {waits : List (Wait σ)} {result : Option α} (answer : request.Answer)
      (hMeanwhile : meanwhile s resumed)
      (hRest : Run meanwhile (onAnswer resumed answer) waits t result) :
      Run meanwhile (.waiting s request alarm onAnswer onAlarm onDrop)
        (⟨s, request, some answer, resumed⟩ :: waits) t result
  | alarmed {s resumed t : σ} {request : Request} {alarm : Option Duration}
      {onAnswer : σ → request.Answer → Activity σ α}
      {onAlarm : alarm.isSome = true → σ → Activity σ α} {onDrop : σ → σ}
      {waits : List (Wait σ)} {result : Option α} (hAlarm : alarm.isSome = true)
      (hMeanwhile : meanwhile s resumed)
      (hRest : Run meanwhile (onAlarm hAlarm resumed) waits t result) :
      Run meanwhile (.waiting s request alarm onAnswer onAlarm onDrop)
        (⟨s, request, none, resumed⟩ :: waits) t result
  | dropped {s resumed : σ} {request : Request} {alarm : Option Duration}
      {onAnswer : σ → request.Answer → Activity σ α}
      {onAlarm : alarm.isSome = true → σ → Activity σ α} {onDrop : σ → σ}
      (hMeanwhile : meanwhile s resumed) :
      Run meanwhile (.waiting s request alarm onAnswer onAlarm onDrop)
        [⟨s, request, none, resumed⟩] (onDrop resumed) none

/-! ### Runs of single steps -/

theorem run_finished_iff {value : α} {result : Option α} :
    Run meanwhile (finished s value) waits t result ↔
      waits = [] ∧ t = s ∧ result = some value := by
  constructor
  · intro h
    cases h
    exact ⟨rfl, rfl, rfl⟩
  · rintro ⟨rfl, rfl, rfl⟩
    exact .finished t value

/-- A question is answered, or dropped with nothing to do. -/
theorem run_ask_iff {request : Request} {next : σ → request.Answer → Activity σ α}
    {result : Option α} :
    Run meanwhile (ask s request next) waits t result ↔
      ∃ resumed, meanwhile s resumed ∧
        ((waits = [⟨s, request, none, resumed⟩] ∧ t = resumed ∧ result = none) ∨
          ∃ answer more, waits = ⟨s, request, some answer, resumed⟩ :: more ∧
            Run meanwhile (next resumed answer) more t result) := by
  constructor
  · intro h
    cases h with
    | answered answer hMeanwhile hRest => exact ⟨_, hMeanwhile, .inr ⟨answer, _, rfl, hRest⟩⟩
    | alarmed hAlarm => cases hAlarm
    | dropped hMeanwhile => exact ⟨_, hMeanwhile, .inl ⟨rfl, rfl, rfl⟩⟩
  · rintro ⟨resumed, hMeanwhile, ⟨rfl, rfl, rfl⟩ | ⟨answer, more, rfl, hRest⟩⟩
    · exact .dropped hMeanwhile
    · exact .answered answer hMeanwhile hRest

/-! ### Runs of combined activities -/

/-- A continued activity is dropped in its first part, or runs through it and then through the
second. -/
theorem run_bind_iff {activity : Activity σ α} {next : σ → α → Activity σ β} {result : Option β} :
    Run meanwhile (activity.bind next) waits t result ↔
      (result = none ∧ Run meanwhile activity waits t none) ∨
        ∃ first second middle value, waits = first ++ second ∧
          Run meanwhile activity first middle (some value) ∧
          Run meanwhile (next middle value) second t result := by
  -- follow the first activity: where it has finished, the second one begins
  induction activity generalizing waits with
  | finished s value =>
    simp only [bind, run_finished_iff]
    constructor
    · intro h
      exact .inr ⟨[], waits, s, value, rfl, ⟨rfl, rfl, rfl⟩, h⟩
    · rintro (⟨-, -, -, h⟩ | ⟨first, second, middle, value', rfl, ⟨rfl, rfl, h⟩, hRest⟩)
      · cases h
      · obtain rfl := Option.some.inj h
        exact hRest
  | waiting s request alarm onAnswer onAlarm onDrop ihAnswer ihAlarm =>
    constructor
    · intro h
      cases h with
      | answered answer hMeanwhile hRest =>
        rcases (ihAnswer _ _).mp hRest with ⟨rfl, h⟩ | ⟨first, second, middle, value, rfl, h, hNext⟩
        · exact .inl ⟨rfl, .answered answer hMeanwhile h⟩
        · exact .inr ⟨_ :: first, second, middle, value, rfl, .answered answer hMeanwhile h, hNext⟩
      | alarmed hAlarm hMeanwhile hRest =>
        rcases (ihAlarm _ _).mp hRest with ⟨rfl, h⟩ | ⟨first, second, middle, value, rfl, h, hNext⟩
        · exact .inl ⟨rfl, .alarmed hAlarm hMeanwhile h⟩
        · exact .inr ⟨_ :: first, second, middle, value, rfl, .alarmed hAlarm hMeanwhile h, hNext⟩
      | dropped hMeanwhile => exact .inl ⟨rfl, .dropped hMeanwhile⟩
    · rintro (⟨rfl, h⟩ | ⟨first, second, middle, value, rfl, h, hNext⟩)
      · cases h with
        | answered answer hMeanwhile hRest =>
          exact .answered answer hMeanwhile ((ihAnswer _ _).mpr (.inl ⟨rfl, hRest⟩))
        | alarmed hAlarm hMeanwhile hRest =>
          exact .alarmed hAlarm hMeanwhile ((ihAlarm _ _).mpr (.inl ⟨rfl, hRest⟩))
        | dropped hMeanwhile => exact .dropped hMeanwhile
      · cases h with
        | answered answer hMeanwhile hRest =>
          exact .answered answer hMeanwhile
            ((ihAnswer _ _).mpr (.inr ⟨_, second, middle, value, rfl, hRest, hNext⟩))
        | alarmed hAlarm hMeanwhile hRest =>
          exact .alarmed hAlarm hMeanwhile
            ((ihAlarm _ _).mpr (.inr ⟨_, second, middle, value, rfl, hRest, hNext⟩))

/-- Changing the value of an activity changes nothing else. -/
theorem run_map_iff {activity : Activity σ α} {f : α → β} {result : Option β} :
    Run meanwhile (activity.map f) waits t result ↔
      ∃ value, Run meanwhile activity waits t value ∧ result = value.map f := by
  rw [map, run_bind_iff]
  constructor
  · rintro (⟨rfl, h⟩ | ⟨first, second, middle, value, rfl, h, hNext⟩)
    · exact ⟨none, h, rfl⟩
    · obtain ⟨rfl, rfl, rfl⟩ := run_finished_iff.mp hNext
      rw [List.append_nil]
      exact ⟨some value, h, rfl⟩
  · rintro ⟨value, h, rfl⟩
    cases value with
    | none => exact .inl ⟨rfl, h⟩
    | some value =>
      exact .inr ⟨waits, [], t, value, (List.append_nil waits).symm, h, .finished t (f value)⟩

/-- An activity that others depend on is dropped, fails with both, or succeeds and they run. -/
theorem run_andThen_iff {activity : Activity σ (Except ε α)}
    {next : σ → α → Activity σ (Except ε β)} {result : Option (Except ε β)} :
    Run meanwhile (activity.andThen next) waits t result ↔
      (result = none ∧ Run meanwhile activity waits t none) ∨
        (∃ error, result = some (.error error) ∧
          Run meanwhile activity waits t (some (.error error))) ∨
        ∃ first second middle value, waits = first ++ second ∧
          Run meanwhile activity first middle (some (.ok value)) ∧
          Run meanwhile (next middle value) second t result := by
  rw [andThen, run_bind_iff]
  apply or_congr_right
  constructor
  · rintro ⟨first, second, middle, outcome, rfl, hFirst, hSecond⟩
    cases outcome with
    | error error =>
      obtain ⟨rfl, rfl, rfl⟩ := run_finished_iff.mp hSecond
      exact .inl ⟨error, rfl, by rwa [List.append_nil]⟩
    | ok value => exact .inr ⟨first, second, middle, value, rfl, hFirst, hSecond⟩
  · rintro (⟨error, rfl, h⟩ | ⟨first, second, middle, value, rfl, hFirst, hSecond⟩)
    · exact ⟨waits, [], t, .error error, (List.append_nil waits).symm, h, .finished t _⟩
    · exact ⟨first, second, middle, .ok value, rfl, hFirst, hSecond⟩

/-- What is done at the end changes the state in which an activity ends, and nothing else. -/
theorem run_ensuring_iff {activity : Activity σ α} {atEnd : α → σ → σ} {atDrop : σ → σ}
    {result : Option α} :
    Run meanwhile (activity.ensuring atEnd atDrop) waits t result ↔
      ∃ ended, Run meanwhile activity waits ended result ∧
        t = match result with
          | some value => atEnd value ended
          | none => atDrop ended := by
  induction activity generalizing waits with
  | finished s value =>
    simp only [ensuring, run_finished_iff]
    constructor
    · rintro ⟨rfl, rfl, rfl⟩
      exact ⟨s, ⟨rfl, rfl, rfl⟩, rfl⟩
    · rintro ⟨_, ⟨rfl, rfl, rfl⟩, rfl⟩
      exact ⟨rfl, rfl, rfl⟩
  | waiting s request alarm onAnswer onAlarm onDrop ihAnswer ihAlarm =>
    constructor
    · intro h
      cases h with
      | answered answer hMeanwhile hRest =>
        obtain ⟨ended, h, rfl⟩ := (ihAnswer _ _).mp hRest
        exact ⟨ended, .answered answer hMeanwhile h, rfl⟩
      | alarmed hAlarm hMeanwhile hRest =>
        obtain ⟨ended, h, rfl⟩ := (ihAlarm _ _).mp hRest
        exact ⟨ended, .alarmed hAlarm hMeanwhile h, rfl⟩
      | dropped hMeanwhile => exact ⟨_, .dropped hMeanwhile, rfl⟩
    · rintro ⟨ended, h, rfl⟩
      cases h with
      | answered answer hMeanwhile hRest =>
        exact .answered answer hMeanwhile ((ihAnswer _ _).mpr ⟨ended, hRest, rfl⟩)
      | alarmed hAlarm hMeanwhile hRest =>
        exact .alarmed hAlarm hMeanwhile ((ihAlarm _ _).mpr ⟨ended, hRest, rfl⟩)
      | dropped hMeanwhile => exact .dropped hMeanwhile

/-- An activity with a time limit runs as it would without. What ends at the limit is dropped. -/
theorem run_of_within {activity : Activity σ α} {limit : Duration} {result : Option (Option α)}
    (h : Run meanwhile (activity.within limit) waits t result) :
    Run meanwhile activity waits t result.join := by
  induction activity generalizing waits with
  | finished s value =>
    obtain ⟨rfl, rfl, rfl⟩ := run_finished_iff.mp h
    exact .finished t value
  | waiting s request alarm onAnswer onAlarm onDrop ihAnswer ihAlarm =>
    cases alarm with
    | none =>
      cases h with
      | answered answer hMeanwhile hRest => exact .answered answer hMeanwhile (ihAnswer _ _ hRest)
      | alarmed hAlarm hMeanwhile hRest =>
        -- the limit is an alarm at which the activity is dropped
        obtain ⟨rfl, rfl, rfl⟩ := run_finished_iff.mp hRest
        exact .dropped hMeanwhile
      | dropped hMeanwhile => exact .dropped hMeanwhile
    | some alarm =>
      -- the limit comes first, or an alarm that the activity has set
      rw [within] at h
      split at h
      · cases h with
        | answered answer hMeanwhile hRest =>
          exact .answered answer hMeanwhile (ihAnswer _ _ hRest)
        | alarmed hAlarm hMeanwhile hRest =>
          exact .alarmed hAlarm hMeanwhile (ihAlarm _ _ hRest)
        | dropped hMeanwhile => exact .dropped hMeanwhile
      · cases h with
        | answered answer hMeanwhile hRest =>
          exact .answered answer hMeanwhile (ihAnswer _ _ hRest)
        | alarmed hAlarm hMeanwhile hRest =>
          obtain ⟨rfl, rfl, rfl⟩ := run_finished_iff.mp hRest
          exact .dropped hMeanwhile
        | dropped hMeanwhile => exact .dropped hMeanwhile

end Activity

/-! ### Executions under a host -/

section Executions

variable {κ μ α : Type}

/-- The value with which a run ended, unless it was dropped or never ends. -/
def Ending.value : Ending α → Option α
  | finished value => some value
  | dropped => none
  | stuck => none

/-- What happens to a scene while its activity waits under a host: time passes. -/
def Scene.Lasts (before after : Scene κ μ) : Prop :=
  ∃ delay, after = before.mapWorld (World.advance delay)

/-- Whether a wait that was answered got its answer from a host. -/
def Wait.AnsweredBy (host : Host κ) (wait : Wait (Scene κ μ)) : Prop :=
  ∀ answer, wait.answer = some answer →
    ∃ delay, host wait.began.world wait.request = .after delay answer

/-- What comes as an answer is what the host replies. -/
theorem Activity.reply_of_due {request : Request} {now delay : Duration}
    {reply : Reply request.Answer} {alarm cutoff : Option Duration} {answer : request.Answer}
    (h : due now reply alarm cutoff = .answer delay answer) : reply = .after delay answer := by
  unfold due at h
  dsimp only at h
  split at h
  · -- without a reply there is at most an alarm or a drop
    split at h
    · split at h
      · cases h
      · cases h
    · cases h
    · cases h
    · cases h
  · split at h
    · next hStop =>
      split at h
      · cases h
        rfl
      · rw [hStop] at h
        cases h
    · next hStop =>
      split at h
      · cases h
        rfl
      · rw [hStop] at h
        cases h
    · cases h
      rfl

/-- **What is executed under a host is a run**, in which the host gives the answers. Its waits are the
requests of the execution. -/
theorem Activity.exists_answered_run_of_execute (host : Host κ) (cutoff : Option Duration)
    (activity : Activity (Scene κ μ) α) :
    (activity.execute host cutoff).ending = .stuck ∨
      ∃ waits, Run Scene.Lasts activity waits (activity.execute host cutoff).scene
          (activity.execute host cutoff).ending.value ∧
        (∀ wait ∈ waits, wait.AnsweredBy host) ∧
        (activity.execute host cutoff).requests
          = waits.map fun wait => (wait.began, wait.request) := by
  induction activity with
  | finished scene value =>
    exact .inr ⟨[], .finished scene value, fun _ hWait => absurd hWait List.not_mem_nil, rfl⟩
  | waiting scene request alarm onAnswer onAlarm onDrop ihAnswer ihAlarm =>
    simp only [execute]
    split
    · next delay answer hDue =>
      rcases ihAnswer (scene.mapWorld (World.advance delay)) answer with
        h | ⟨waits, hRun, hAnswered, hWaits⟩
      · exact .inl h
      · refine .inr ⟨_ :: waits, .answered answer ⟨delay, rfl⟩ hRun, ?_, ?_⟩
        · refine List.forall_mem_cons.mpr ⟨fun given hGiven => ?_, hAnswered⟩
          obtain rfl := Option.some.inj hGiven
          exact ⟨delay, reply_of_due hDue⟩
        · rw [hWaits, List.map_cons]
    · next delay _ =>
      split
      · next hAlarm =>
        rcases ihAlarm hAlarm (scene.mapWorld (World.advance delay)) with
          h | ⟨waits, hRun, hAnswered, hWaits⟩
        · exact .inl h
        · refine .inr ⟨_ :: waits, .alarmed hAlarm ⟨delay, rfl⟩ hRun, ?_, ?_⟩
          · refine List.forall_mem_cons.mpr ⟨fun given hGiven => ?_, hAnswered⟩
            cases hGiven
          · rw [hWaits, List.map_cons]
      · exact .inl rfl
    · next delay _ =>
      refine .inr ⟨_, .dropped ⟨delay, rfl⟩, List.forall_mem_singleton.mpr ?_, rfl⟩
      intro given hGiven
      cases hGiven
    · exact .inl rfl

/-- **What is executed under a host is a run.** Its waits are the requests of the execution. -/
theorem Activity.exists_run_of_execute (host : Host κ) (cutoff : Option Duration)
    (activity : Activity (Scene κ μ) α) :
    (activity.execute host cutoff).ending = .stuck ∨
      ∃ waits, Run Scene.Lasts activity waits (activity.execute host cutoff).scene
          (activity.execute host cutoff).ending.value ∧
        (activity.execute host cutoff).requests
          = waits.map fun wait => (wait.began, wait.request) := by
  rcases exists_answered_run_of_execute host cutoff activity with h | ⟨waits, hRun, -, hWaits⟩
  · exact .inl h
  · exact .inr ⟨waits, hRun, hWaits⟩

/-! ### Executions with a time limit -/

/-- The ending of an activity under a time limit, of which the activity knows nothing. -/
def Ending.timed : Ending α → Ending (Option α)
  | finished value => .finished (some value)
  | dropped => .finished none
  | stuck => .stuck

/-- **An activity with a time limit runs as one that is dropped at that time**, and ends then. -/
theorem Activity.execute_within (host : Host κ) (limit : Duration)
    (activity : Activity (Scene κ μ) α) :
    (activity.within limit).execute host none =
      ⟨(activity.execute host (some limit)).scene,
        (activity.execute host (some limit)).ending.timed,
        (activity.execute host (some limit)).requests⟩ := by
  induction activity with
  | finished scene value => rfl
  | waiting scene request alarm onAnswer onAlarm onDrop ihAnswer ihAlarm =>
    -- what is due first is the same, but that the limit is an alarm on one side and a drop on the other
    cases alarm with
    | none =>
      simp only [within, execute]
      cases host scene.world request with
      | never => rfl
      | after delay answer =>
        by_cases hDelay : delay.nanos ≤ (delayUntil scene.world.elapsed limit).nanos
        · simp only [due, if_pos hDelay, ihAnswer]
        · simp only [due, if_neg hDelay]
          rfl
    | some alarm =>
      by_cases hFirst : alarm.nanos ≤ limit.nanos
      · simp only [within, if_pos hFirst, execute]
        cases host scene.world request with
        | never => simp only [due, if_pos hFirst, Option.isSome_some, dite_true, ihAlarm]
        | after delay answer =>
          by_cases hDelay : delay.nanos ≤ (delayUntil scene.world.elapsed alarm).nanos
          · simp only [due, if_pos hFirst, if_pos hDelay, ihAnswer]
          · simp only [due, if_pos hFirst, if_neg hDelay, Option.isSome_some, dite_true, ihAlarm]
      · simp only [within, if_neg hFirst, execute]
        cases host scene.world request with
        | never =>
          simp only [due, if_neg hFirst]
          rfl
        | after delay answer =>
          by_cases hDelay : delay.nanos ≤ (delayUntil scene.world.elapsed limit).nanos
          · simp only [due, if_neg hFirst, if_pos hDelay, ihAnswer]
          · simp only [due, if_neg hFirst, if_neg hDelay]
            rfl

/-- Something is due by the time of the drop. -/
theorem Activity.due_ne_nothing {request : Request} (now limit : Duration)
    (reply : Reply request.Answer) (alarm : Option Duration) :
    due now reply alarm (some limit) ≠ .nothing := by
  intro hNothing
  cases alarm with
  | none =>
    cases reply with
    | never => cases hNothing
    | after delay answer =>
      dsimp only [due] at hNothing
      split at hNothing
      · cases hNothing
      · cases hNothing
  | some alarm =>
    by_cases hFirst : alarm.nanos ≤ limit.nanos
    all_goals
      simp only [due, hFirst, if_true, if_false] at hNothing
      cases reply with
      | never => cases hNothing
      | after delay answer =>
        dsimp only at hNothing
        split at hNothing
        · cases hNothing
        · cases hNothing

/-- An activity that is dropped at some time always ends. -/
theorem Activity.execute_ending_ne_stuck (host : Host κ) (limit : Duration)
    (activity : Activity (Scene κ μ) α) :
    (activity.execute host (some limit)).ending ≠ .stuck := by
  induction activity with
  | finished scene value => exact nofun
  | waiting scene request alarm onAnswer onAlarm onDrop ihAnswer ihAlarm =>
    simp only [execute]
    split
    · exact ihAnswer _ _
    · next hDue =>
      split
      · exact ihAlarm _ _
      · next hNone =>
        -- without an alarm there is none that is due
        obtain rfl : alarm = none := Option.not_isSome_iff_eq_none.mp hNone
        cases hReply : host scene.world request with
        | never => rw [hReply] at hDue; cases hDue
        | after delay answer =>
          rw [hReply] at hDue
          simp only [due] at hDue
          split at hDue <;> cases hDue
    · exact nofun
    · next hDue => exact absurd hDue (due_ne_nothing _ limit _ alarm)

/-- **What comes at once after an activity is done with its value.** -/
theorem Activity.execute_bind_finished {β : Type} (host : Host κ) (cutoff : Option Duration)
    (next : Scene κ μ → α → Scene κ μ × β) (activity : Activity (Scene κ μ) α) :
    (activity.bind fun scene value => finished (next scene value).1 (next scene value).2).execute host
        cutoff =
      match (activity.execute host cutoff).ending with
      | .finished value =>
        ⟨(next (activity.execute host cutoff).scene value).1,
          .finished (next (activity.execute host cutoff).scene value).2,
          (activity.execute host cutoff).requests⟩
      | .dropped => ⟨(activity.execute host cutoff).scene, .dropped,
          (activity.execute host cutoff).requests⟩
      | .stuck => ⟨(activity.execute host cutoff).scene, .stuck,
          (activity.execute host cutoff).requests⟩ := by
  induction activity with
  | finished scene value => rfl
  | waiting scene request alarm onAnswer onAlarm onDrop ihAnswer ihAlarm =>
    simp only [bind, execute]
    split
    · rw [ihAnswer]
      split <;> rfl
    · split
      · rw [ihAlarm]
        split <;> rfl
      · rfl
    · rfl
    · rfl

end Executions

end CredentialLease
