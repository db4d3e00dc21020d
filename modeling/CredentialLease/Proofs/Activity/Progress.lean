import CredentialLease.Proofs.Activity.Run

/-!
# What is left of an activity, and what it leaves alone

`Reaches meanwhile start waits rest` says that after these waits `rest` is left of an activity. A
run of what is left completes a run of the whole (`Reaches.run`), so what is known of complete runs
can be used of an activity that is still under way among others.

`LeavesAlone f s activity` says that an activity that starts in the state `s` never changes `f` of
the state itself: between two waits it is as it was found, whatever others do to it meanwhile. This
is kept by all ways to combine activities.
-/

namespace CredentialLease.Activity

variable {σ τ α β ε : Type} {meanwhile : σ → σ → Prop} {waits : List (Wait σ)} {s t : σ}

/-! ### Activities under way -/

/-- **What is left of an activity after some waits.** -/
inductive Reaches (meanwhile : σ → σ → Prop) (start : Activity σ α) :
    List (Wait σ) → Activity σ α → Prop where
  | start : Reaches meanwhile start [] start
  | answered {s resumed : σ} {request : Request} {alarm : Option Duration}
      {onAnswer : σ → request.Answer → Activity σ α}
      {onAlarm : alarm.isSome = true → σ → Activity σ α} {onDrop : σ → σ} {waits : List (Wait σ)}
      (h : Reaches meanwhile start waits (.waiting s request alarm onAnswer onAlarm onDrop))
      (answer : request.Answer) (hMeanwhile : meanwhile s resumed) :
      Reaches meanwhile start (waits ++ [⟨s, request, some answer, resumed⟩])
        (onAnswer resumed answer)
  | alarmed {s resumed : σ} {request : Request} {alarm : Option Duration}
      {onAnswer : σ → request.Answer → Activity σ α}
      {onAlarm : alarm.isSome = true → σ → Activity σ α} {onDrop : σ → σ} {waits : List (Wait σ)}
      (h : Reaches meanwhile start waits (.waiting s request alarm onAnswer onAlarm onDrop))
      (hAlarm : alarm.isSome = true) (hMeanwhile : meanwhile s resumed) :
      Reaches meanwhile start (waits ++ [⟨s, request, none, resumed⟩]) (onAlarm hAlarm resumed)

/-- **A run of what is left of an activity completes a run of the whole.** -/
theorem Reaches.run {start rest : Activity σ α} {more : List (Wait σ)} {result : Option α}
    (h : Reaches meanwhile start waits rest) (hRest : Run meanwhile rest more t result) :
    Run meanwhile start (waits ++ more) t result := by
  induction h generalizing more with
  | start => exact hRest
  | answered _ answer hMeanwhile ih =>
    rw [List.append_assoc, List.singleton_append]
    exact ih (.answered answer hMeanwhile hRest)
  | alarmed _ hAlarm hMeanwhile ih =>
    rw [List.append_assoc, List.singleton_append]
    exact ih (.alarmed hAlarm hMeanwhile hRest)

/-- Where nothing need happen meanwhile, what is left can be dropped at once. -/
theorem Reaches.run_dropped {start : Activity σ α} {request : Request} {alarm : Option Duration}
    {onAnswer : σ → request.Answer → Activity σ α}
    {onAlarm : alarm.isSome = true → σ → Activity σ α} {onDrop : σ → σ}
    (h : Reaches meanwhile start waits (.waiting s request alarm onAnswer onAlarm onDrop))
    (hStays : meanwhile s s) :
    Run meanwhile start (waits ++ [⟨s, request, none, s⟩]) (onDrop s) none :=
  h.run (.dropped hStays)

/-- A run is one also where more may happen meanwhile. -/
theorem Run.mono {others : σ → σ → Prop} {activity : Activity σ α} {result : Option α}
    (hMore : ∀ before after, meanwhile before after → others before after)
    (h : Run meanwhile activity waits t result) : Run others activity waits t result := by
  induction h with
  | finished s value => exact .finished s value
  | answered answer hMeanwhile _ ih => exact .answered answer (hMore _ _ hMeanwhile) ih
  | alarmed hAlarm hMeanwhile _ ih => exact .alarmed hAlarm (hMore _ _ hMeanwhile) ih
  | dropped hMeanwhile => exact .dropped (hMore _ _ hMeanwhile)

/-- Others do nothing but what they may while an activity waits. -/
theorem Run.forall_meanwhile {activity : Activity σ α} {result : Option α}
    (h : Run meanwhile activity waits t result) :
    ∀ wait ∈ waits, meanwhile wait.began wait.resumed := by
  induction h with
  | finished s value =>
    intro wait hWait
    cases hWait
  | answered answer hMeanwhile _ ih => exact List.forall_mem_cons.mpr ⟨hMeanwhile, ih⟩
  | alarmed hAlarm hMeanwhile _ ih => exact List.forall_mem_cons.mpr ⟨hMeanwhile, ih⟩
  | dropped hMeanwhile => exact List.forall_mem_singleton.mpr hMeanwhile

/-- A run in which every wait is answered is one also under a time limit, which may come late. -/
theorem Run.within {activity : Activity σ α} {value : α} {limit : Duration}
    (h : Run meanwhile activity waits t (some value))
    (hAnswered : ∀ wait ∈ waits, wait.answer.isSome = true) :
    Run meanwhile (activity.within limit) waits t (some (some value)) := by
  generalize hResult : some value = result at h
  induction h with
  | finished s found =>
    obtain rfl := Option.some.inj hResult
    exact .finished s (some value)
  | @answered s resumed _ request alarm onAnswer onAlarm onDrop waits _ answer hMeanwhile _ ih =>
    have hRest := ih (fun wait hWait => hAnswered wait (List.mem_cons_of_mem _ hWait)) hResult
    cases alarm with
    | none => exact .answered answer hMeanwhile hRest
    | some alarm =>
      rw [Activity.within]
      split
      · exact .answered answer hMeanwhile hRest
      · exact .answered answer hMeanwhile hRest
  | alarmed hAlarm _ _ =>
    have hNever := hAnswered _ List.mem_cons_self
    cases hNever
  | dropped _ => cases hResult

/-! ### What an activity finds and leaves -/

/-- The state in which an activity last went on, or in which it started. -/
def wentOn : σ → List (Wait σ) → σ
  | s, [] => s
  | _, wait :: waits => wentOn wait.resumed waits

theorem wentOn_concat {wait : Wait σ} : wentOn s (waits ++ [wait]) = wait.resumed := by
  induction waits generalizing s with
  | nil => rfl
  | cons other waits ih => exact ih

/-- Whether `f` of the state is, at the beginning of every wait and at the end, what it was when the
activity last went on. -/
def Untouched (f : σ → τ) (s : σ) : List (Wait σ) → σ → Prop
  | [], t => f t = f s
  | wait :: waits, t => f wait.began = f s ∧ Untouched f wait.resumed waits t

namespace Untouched

variable {f : σ → τ} {first second : List (Wait σ)} {wait : Wait σ} {u : σ}

theorem of_eq (h : Untouched f t waits u) (hSame : f t = f s) : Untouched f s waits u := by
  cases waits with
  | nil => exact Eq.trans h hSame
  | cons wait waits => exact ⟨h.1.trans hSame, h.2⟩

theorem append (h : Untouched f s first t) (hSecond : Untouched f t second u) :
    Untouched f s (first ++ second) u := by
  induction first generalizing s with
  | nil => exact hSecond.of_eq h
  | cons wait first ih => exact ⟨h.1, ih h.2⟩

/-- At any wait the way can be cut in two. -/
theorem append_cons_iff :
    Untouched f s (first ++ wait :: second) t ↔
      Untouched f s first wait.began ∧ Untouched f wait.resumed second t := by
  induction first generalizing s with
  | nil => exact Iff.rfl
  | cons other first ih =>
    rw [List.cons_append, Untouched, Untouched, ih, and_assoc]

theorem concat_iff :
    Untouched f s (first ++ [wait]) t ↔ Untouched f s first wait.began ∧ f t = f wait.resumed :=
  append_cons_iff

/-- At the end it is what it was when the activity last went on. -/
theorem eq_wentOn (h : Untouched f s first t) : f t = f (wentOn s first) := by
  induction first generalizing s with
  | nil => exact h
  | cons wait first ih => exact ih h.2

/-- **What others keep is still there at the end.** -/
theorem kept {P : τ → Prop} (h : Untouched f s first t)
    (hOthers : ∀ wait ∈ first, P (f wait.began) → P (f wait.resumed)) (hStart : P (f s)) :
    P (f t) := by
  induction first generalizing s with
  | nil => exact Eq.mpr (congrArg P h) hStart
  | cons wait first ih =>
    obtain ⟨hWait, hOthers⟩ := List.forall_mem_cons.mp hOthers
    exact ih h.2 hOthers (hWait (Eq.mpr (congrArg P h.1) hStart))

end Untouched

/-- **Whether an activity never changes `f` of the state itself**, when it starts in a state. -/
def LeavesAlone (f : σ → τ) (s : σ) (activity : Activity σ α) : Prop :=
  ∀ ⦃meanwhile : σ → σ → Prop⦄ ⦃waits : List (Wait σ)⦄ ⦃t : σ⦄ ⦃result : Option α⦄,
    Run meanwhile activity waits t result → Untouched f s waits t

section Combining

variable {f : σ → τ}

theorem leavesAlone_finished {value : α} (h : f t = f s) : LeavesAlone f s (finished t value) := by
  intro meanwhile waits u result hRun
  obtain ⟨rfl, rfl, rfl⟩ := run_finished_iff.mp hRun
  exact h

theorem leavesAlone_ask {request : Request} {next : σ → request.Answer → Activity σ α}
    (h : f t = f s) (hNext : ∀ u answer, LeavesAlone f u (next u answer)) :
    LeavesAlone f s (ask t request next) := by
  intro meanwhile waits u result hRun
  obtain ⟨resumed, -, ⟨rfl, rfl, rfl⟩ | ⟨answer, more, rfl, hRest⟩⟩ := run_ask_iff.mp hRun
  · exact ⟨h, rfl⟩
  · exact ⟨h, hNext resumed answer hRest⟩

theorem LeavesAlone.of_eq {activity : Activity σ α} (h : LeavesAlone f t activity)
    (hSame : f t = f s) : LeavesAlone f s activity :=
  fun _ _ _ _ hRun => (h hRun).of_eq hSame

theorem LeavesAlone.bind {activity : Activity σ α} {next : σ → α → Activity σ β}
    (h : LeavesAlone f s activity) (hNext : ∀ u value, LeavesAlone f u (next u value)) :
    LeavesAlone f s (activity.bind next) := by
  intro meanwhile waits u result hRun
  rcases run_bind_iff.mp hRun with
    ⟨rfl, hFirst⟩ | ⟨first, second, middle, value, rfl, hFirst, hSecond⟩
  · exact h hFirst
  · exact (h hFirst).append (hNext middle value hSecond)

theorem LeavesAlone.map {activity : Activity σ α} (g : α → β) (h : LeavesAlone f s activity) :
    LeavesAlone f s (activity.map g) :=
  h.bind fun _ _ => leavesAlone_finished rfl

theorem LeavesAlone.andThen {activity : Activity σ (Except ε α)}
    {next : σ → α → Activity σ (Except ε β)} (h : LeavesAlone f s activity)
    (hNext : ∀ u value, LeavesAlone f u (next u value)) :
    LeavesAlone f s (activity.andThen next) := by
  refine h.bind fun u result => ?_
  cases result with
  | error error => exact leavesAlone_finished rfl
  | ok value => exact hNext u value

theorem LeavesAlone.ensuring {activity : Activity σ α} {atEnd : α → σ → σ} {atDrop : σ → σ}
    (h : LeavesAlone f s activity) (hEnd : ∀ value u, f (atEnd value u) = f u)
    (hDrop : ∀ u, f (atDrop u) = f u) : LeavesAlone f s (activity.ensuring atEnd atDrop) := by
  intro meanwhile waits u result hRun
  obtain ⟨ended, hInner, rfl⟩ := run_ensuring_iff.mp hRun
  have hEnded := h hInner
  -- what is done at the end or at the drop comes after the last wait
  rw [← List.append_nil waits]
  cases result with
  | none => exact hEnded.append (hDrop ended)
  | some value => exact hEnded.append (hEnd value ended)

theorem LeavesAlone.within {activity : Activity σ α} {limit : Duration}
    (h : LeavesAlone f s activity) : LeavesAlone f s (activity.within limit) :=
  fun _ _ _ _ hRun => h (run_of_within hRun)

end Combining

end CredentialLease.Activity
