import CredentialLease.Proofs.Deployment.Workers
import CredentialLease.Proofs.Token.StoredForm

/-!
# What a worker has bound after any calls

A worker is handed records, at first and again whenever they are handed out again, and is told at times
to drop what it has bound. For the worker there are three kinds of calls. A record whose entry is read
as a token binds the token, one whose entry is absent or reserved changes nothing, and one whose entry
is anything else drops what is bound, just as if the worker was told to
(`WorkerCall.binds_or_keeps_or_drops`).

So what is bound after a history of calls is the token of the last call that did not keep what was
bound, if that call has bound one (`bound_after_eq_some_iff`).

Main statement: `history_determines_token`.
-/

namespace CredentialLease

/-- What a worker can be asked to do. -/
inductive WorkerCall where
  | attach (record : CredentialRecord)
  /-- To read a record that is handed out again. -/
  | update (record : CredentialRecord)
  | detach

namespace WorkerCall

/-- The entry under a key that a call hands to the worker. -/
def entry? (key : String) : WorkerCall → Option (Option String)
  | attach record => some (record.get key)
  | update record => some (record.get key)
  | detach => none

/-- **Whether a call binds a token**: the entry that it hands over is read as the token. -/
def Binds (call : WorkerCall) (key : String) (token : AccessToken) : Prop :=
  ∃ entry, call.entry? key = some entry ∧ AccessToken.decodeStored entry = .ok (some token)

/-- **Whether a call keeps what is bound**: the entry that it hands over is absent or reserved. -/
def Keeps (call : WorkerCall) (key : String) : Prop :=
  ∃ entry, call.entry? key = some entry ∧ (entry = none ∨ entry = some placeholder)

/-- **Whether a call drops what is bound**: it says so, or the entry that it hands over is malformed. -/
def Drops (call : WorkerCall) (key : String) : Prop :=
  call = detach ∨ ∃ entry error, call.entry? key = some entry ∧
    AccessToken.decodeStored entry = .error error

variable {call : WorkerCall} {key : String}

/-- **There are no other calls.** -/
theorem binds_or_keeps_or_drops (call : WorkerCall) (key : String) :
    (∃ token, call.Binds key token) ∨ call.Keeps key ∨ call.Drops key := by
  cases hEntry : call.entry? key with
  | none =>
    cases call with
    | detach => exact .inr (.inr (.inl rfl))
    | _ => cases hEntry
  | some entry =>
    cases hDecode : AccessToken.decodeStored entry with
    | error error => exact .inr (.inr (.inr ⟨entry, error, hEntry, hDecode⟩))
    | ok found =>
      cases found with
      | none => exact .inr (.inl ⟨entry, hEntry, AccessToken.decodeStored_eq_ok_none_iff.mp hDecode⟩)
      | some token => exact .inl ⟨token, entry, hEntry, hDecode⟩

/-- **Whether calls leave a token bound**: one of them binds it, and all later ones keep what is
bound. -/
def LeaveBound (calls : List WorkerCall) (key : String) (token : AccessToken) : Prop :=
  ∃ before call later, calls = before ++ call :: later ∧ call.Binds key token ∧
    ∀ other ∈ later, other.Keeps key

/-- The first of the calls leaves a token bound if the others keep it. -/
theorem leaveBound_cons_iff {calls : List WorkerCall} {token : AccessToken} :
    LeaveBound (call :: calls) key token ↔ LeaveBound calls key token ∨
      call.Binds key token ∧ ∀ other ∈ calls, other.Keeps key := by
  constructor
  · rintro ⟨before, binding, later, hCalls, hBinds, hLater⟩
    cases before with
    | nil =>
      obtain ⟨rfl, rfl⟩ := List.cons.inj hCalls
      exact .inr ⟨hBinds, hLater⟩
    | cons first before =>
      obtain ⟨-, rfl⟩ := List.cons.inj hCalls
      exact .inl ⟨before, binding, later, rfl, hBinds, hLater⟩
  · rintro (⟨before, binding, later, rfl, hBinds, hLater⟩ | ⟨hBinds, hLater⟩)
    · exact ⟨call :: before, binding, later, rfl, hBinds, hLater⟩
    · exact ⟨[], call, calls, rfl, hBinds, hLater⟩

end WorkerCall

namespace WorkerCredentials

variable {worker : WorkerCredentials} {call other : WorkerCall} {calls others later : List WorkerCall}
  {token : AccessToken}

/-! ### One call -/

/-- The worker after it has served a call. -/
def serve (worker : WorkerCredentials) : WorkerCall → WorkerCredentials
  | .attach record => (worker.attach record).1
  | .update record => (worker.update record).1
  | .detach => worker.detach

theorem serve_key : (worker.serve call).key = worker.key := by
  cases call with
  | attach record => exact attach_key
  | update record => exact attach_key
  | detach => rfl

/-- What a worker has bound after it has read a record. -/
theorem bound_attach_eq (record : CredentialRecord) : (worker.attach record).1.bound =
    match AccessToken.decodeStored (record.get worker.key) with
      | .ok (some token) => some token
      | .ok none => worker.bound
      | .error _ => none := by
  rw [attach, find]
  rcases AccessToken.decodeStored (record.get worker.key) with error | _ | token
  · rfl
  · rfl
  · rfl

/-- What a worker has bound after a call that hands it an entry. -/
theorem bound_serve {entry : Option String} (hEntry : call.entry? worker.key = some entry) :
    (worker.serve call).bound = match AccessToken.decodeStored entry with
      | .ok (some token) => some token
      | .ok none => worker.bound
      | .error _ => none := by
  cases call with
  | attach record =>
    obtain rfl := Option.some.inj hEntry
    exact bound_attach_eq record
  | update record =>
    obtain rfl := Option.some.inj hEntry
    exact bound_attach_eq record
  | detach => cases hEntry

/-- **A worker has bound nothing after a call that drops what is bound.** -/
theorem bound_serve_of_drops (h : call.Drops worker.key) : (worker.serve call).bound = none := by
  obtain rfl | ⟨entry, error, hEntry, hDecode⟩ := h
  · rfl
  · rw [bound_serve hEntry, hDecode]

/-- **What one call does**: afterwards a token is bound exactly if the call has bound it, or if it was
bound before and the call keeps it. -/
theorem bound_serve_eq_some_iff : (worker.serve call).bound = some token ↔
    call.Binds worker.key token ∨ call.Keeps worker.key ∧ worker.bound = some token := by
  constructor
  · intro hBound
    rcases call.binds_or_keeps_or_drops worker.key with
      ⟨found, entry, hEntry, hDecode⟩ | hKeeps | hDrops
    · rw [bound_serve hEntry, hDecode] at hBound
      obtain rfl := Option.some.inj hBound
      exact .inl ⟨entry, hEntry, hDecode⟩
    · obtain ⟨entry, hEntry, hNone⟩ := hKeeps
      rw [bound_serve hEntry, AccessToken.decodeStored_eq_ok_none_iff.mpr hNone] at hBound
      exact .inr ⟨⟨entry, hEntry, hNone⟩, hBound⟩
    · rw [bound_serve_of_drops hDrops] at hBound
      cases hBound
  · rintro (⟨entry, hEntry, hDecode⟩ | ⟨⟨entry, hEntry, hNone⟩, hBound⟩)
    · rw [bound_serve hEntry, hDecode]
    · rw [bound_serve hEntry, AccessToken.decodeStored_eq_ok_none_iff.mpr hNone]
      exact hBound

/-- What a call does depends on the entry of the worker only. -/
theorem serve_congr (h : call.entry? worker.key = other.entry? worker.key) :
    worker.serve call = worker.serve other := by
  have hBound : (worker.serve call).bound = (worker.serve other).bound := by
    refine Option.ext fun token => ?_
    rw [bound_serve_eq_some_iff, bound_serve_eq_some_iff, WorkerCall.Binds, WorkerCall.Binds,
      WorkerCall.Keeps, WorkerCall.Keeps, h]
  have hKey : (worker.serve call).key = (worker.serve other).key := serve_key.trans serve_key.symm
  calc worker.serve call = ⟨(worker.serve call).key, (worker.serve call).bound⟩ := rfl
    _ = ⟨(worker.serve other).key, (worker.serve other).bound⟩ := by rw [hKey, hBound]
    _ = worker.serve other := rfl

/-! ### A history of calls -/

/-- The worker after calls, one after another. -/
def after (worker : WorkerCredentials) (calls : List WorkerCall) : WorkerCredentials :=
  calls.foldl serve worker

theorem after_key : (worker.after calls).key = worker.key := by
  induction calls generalizing worker with
  | nil => rfl
  | cons first calls ih => exact ih.trans serve_key

theorem after_append : worker.after (calls ++ later) = (worker.after calls).after later :=
  List.foldl_append

/-- **What a history of calls does**, whatever the worker had bound before: afterwards a token is bound
exactly if the calls leave it bound, or if it was bound before and all of them keep it. -/
theorem bound_after_eq_some_iff : (worker.after calls).bound = some token ↔
    WorkerCall.LeaveBound calls worker.key token ∨
      (∀ call ∈ calls, call.Keeps worker.key) ∧ worker.bound = some token := by
  induction calls generalizing worker with
  | nil =>
    constructor
    · intro hBound
      exact .inr ⟨nofun, hBound⟩
    · rintro (⟨before, call, later, hCalls, -⟩ | ⟨-, hBound⟩)
      · exact absurd hCalls (by simp)
      · exact hBound
  | cons first calls ih =>
    have hFirst : worker.after (first :: calls) = (worker.serve first).after calls := rfl
    rw [hFirst, ih, serve_key, bound_serve_eq_some_iff, WorkerCall.leaveBound_cons_iff, List.forall_mem_cons]
    tauto

/-- **A token that is bound later and was not bound before** is that of a call in between. -/
theorem exists_binds_of_bound_after (hBefore : worker.bound ≠ some token)
    (hAfter : (worker.after calls).bound = some token) :
    ∃ call ∈ calls, call.Binds worker.key token := by
  obtain ⟨before, call, later, rfl, hBinds, -⟩ | ⟨-, hBound⟩ := bound_after_eq_some_iff.mp hAfter
  · exact ⟨call, List.mem_append_right before List.mem_cons_self, hBinds⟩
  · exact absurd hBound hBefore

/-- What calls do depends on the entries of the worker only. -/
theorem after_congr (h : calls.map (WorkerCall.entry? worker.key) =
    others.map (WorkerCall.entry? worker.key)) : worker.after calls = worker.after others := by
  induction calls generalizing worker others with
  | nil =>
    obtain rfl := List.map_eq_nil_iff.mp h.symm
    rfl
  | cons first calls ih =>
    cases others with
    | nil => cases h
    | cons other others =>
      obtain ⟨hFirst, hRest⟩ := List.cons.inj h
      have hSame := serve_congr hFirst
      calc worker.after (first :: calls) = (worker.serve first).after calls := rfl
        _ = (worker.serve first).after others := ih (by rwa [serve_key])
        _ = (worker.serve other).after others := by rw [hSame]

/-- **What a worker has bound after any history of calls**, whatever the records. A token is bound exactly
if some call has handed over an entry that is read as this token, and every later call an entry that is
absent or reserved; if there is no such token, nothing is bound. So nothing is bound after a call that
hands over a malformed entry or tells the worker to drop what is bound. A token that is not bound after
some calls can only be bound after more if one of these has handed it over again. Entries under other
keys never matter: two histories with the same entries under the key of the worker leave it with the
same token. -/
theorem history_determines_token (key : String) (calls : List WorkerCall) :
    ((ofKey key).after calls).key = key ∧
    (∀ token, ((ofKey key).after calls).bound = some token ↔ WorkerCall.LeaveBound calls key token) ∧
    (((ofKey key).after calls).bound = none ↔ ∀ token, ¬ WorkerCall.LeaveBound calls key token) ∧
    (∀ last : WorkerCall, last.Drops key → ((ofKey key).after (calls ++ [last])).bound = none) ∧
    (∀ later token, ((ofKey key).after calls).bound ≠ some token →
      ((ofKey key).after (calls ++ later)).bound = some token → ∃ call ∈ later, call.Binds key token) ∧
    (∀ others, others.map (WorkerCall.entry? key) = calls.map (WorkerCall.entry? key) →
      ((ofKey key).after others).bound = ((ofKey key).after calls).bound) := by
  have hKey : ((ofKey key).after calls).key = key := after_key
  have hBound (token : AccessToken) : ((ofKey key).after calls).bound = some token ↔
      WorkerCall.LeaveBound calls key token :=
    bound_after_eq_some_iff.trans (or_iff_left fun h => nomatch h.2)
  refine ⟨hKey, hBound, ?_, fun last hDrops => ?_, fun later token hBefore hAfter => ?_,
    fun others hSame => ?_⟩
  · rw [Option.eq_none_iff_forall_ne_some]
    exact forall_congr' fun token => not_congr (hBound token)
  · rw [after_append]
    exact bound_serve_of_drops (hKey.symm ▸ hDrops)
  · rw [after_append] at hAfter
    rw [← hKey]
    exact exists_binds_of_bound_after hBefore hAfter
  · rw [after_congr hSame]

/-- A token that has been dropped is followed by another one, which a reserved entry keeps. -/
theorem history_determines_token_replaced :
    ∃ first second : AccessToken, first.name = "lease-1" ∧ second.name = "lease-2" ∧
      ((ofKey "key").after [.attach (.put .empty "key" first.encode), .detach,
        .update (.put .empty "key" second.encode), .update (.put .empty "key" placeholder)]).bound
          = some second := by
  have hDecode : AccessToken.decodeStored (some (AccessToken.encode
      ⟨"lease-2", ⟨[]⟩, 0, 2000, by decide, by decide, by decide⟩)) = .ok (some
        ⟨"lease-2", ⟨[]⟩, 0, 2000, by decide, by decide, by decide⟩) :=
    AccessToken.decodeStored_encode (by decide)
  refine ⟨⟨"lease-1", ⟨[]⟩, 0, 1000, by decide, by decide, by decide⟩, _, rfl, rfl,
    ((history_determines_token "key" _).2.1 _).mpr
      ⟨[.attach _, .detach], .update _, [.update _], rfl, ⟨_, rfl, hDecode⟩, ?_⟩⟩
  intro other hOther
  obtain rfl := List.mem_singleton.mp hOther
  exact ⟨some placeholder, rfl, .inr rfl⟩

end WorkerCredentials

end CredentialLease
