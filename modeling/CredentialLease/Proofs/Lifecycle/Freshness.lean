import CredentialLease.Proofs.Lifecycle.Publishing
import CredentialLease.Proofs.Record.FileKeeping
import CredentialLease.Proofs.Renewal.ExactRule

/-!
# A stored token does not expire while the ticks succeed

After a tick that succeeds, the entry of the manager holds a token that lasts for at least the
renewal window from the end of the tick on (`SuccessfulTick.lasts`). Either it was not due, or the
endpoint has just granted it, for a lifetime that is longer than the window by the millisecond that
its expiry may lose. So ticks that succeed in a row and are no further apart than the window leave no
gap. In the other direction, a tick that finds a token which is not due does nothing at all
(`isQuiet_of_lasts`), so none is renewed too early.

All this holds for every store that keeps what is saved in it; where that is a file, the file is read
as a record with such a token after each tick (`SuccessfulTick.load_file`).

The endpoint has to grant secrets whose length fits in its field of the stored form. A tick stores a
longer one too, and it cannot be read back (`exists_unreadable_after_tick`).

Main statement: `never_expires`.
-/

namespace CredentialLease

/-! ### When a token is due -/

/-- Whether an instant can be told in whole milliseconds since the epoch. -/
def Instant.IsDatable (t : Instant) : Prop :=
  0 ≤ t.nanos ∧ t.nanos < (2 ^ 64 * Duration.nanosPerMilli : Nat)

instance (t : Instant) : Decidable t.IsDatable := inferInstanceAs (Decidable (_ ∧ _))

/-- An instant loses less than a millisecond when it is told in whole milliseconds. -/
theorem Instant.lt_ofEpochMillis_toEpochMillis {t : Instant} (h : t.IsDatable) :
    t.nanos < (Instant.ofEpochMillis t.toEpochMillis).nanos + Duration.nanosPerMilli := by
  have hWord := toNat_toEpochMillis h.2
  show t.nanos < ((t.toEpochMillis.toNat * 1000000 : Nat) : Int) + (1000000 : Nat)
  omega

/-- A clock can hold the expiry of every token. -/
theorem AccessToken.representable_expiresAt (token : AccessToken) :
    token.expiresAt.Representable := by
  have hWord := token.expires.toNat_lt
  have hNanos : token.expiresAt.nanos = ((token.expires.toNat * 1000000 : Nat) : Int) := rfl
  have hEarliest : Instant.earliest.nanos = -9223372036854775808 * 1000000000 := rfl
  have hLatest : Instant.latest.nanos = 9223372036854775807 * 1000000000 + 999999999 := rfl
  constructor <;> omega

/-- **A token is not due as long as the window ends before it expires.** -/
theorem RenewalWindow.renews_decide_eq_false_iff {lead : Duration} {now : Instant}
    {token : AccessToken} :
    ((configured lead).decide now token.expiresAt).renews = false
      ↔ now.plus lead ≤ token.expiresAt := by
  rw [renews_eq_false_iff token.representable_expiresAt]
  constructor
  · rintro ⟨_, hLead, hEnds⟩
    cases hLead
    exact hEnds
  · intro hEnds
    exact ⟨lead, rfl, hEnds⟩

/-! ### What the endpoint grants -/

variable {κ μ : Type}

/-- Whether a wait in which the endpoint issues a token takes no time, and the token is one of those
that it may grant, with the expiry at the end of a lifetime from then on, to the millisecond. -/
def Wait.Grants (lifetime : Duration) (granted : AccessToken → Prop) (wait : Wait (Scene κ μ)) :
    Prop :=
  ∀ (began resumed : Scene κ μ) (context : AuthenticatedContext) (request : IssueRequest)
    (token : AccessToken),
    wait = ⟨began, .issue context request, some (Except.ok token : Except Failure AccessToken),
      resumed⟩ →
    resumed.world.now = began.world.now ∧ (began.world.now.plus lifetime).IsDatable ∧
    token.expires = (began.world.now.plus lifetime).toEpochMillis ∧ granted token

/-- Where a manager obtains a token that expires at the end of a lifetime, the endpoint grants it. -/
theorem LifecycleManager.grants_of_mem_obtaining {manager : LifecycleManager κ}
    {scene loggedIn : Scene κ CredentialState} {token : AccessToken} {lifetime : Duration}
    {granted : AccessToken → Prop} {wait : Wait (Scene κ CredentialState)}
    (hWait : wait ∈ manager.obtaining scene loggedIn token)
    (hDatable : (loggedIn.world.now.plus lifetime).IsDatable)
    (hExpires : token.expires = (loggedIn.world.now.plus lifetime).toEpochMillis)
    (hGranted : granted token) : wait.Grants lifetime granted := by
  intro began resumed context request issued h
  rw [obtaining, List.mem_cons, List.mem_singleton] at hWait
  rcases hWait with rfl | rfl
  · cases h
  · cases h
    exact ⟨rfl, hDatable, hExpires, hGranted⟩

/-- What others do to a scene while a tick waits: neither the record nor what the storage holds is
changed. -/
def Scene.Undisturbed (holds : κ → CredentialRecord → Prop) (before after : Scene κ μ) : Prop :=
  before.KeepsRecord after ∧ before.world.Undisturbed holds after.world

namespace Renewer

variable {renewer : Renewer κ CredentialState} {manager : LifecycleManager κ}
  {holds : κ → CredentialRecord → Prop} {lead lifetime : Duration} {granted : AccessToken → Prop}
  {scene t : Scene κ CredentialState} {loaded : CredentialRecord}
  {waits : List (Wait (Scene κ CredentialState))}

/-! ### Ticks that succeed -/

section Ticks

variable {began ended : Scene κ CredentialState}

/-- **A tick that succeeds** with an endpoint that takes no time and grants tokens of a lifetime,
while nobody else writes to the storage. -/
def SuccessfulTick (renewer : Renewer κ CredentialState) (holds : κ → CredentialRecord → Prop)
    (lifetime : Duration) (granted : AccessToken → Prop) (began ended : Scene κ CredentialState) :
    Prop :=
  ∃ waits outcome, Activity.Run (Scene.Undisturbed holds) (renewer.tick began) waits ended
      (some (.ok outcome)) ∧
    ∀ wait ∈ waits, wait.Grants lifetime granted

/-- Whether the entry of a manager in what is stored holds a token until an instant. -/
def LastsUntil (holds : κ → CredentialRecord → Prop) (key : String) (storage : κ) (x : Instant) :
    Prop :=
  ∃ record token, holds storage record ∧
    AccessToken.decodeStored (record.get key) = .ok (some token) ∧ x ≤ token.expiresAt

theorem LastsUntil.mono {key : String} {storage : κ} {x y : Instant}
    (h : LastsUntil holds key storage y) (hLe : x ≤ y) : LastsUntil holds key storage x := by
  obtain ⟨record, token, hHolds, hEntry, hLasts⟩ := h
  exact ⟨record, token, hHolds, hEntry, Int.le_trans hLe hLasts⟩

/-- A token that was just granted lasts for longer than the window. -/
theorem plus_le_expiresAt_of_obtains {token : AccessToken}
    (hLifetime : lead.nanos + Duration.nanosPerMilli ≤ lifetime.nanos)
    (hObtains : manager.Obtains waits token)
    (hGrants : ∀ wait ∈ waits, wait.Grants lifetime granted)
    (hUntouched : Activity.Untouched Scene.surroundings scene waits ended) :
    ended.world.now.plus lead ≤ token.expiresAt ∧ granted token := by
  obtain ⟨began, loggedIn, calling, answered, identity, context, request, rfl, -, -⟩ := hObtains
  obtain ⟨-, -, hEnd⟩ := hUntouched
  obtain ⟨hNow, hDatable, hExpires, hGranted⟩ :=
    hGrants _ (List.mem_cons_of_mem _ List.mem_cons_self) calling answered context request token rfl
  refine ⟨?_, hGranted⟩
  -- the work ends at the instant at which the token was granted
  have hEnded : ended.world.now = calling.world.now :=
    (congrArg Prod.fst hEnd).trans hNow
  have hLost := Instant.lt_ofEpochMillis_toEpochMillis hDatable
  rw [← hExpires] at hLost
  have hLost : calling.world.now.nanos + lifetime.nanos
      < token.expiresAt.nanos + Duration.nanosPerMilli := hLost
  rw [hEnded]
  show calling.world.now.nanos + (lead.nanos : Int) ≤ token.expiresAt.nanos
  omega

/-- **After a tick that succeeds, the stored token lasts for the renewal window.** -/
theorem SuccessfulTick.lasts (h : SuccessfulTick renewer holds lifetime granted began ended)
    (hIssuer : renewer.issuer = manager.issuer) (hKeeps : renewer.store.Keeps holds)
    (hWindow : manager.settings.renewalWindow = .configured lead)
    (hLifetime : lead.nanos + Duration.nanosPerMilli ≤ lifetime.nanos)
    (hSecrets : ∀ token, granted token → token.secret.length < 2 ^ 32)
    (hHolds : ∀ loaded, renewer.store.load began.world.storage = .ok loaded →
      holds began.world.storage loaded) :
    LastsUntil holds manager.key ended.world.storage (ended.world.now.plus lead) := by
  obtain ⟨waits, outcome, hRun, hGrants⟩ := h
  cases hLoad : renewer.store.load began.world.storage with
  | error failure =>
    rw [tick_of_load_error hLoad] at hRun
    cases hRun
  | ok loaded =>
    have hAlone := hRun.mono fun _ _ hMeanwhile => hMeanwhile.1
    obtain ⟨hNone, -⟩ | ⟨worked, came, _, hAnswer, hWork, hPublishes⟩ := run_tick hLoad hAlone
    · cases hNone
    obtain rfl := Option.some.inj hAnswer
    have hUntouched : Activity.Untouched Scene.surroundings began waits worked :=
      (leavesAlone_work hIssuer (run_work_iff.mpr hWork)).of_eq rfl
    -- nobody else writes, so what was loaded is still there when the work ends
    have hHeld : holds worked.world.storage loaded :=
      hUntouched.kept (P := fun around => holds around.2.2 loaded)
        (fun wait hWait => (hRun.forall_meanwhile wait hWait).2 loaded)
        (hHolds loaded hLoad)
    have hStored := hPublishes.holds_record hKeeps ⟨_, hHeld⟩ fun _ => hHeld
    rw [hPublishes.record] at hStored
    rw [hPublishes.came_eq_ok] at hWork
    rcases hWork.of_manager hIssuer with
      ⟨token, hEntry, hNotDue, rfl, hRecord, hWorld, -⟩ | ⟨start, hStart, hStore⟩
    · rw [hWindow, RenewalWindow.renews_decide_eq_false_iff] at hNotDue
      rw [hPublishes.now, hWorld]
      rw [hRecord] at hStored
      exact ⟨loaded, token, hStored, hEntry, hNotDue⟩
    · cases hStore with
      | stored hAsked hRecord hWorld =>
        obtain ⟨-, -, hObtains⟩ := LifecycleManager.run_acquire hAsked
        obtain ⟨hLasts, hGranted⟩ :=
          plus_le_expiresAt_of_obtains hLifetime (hObtains _ rfl) hGrants hUntouched
        rw [hPublishes.now]
        refine ⟨worked.record, _, hStored, ?_, hLasts⟩
        rw [hRecord, CredentialRecord.get_put_self]
        exact AccessToken.decodeStored_encode (hSecrets _ hGranted)

end Ticks

/-- **After a tick over a file that succeeds, the file is read as a record with such a token.** The
path never goes up, and others may do what they like with the rest of the disk. -/
theorem SuccessfulTick.load_file {renewer : Renewer Disk CredentialState}
    {manager : LifecycleManager Disk} {began ended : Scene Disk CredentialState} {path : String}
    {room : Disk → Option Nat}
    (h : SuccessfulTick renewer (FileStore.Holds path) lifetime granted began ended)
    (hIssuer : renewer.issuer = manager.issuer) (hStore : renewer.store = FileStore.store path room)
    (hUp : ".." ∉ Path.segments path) (hTree : began.world.storage.tree.WellFormed)
    (hWindow : manager.settings.renewalWindow = .configured lead)
    (hLifetime : lead.nanos + Duration.nanosPerMilli ≤ lifetime.nanos)
    (hSecrets : ∀ token, granted token → token.secret.length < 2 ^ 32) :
    ∃ record token, FileStore.load path ended.world.storage = .ok record ∧
      AccessToken.decodeStored (record.get manager.key) = .ok (some token) ∧
      ended.world.now.plus lead ≤ token.expiresAt := by
  have hKeeps : renewer.store.Keeps (FileStore.Holds path) := by
    rw [hStore]
    exact FileStore.keeps_store hUp room
  have hHolds (loaded : CredentialRecord)
      (hLoad : renewer.store.load began.world.storage = .ok loaded) :
      FileStore.Holds path began.world.storage loaded := by
    rw [hStore] at hLoad
    exact .of_load hTree hLoad
  obtain ⟨record, token, hHeld, hEntry, hLasts⟩ :=
    h.lasts hIssuer hKeeps hWindow hLifetime hSecrets hHolds
  refine ⟨record, token, hHeld.load_of_ne_empty ?_, hEntry, hLasts⟩
  -- the empty record has no entry
  rintro rfl
  cases hEntry

/-- A tick that finds no token succeeds when the login takes no time either, the endpoint grants a
token of the name that it is asked for, and the record can be saved. -/
theorem exists_successfulTick {token : AccessToken} {after : κ} (hIssuer : renewer.issuer = manager.issuer)
    (hLoad : renewer.store.load scene.world.storage = .ok loaded)
    (hEntry : AccessToken.decodeStored (loaded.get manager.key) = .ok none)
    (hNew : scene.world.contexts ∉ scene.world.released)
    (hName : token.name
      = manager.settings.tokenPrefix ++ scene.world.identifiers scene.world.drawn)
    (hSave : renewer.store.save (loaded.put manager.key token.encode) scene.world.storage
      = (.ok (), after))
    (hDatable : (scene.world.now.plus lifetime).IsDatable)
    (hExpires : token.expires = (scene.world.now.plus lifetime).toEpochMillis)
    (hGranted : granted token) :
    ∃ t, SuccessfulTick renewer holds lifetime granted scene t ∧ t.world.storage = after ∧
      scene.world.HasObtained t.world := by
  have hStays (scene : Scene κ CredentialState) : scene.Undisturbed holds scene :=
    ⟨rfl, .refl holds _⟩
  obtain ⟨t, hRun, -, hStorage, hObtained⟩ := exists_run_published hIssuer hLoad hEntry
    (hStays { scene with record := loaded }) rfl hStays hNew hName hSave
  refine ⟨t, ⟨_, _, hRun, fun wait hWait => ?_⟩, hStorage, hObtained⟩
  exact LifecycleManager.grants_of_mem_obtaining hWait hDatable hExpires hGranted

/-! ### Ticks that do nothing -/

/-- **Whether a tick that begins in a scene does nothing**: it waits for nobody, and the world stays
as it is. It still fails if the record cannot be loaded. -/
def IsQuiet (renewer : Renewer κ CredentialState) (scene : Scene κ CredentialState) : Prop :=
  ∃ t answer, renewer.tick scene = .finished t answer ∧ t.world = scene.world ∧
    (answer = .ok .unchanged ∨
      ∃ failure, renewer.store.load scene.world.storage = .error failure ∧
        answer = .error failure)

/-- **A tick does nothing while the stored token is not due.** -/
theorem isQuiet_of_lasts (hIssuer : renewer.issuer = manager.issuer)
    (hKeeps : renewer.store.Keeps holds)
    (hWindow : manager.settings.renewalWindow = .configured lead)
    (hLasts : LastsUntil holds manager.key scene.world.storage (scene.world.now.plus lead)) :
    renewer.IsQuiet scene := by
  obtain ⟨record, token, hHolds, hEntry, hLasts⟩ := hLasts
  cases hLoad : renewer.store.load scene.world.storage with
  | error failure =>
    exact ⟨scene, .error failure, tick_of_load_error hLoad, rfl, .inr ⟨failure, hLoad, rfl⟩⟩
  | ok loaded =>
    obtain rfl := hKeeps.loads hHolds hLoad
    have hNotDue : (manager.settings.renewalWindow.decide scene.world.now token.expiresAt).renews
        = false := by
      rw [hWindow]
      exact RenewalWindow.renews_decide_eq_false_iff.mpr hLasts
    have hWork : renewer.work { scene with record := loaded } = _ :=
      work_of_not_due hIssuer hEntry hNotDue
    refine ⟨{ scene with record := loaded, memory := .issued }, .ok .unchanged, ?_, rfl, .inl rfl⟩
    rw [tick, hLoad]
    dsimp only
    rw [hWork, Activity.within, Activity.bind, publish, if_pos rfl]
    rfl

/-- A tick that does nothing succeeds if the record can be loaded. -/
theorem IsQuiet.exists_successfulTick (h : renewer.IsQuiet scene)
    (hLoad : renewer.store.load scene.world.storage = .ok loaded) :
    ∃ t, SuccessfulTick renewer holds lifetime granted scene t ∧ t.world = scene.world := by
  obtain ⟨t, answer, hTick, hWorld, rfl | ⟨failure, hFailed, -⟩⟩ := h
  · refine ⟨t, ⟨[], .unchanged, ?_, ?_⟩, hWorld⟩
    · rw [hTick]
      exact .finished _ _
    · intro wait hWait
      cases hWait
  · rw [hLoad] at hFailed
    cases hFailed

/-! ### Series of ticks -/

/-- **A series of ticks that all succeed** and are no further apart than a renewal window. Nobody else
writes to the storage. The instant of a tick is the one at which it ends. -/
structure TickSeries (renewer : Renewer κ CredentialState) (holds : κ → CredentialRecord → Prop)
    (lifetime lead : Duration) (granted : AccessToken → Prop) (n : Nat)
    (began ended : Nat → Scene κ CredentialState) : Prop where
  succeeds : ∀ i ≤ n, renewer.SuccessfulTick holds lifetime granted (began i) (ended i)
  undisturbed : ∀ i < n, (ended i).world.Undisturbed holds (began (i + 1)).world
  ordered : ∀ i < n, (ended i).world.now ≤ (ended (i + 1)).world.now
  close : ∀ i < n, (ended (i + 1)).world.now ≤ (ended i).world.now.plus lead

section Series

variable {n : Nat} {began ended : Nat → Scene κ CredentialState}

/-- One tick is a series. -/
theorem TickSeries.single {began ended : Scene κ CredentialState}
    (h : SuccessfulTick renewer holds lifetime granted began ended) :
    TickSeries renewer holds lifetime lead granted 0 (fun _ => began) fun _ => ended where
  succeeds := fun _ _ => h
  undisturbed := fun _ hNone => absurd hNone (Nat.not_lt_zero _)
  ordered := fun _ hNone => absurd hNone (Nat.not_lt_zero _)
  close := fun _ hNone => absurd hNone (Nat.not_lt_zero _)

/-- Two ticks are a series if the second ends within the window after the first. -/
theorem TickSeries.pair {first after second last : Scene κ CredentialState}
    (hFirst : SuccessfulTick renewer holds lifetime granted first after)
    (hSecond : SuccessfulTick renewer holds lifetime granted second last)
    (hUndisturbed : after.world.Undisturbed holds second.world)
    (hOrdered : after.world.now ≤ last.world.now)
    (hClose : last.world.now ≤ after.world.now.plus lead) :
    TickSeries renewer holds lifetime lead granted 1 (fun i => if i = 0 then first else second)
      fun i => if i = 0 then after else last := by
  constructor
  case succeeds =>
    intro i hi
    obtain rfl | rfl : i = 0 ∨ i = 1 := by omega
    · exact hFirst
    · exact hSecond
  all_goals
    intro i hi
    obtain rfl : i = 0 := by omega
  case undisturbed => exact hUndisturbed
  case ordered => exact hOrdered
  case close => exact hClose

/-- At every instant of a series there is a last tick, and it is not longer ago than the window. -/
theorem TickSeries.exists_latest (h : TickSeries renewer holds lifetime lead granted n began ended)
    {x : Instant} (hFrom : (ended 0).world.now ≤ x) (hTo : x ≤ (ended n).world.now.plus lead) :
    ∃ i ≤ n, (ended i).world.now ≤ x ∧ (∀ j ≤ n, i < j → x < (ended j).world.now) ∧
      x ≤ (ended i).world.now.plus lead := by
  induction n with
  | zero => exact ⟨0, le_rfl, hFrom, fun j hj hLater => by omega, hTo⟩
  | succ n ih =>
    by_cases hLast : (ended (n + 1)).world.now ≤ x
    · exact ⟨n + 1, le_rfl, hLast, fun j hj hLater => by omega, hTo⟩
    · have hBefore : x.nanos < (ended (n + 1)).world.now.nanos := Int.not_le.mp hLast
      have hClose : (ended (n + 1)).world.now.nanos ≤ ((ended n).world.now.plus lead).nanos :=
        h.close n (Nat.lt_succ_self n)
      have hSeries : TickSeries renewer holds lifetime lead granted n began ended :=
        ⟨fun i hi => h.succeeds i (by omega), fun i hi => h.undisturbed i (by omega),
          fun i hi => h.ordered i (by omega), fun i hi => h.close i (by omega)⟩
      have hEarlier : x ≤ (ended n).world.now.plus lead := by
        show x.nanos ≤ ((ended n).world.now.plus lead).nanos
        omega
      obtain ⟨i, hi, hAt, hNext, hWindow⟩ := ih hSeries hEarlier
      refine ⟨i, by omega, hAt, fun j hj hLater => ?_, hWindow⟩
      rcases Nat.lt_or_ge n j with hj' | hj'
      · obtain rfl : j = n + 1 := by omega
        exact hBefore
      · exact hNext j hj' hLater

/-- **A stored token never expires, and none is renewed too early**, while the ticks of a manager's
control loop succeed and are no further apart than the renewal window. At every instant up to the end
of the window after the last tick, the token that was stored by then has not expired, where every
secret that the endpoint grants has a length that fits in its field. A tick that finds a token which lasts for the window does nothing, in particular one at the instant of a tick
that has succeeded. -/
theorem never_expires (hIssuer : renewer.issuer = manager.issuer)
    (hKeeps : renewer.store.Keeps holds)
    (hWindow : manager.settings.renewalWindow = .configured lead)
    (hLifetime : lead.nanos + Duration.nanosPerMilli ≤ lifetime.nanos)
    (hSecrets : ∀ token, granted token → token.secret.length < 2 ^ 32)
    (hStart : ∀ loaded, renewer.store.load (began 0).world.storage = .ok loaded →
      holds (began 0).world.storage loaded)
    (hSeries : TickSeries renewer holds lifetime lead granted n began ended) :
    (∀ x, (ended 0).world.now ≤ x → x ≤ (ended n).world.now.plus lead →
      ∃ i ≤ n, (ended i).world.now ≤ x ∧ (∀ j ≤ n, i < j → x < (ended j).world.now) ∧
        LastsUntil holds manager.key (ended i).world.storage x) ∧
    (∀ scene : Scene κ CredentialState,
      LastsUntil holds manager.key scene.world.storage (scene.world.now.plus lead) →
      renewer.IsQuiet scene) ∧
    ∀ i ≤ n, ∀ scene : Scene κ CredentialState, (ended i).world.Undisturbed holds scene.world →
      scene.world.now = (ended i).world.now → renewer.IsQuiet scene := by
  have hLasts (i : Nat) (hi : i ≤ n) :
      LastsUntil holds manager.key (ended i).world.storage ((ended i).world.now.plus lead) := by
    induction i with
    | zero => exact (hSeries.succeeds 0 hi).lasts hIssuer hKeeps hWindow hLifetime hSecrets hStart
    | succ i ih =>
      obtain ⟨record, _, hHolds, -⟩ := ih (by omega)
      have hBegan := hSeries.undisturbed i hi record hHolds
      refine (hSeries.succeeds (i + 1) hi).lasts hIssuer hKeeps hWindow hLifetime hSecrets ?_
      intro loaded hLoad
      rw [hKeeps.loads hBegan hLoad]
      exact hBegan
  refine ⟨?_, fun scene => isQuiet_of_lasts hIssuer hKeeps hWindow, ?_⟩
  · intro x hFrom hTo
    obtain ⟨i, hi, hAt, hNext, hWithin⟩ := hSeries.exists_latest hFrom hTo
    exact ⟨i, hi, hAt, hNext, (hLasts i hi).mono hWithin⟩
  · intro i hi scene hUndisturbed hNow
    apply isQuiet_of_lasts hIssuer hKeeps hWindow
    obtain ⟨record, token, hHolds, hEntry, hUntil⟩ := hLasts i hi
    rw [hNow]
    exact ⟨record, token, hUndisturbed record hHolds, hEntry, hUntil⟩

/-- A store in memory in which nothing is stored yet, at the epoch. -/
def emptyStart : Scene CredentialRecord CredentialState :=
  ⟨.start ⟨0⟩ .empty fun _ => "0", .empty, .unissued⟩

/-- The first tick over a store in memory that is still empty stores the token that it is granted. -/
theorem exists_tick_emptyStart {lead : Duration} {token : AccessToken}
    (hName : token.name = "lease-0") (hDatable : (Instant.plus ⟨0⟩ lifetime).IsDatable)
    (hExpires : token.expires = (Instant.plus ⟨0⟩ lifetime).toEpochMillis) (hGranted : granted token) :
    ∃ published, SuccessfulTick
        ⟨(LifecycleManager.plain "key" (.configured lead)).issuer, .memory, defaultPeriod,
          defaultTickTimeout⟩
        (fun storage record => storage = record) lifetime granted emptyStart published ∧
      published.world.storage = CredentialRecord.empty.put "key" token.encode ∧
      published.world.now = ⟨0⟩ := by
  obtain ⟨manager, hManager⟩ : ∃ manager : LifecycleManager CredentialRecord,
      manager = .plain "key" (.configured lead) := ⟨_, rfl⟩
  have hToken : token.name = manager.settings.tokenPrefix
      ++ emptyStart.world.identifiers emptyStart.world.drawn := by
    rw [hName, hManager]
    rfl
  have hKey : manager.key = "key" := by
    rw [hManager]
    rfl
  obtain ⟨published, hTick, hStorage, hObtained⟩ : ∃ t, SuccessfulTick
      ⟨manager.issuer, .memory, defaultPeriod, defaultTickTimeout⟩
      (fun storage record => storage = record) lifetime granted emptyStart t ∧
      t.world.storage = CredentialRecord.empty.put manager.key token.encode ∧
      emptyStart.world.HasObtained t.world :=
    exists_successfulTick rfl rfl rfl List.not_mem_nil hToken rfl hDatable hExpires hGranted
  rw [← hManager]
  exact ⟨published, hTick, by rw [hStorage, hKey], hObtained.now⟩

/-- With a window of one second and tokens that last for two, a tick publishes a token, and the next
one, a second later, finds that it is not due. The token lasts for another second. -/
theorem never_expires_two_ticks :
    ∃ (renewer : Renewer CredentialRecord CredentialState)
      (began ended : Nat → Scene CredentialRecord CredentialState),
      (ended 0).world.storage ≠ (began 0).world.storage ∧
      (began 1).world = (ended 0).world.advance (.ofSeconds 1) ∧
      TickSeries renewer (fun storage record => storage = record) (.ofSeconds 2) (.ofSeconds 1)
        (fun token => token.secret.length < 2 ^ 32) 1 began ended ∧
      renewer.IsQuiet (began 1) ∧
      ∃ i ≤ 1, LastsUntil (fun storage record => storage = record) "key" (ended i).world.storage
        ((ended 0).world.now.plus (.ofSeconds 2)) := by
  obtain ⟨manager, hManager⟩ : ∃ manager : LifecycleManager CredentialRecord,
      manager = .plain "key" (.configured (.ofSeconds 1)) := ⟨_, rfl⟩
  obtain ⟨renewer, hRenewer⟩ : ∃ renewer : Renewer CredentialRecord CredentialState,
      renewer = ⟨manager.issuer, .memory, defaultPeriod, defaultTickTimeout⟩ := ⟨_, rfl⟩
  obtain ⟨token, hName, hExpires, hSecret⟩ : ∃ token : AccessToken,
      token.name = "lease-0" ∧ token.expires = 2000 ∧ token.secret.length < 2 ^ 32 :=
    ⟨⟨"lease-0", ⟨[]⟩, 0, 2000, by decide, by decide, by decide⟩, rfl, rfl, by decide⟩
  have hKey : manager.key = "key" := by
    rw [hManager]
    rfl
  have hIssuer : renewer.issuer = manager.issuer := by rw [hRenewer]
  have hKeeps : renewer.store.Keeps fun storage record => storage = record := by
    rw [hRenewer]
    exact RecordStore.keeps_memory
  have hWindow : manager.settings.renewalWindow = .configured (.ofSeconds 1) := by
    rw [hManager]
    rfl
  have hLoads (storage : CredentialRecord) : renewer.store.load storage = .ok storage := by
    rw [hRenewer]
    rfl
  -- the first tick finds no token and publishes this one
  obtain ⟨published, hFirst, hStored, hNow⟩ : ∃ t,
      renewer.SuccessfulTick (fun storage record => storage = record) (.ofSeconds 2)
        (fun token => token.secret.length < 2 ^ 32) emptyStart t ∧
      t.world.storage = CredentialRecord.empty.put "key" token.encode ∧ t.world.now = ⟨0⟩ := by
    rw [hRenewer, hManager]
    exact exists_tick_emptyStart hName (by decide) (by
      rw [hExpires]
      decide) hSecret
  -- it lasts for a window from the second tick on, which is quiet
  obtain ⟨second, hSecond⟩ : ∃ second : Scene CredentialRecord CredentialState,
      second = { published with world := published.world.advance (.ofSeconds 1) } := ⟨_, rfl⟩
  have hLasts : LastsUntil (fun storage record => storage = record) manager.key
      second.world.storage (second.world.now.plus (.ofSeconds 1)) := by
    refine ⟨_, token, rfl, ?_, ?_⟩
    · rw [show second.world.storage = published.world.storage by rw [hSecond]; rfl, hStored,
        hKey, CredentialRecord.get_put_self]
      exact AccessToken.decodeStored_encode hSecret
    · rw [AccessToken.expiresAt, hExpires, hSecond]
      show (published.world.now.plus _).plus _ ≤ _
      rw [hNow]
      decide
  have hQuiet := isQuiet_of_lasts hIssuer hKeeps hWindow hLasts
  obtain ⟨ended, hNext, hWorld⟩ : ∃ t, renewer.SuccessfulTick
      (fun storage record => storage = record) (.ofSeconds 2)
      (fun token => token.secret.length < 2 ^ 32) second t ∧ t.world = second.world :=
    hQuiet.exists_successfulTick (hLoads _)
  have hEnded : ended.world.now = ⟨1000000000⟩ := by
    rw [hWorld, hSecond]
    show published.world.now.plus _ = _
    rw [hNow]
    rfl
  have hUndisturbed : published.world.Undisturbed (fun storage record => storage = record)
      second.world := by
    rw [hSecond]
    exact fun _ hHolds => hHolds
  have hSeries : TickSeries renewer (fun storage record => storage = record) (.ofSeconds 2)
      (.ofSeconds 1) (fun token => token.secret.length < 2 ^ 32) 1
      (fun i => if i = 0 then emptyStart else second)
      (fun i => if i = 0 then published else ended) := by
    refine .pair hFirst hNext hUndisturbed ?_ ?_
    · rw [hEnded, hNow]
      decide
    · rw [hEnded, hNow]
      decide
  have hLoaded (loaded : CredentialRecord)
      (hLoad : renewer.store.load emptyStart.world.storage = .ok loaded) :
      emptyStart.world.storage = loaded := by
    rw [hLoads] at hLoad
    exact Except.ok.inj hLoad
  obtain ⟨hUntil, -⟩ :=
    never_expires hIssuer hKeeps hWindow (by decide) (fun _ hShort => hShort) hLoaded hSeries
  refine ⟨renewer, _, _, ?_, ?_, hSeries, hQuiet, ?_⟩
  · show published.world.storage ≠ emptyStart.world.storage
    rw [hStored]
    exact CredentialRecord.put_encode_ne trivial
  · show second.world = published.world.advance _
    rw [hSecond]
  · have hAfter : published.world.now ≤ ended.world.now.plus (.ofSeconds 1) := by
      rw [hEnded, hNow]
      decide
    obtain ⟨i, hi, -, -, hLasting⟩ := hUntil _ hAfter (Int.le_refl _)
    refine ⟨i, hi, ?_⟩
    rw [hManager, hEnded] at hLasting
    show LastsUntil _ "key" _ (published.world.now.plus (.ofSeconds 2))
    rw [hNow]
    exact hLasting

/-- The length of a secret has to fit in its field. A tick that is granted a token with a secret of
`2 ^ 32` bytes succeeds, and what it has stored holds no token. -/
theorem exists_unreadable_after_tick :
    ∃ (manager : LifecycleManager CredentialRecord)
      (renewer : Renewer CredentialRecord CredentialState)
      (began ended : Scene CredentialRecord CredentialState),
      renewer.issuer = manager.issuer ∧
      renewer.store.Keeps (fun storage record => storage = record) ∧
      manager.settings.renewalWindow = .configured (.ofSeconds 1) ∧
      TickSeries renewer (fun storage record => storage = record) (.ofSeconds 2) (.ofSeconds 1)
        (fun token => token.secret.length = 2 ^ 32) 0 (fun _ => began) (fun _ => ended) ∧
      ¬ LastsUntil (fun storage record => storage = record) manager.key ended.world.storage
        ended.world.now := by
  obtain ⟨token, hName, hExpires, hSecret⟩ : ∃ token : AccessToken,
      token.name = "lease-0" ∧ token.expires = 2000 ∧ token.secret.length = 2 ^ 32 := by
    refine ⟨⟨"lease-0", ⟨List.replicate (2 ^ 32) 0⟩, 0, 2000, by decide, by decide, by decide⟩,
      rfl, rfl, ?_⟩
    rw [SecretMaterial.length, List.length_replicate]
  obtain ⟨published, hTick, hStored, -⟩ : ∃ t, SuccessfulTick
      ⟨(LifecycleManager.plain "key" (.configured (.ofSeconds 1))).issuer, .memory, defaultPeriod,
        defaultTickTimeout⟩
      (fun storage record => storage = record) (.ofSeconds 2)
      (fun token => token.secret.length = 2 ^ 32) emptyStart t ∧
      t.world.storage = CredentialRecord.empty.put "key" token.encode ∧ t.world.now = ⟨0⟩ :=
    exists_tick_emptyStart hName (by decide) (by
      rw [hExpires]
      decide) hSecret
  refine ⟨.plain "key" (.configured (.ofSeconds 1)), ⟨_, .memory, defaultPeriod, defaultTickTimeout⟩,
    emptyStart, published, rfl, RecordStore.keeps_memory, rfl, ?_, ?_⟩
  · exact .single hTick
  · rintro ⟨record, found, hHolds, hEntry, -⟩
    obtain rfl : published.world.storage = record := hHolds
    have hEntry : AccessToken.decodeStored
        ((CredentialRecord.empty.put "key" token.encode).get "key") = .ok (some found) := by
      rw [← hStored]
      exact hEntry
    rw [CredentialRecord.get_put_self, AccessToken.decodeStored_encode_iff, hSecret] at hEntry
    exact absurd hEntry.1 (lt_irrefl _)

end Series

end Renewer

end CredentialLease
