import CredentialLease.Lifecycle.Worker
import CredentialLease.Proofs.Lifecycle.ManagedTicks
import CredentialLease.Proofs.Login.Conduct
import Mathlib.Logic.Function.Basic

/-!
# Control loops and workers around one store

A `Deployment` has control loops, each for an entry of its own, and workers, all around one store.
The ticks of different loops may be under way at the same time. A tick loads the record in its first
step and saves it in its last one; in between it takes a step whenever it goes on from a wait. A
worker loads records and attaches them later, in the order in which it loaded them, as records that are
handed out for the first time or again. These steps come in any order (`Deployment.Step`).

A deployment keeps an account of what has happened: the records that were published, in order, and
for each how many there had been when its tick loaded the record.

Main statement: `Deployment.Reachable.finishes`. Every run of what is left of a tick is a way of a
deployment on which nobody else takes a step.
-/

namespace CredentialLease

variable {ι ω κ : Type}

/-! ### Parts -/

/-- The control loop of a manager, up to the store that it works on. -/
structure ControlLoop (κ : Type) where
  manager : LifecycleManager κ
  period : Duration
  tickTimeout : Duration

/-- The loop on a store. -/
def ControlLoop.renewer (loop : ControlLoop κ) (store : RecordStore κ) :
    Renewer κ CredentialState :=
  ⟨loop.manager.issuer, store, loop.period, loop.tickTimeout⟩

theorem ControlLoop.issuer_renewer (loop : ControlLoop κ) (store : RecordStore κ) :
    (loop.renewer store).issuer = loop.manager.issuer := rfl

/-- A record that a tick has published. -/
structure Publication (ι κ : Type) where
  /-- The loop of the tick. -/
  loop : ι
  /-- How many records had been published when the tick loaded the record. -/
  seen : Nat
  /-- The waits of the tick. -/
  waits : List (Wait (Scene κ CredentialState))
  record : CredentialRecord

/-- A tick and how far it has come. -/
structure TickUnderWay (κ : Type) where
  /-- How many records had been published when the tick loaded the record. -/
  seen : Nat
  began : Scene κ CredentialState
  /-- The waits so far. -/
  waits : List (Wait (Scene κ CredentialState))
  /-- What is left of the tick. -/
  rest : Activity (Scene κ CredentialState) (Except Failure TickOutcome)

namespace TickUnderWay

/-- The tick as long as it waits, and nothing when it has finished. -/
def waiting? (tick : TickUnderWay κ) : Option (TickUnderWay κ) :=
  match tick.rest with
  | .finished _ _ => none
  | .waiting .. => some tick

/-- What the tick has published, if it has finished so. -/
def publications (loop : ι) (tick : TickUnderWay κ) : List (Publication ι κ) :=
  match tick.rest with
  | .finished t (.ok .published) => [⟨loop, tick.seen, tick.waits, t.record⟩]
  | _ => []

/-- A tick publishes nothing, or it has finished and has published one record. -/
theorem publications_cases (loop : ι) (tick : TickUnderWay κ) :
    tick.publications loop = [] ∨
    ∃ publication, tick.publications loop = [publication] ∧ publication.seen = tick.seen ∧
      tick.waiting? = none := by
  rw [publications]
  split
  · next hRest =>
    refine .inr ⟨_, rfl, rfl, ?_⟩
    rw [waiting?, hRest]
  · exact .inl rfl

/-- How a tick goes on from a wait, in a world: it is answered, or its alarm goes off. -/
inductive Next (world : World κ) : TickUnderWay κ → TickUnderWay κ → Prop where
  | answered {seen : Nat} {began s : Scene κ CredentialState}
      {waits : List (Wait (Scene κ CredentialState))} {request : Request} {alarm : Option Duration}
      {onAnswer : Scene κ CredentialState → request.Answer →
        Activity (Scene κ CredentialState) (Except Failure TickOutcome)}
      {onAlarm : alarm.isSome = true → Scene κ CredentialState →
        Activity (Scene κ CredentialState) (Except Failure TickOutcome)}
      {onDrop : Scene κ CredentialState → Scene κ CredentialState} (answer : request.Answer) :
      Next world ⟨seen, began, waits, .waiting s request alarm onAnswer onAlarm onDrop⟩
        ⟨seen, began, waits ++ [⟨s, request, some answer, { s with world := world }⟩],
          onAnswer { s with world := world } answer⟩
  | alarmed {seen : Nat} {began s : Scene κ CredentialState}
      {waits : List (Wait (Scene κ CredentialState))} {request : Request} {alarm : Option Duration}
      {onAnswer : Scene κ CredentialState → request.Answer →
        Activity (Scene κ CredentialState) (Except Failure TickOutcome)}
      {onAlarm : alarm.isSome = true → Scene κ CredentialState →
        Activity (Scene κ CredentialState) (Except Failure TickOutcome)}
      {onDrop : Scene κ CredentialState → Scene κ CredentialState} (hAlarm : alarm.isSome = true) :
      Next world ⟨seen, began, waits, .waiting s request alarm onAnswer onAlarm onDrop⟩
        ⟨seen, began, waits ++ [⟨s, request, none, { s with world := world }⟩],
          onAlarm hAlarm { s with world := world }⟩

theorem Next.seen {world : World κ} {tick next : TickUnderWay κ} (h : tick.Next world next) :
    next.seen = tick.seen := by
  cases h with
  | answered answer => rfl
  | alarmed hAlarm => rfl

end TickUnderWay

/-- A worker and the records that have reached it. -/
structure Reader where
  worker : WorkerCredentials
  /-- The records that it has loaded and not attached yet, in order. -/
  loaded : List CredentialRecord
  /-- The records that it has attached, in order. -/
  attached : List CredentialRecord
  /-- What came of each of them. -/
  outcomes : List AttachOutcome

namespace Reader

/-- A worker that has loaded nothing. -/
def ofKey (key : String) : Reader := ⟨.ofKey key, [], [], []⟩

/-- The worker after it loads a record. -/
def load (record : CredentialRecord) (reader : Reader) : Reader :=
  { reader with loaded := reader.loaded ++ [record] }

/-- The worker after it attaches a record and has others left. -/
def attach (record : CredentialRecord) (others : List CredentialRecord) (reader : Reader) : Reader :=
  { worker := (reader.worker.attach record).1
    loaded := others
    attached := reader.attached ++ [record]
    outcomes := reader.outcomes ++ [(reader.worker.attach record).2] }

/-- The worker after it drops the token that it has bound. -/
def detach (reader : Reader) : Reader := { reader with worker := reader.worker.detach }

/-- The worker after it reads a record that is handed out again and has others left. -/
def update (record : CredentialRecord) (others : List CredentialRecord) (reader : Reader) : Reader :=
  { worker := (reader.worker.update record).1
    loaded := others
    attached := reader.attached ++ [record]
    outcomes := reader.outcomes ++ [(reader.worker.update record).2] }

/-- It does not matter whether a record is handed out again. -/
theorem update_eq_attach (record : CredentialRecord) (others : List CredentialRecord)
    (reader : Reader) : reader.update record others = reader.attach record others := rfl

/-- The tokens that the worker has bound, in order. -/
def tokens (reader : Reader) : List AccessToken := reader.outcomes.filterMap AttachOutcome.token

end Reader

/-- Control loops and workers around one store. -/
structure Deployment (ι ω κ : Type) where
  world : World κ
  /-- The tick of each loop that is under way. -/
  ticks : ι → Option (TickUnderWay κ)
  /-- What has been published, in order. -/
  published : List (Publication ι κ)
  readers : ω → Reader

namespace Deployment

variable [DecidableEq ι]

/-! ### Steps -/

/-- The deployment after the tick of a loop has come this far. -/
def goesOn (loop : ι) (tick : TickUnderWay κ) (deployment : Deployment ι ω κ) :
    Deployment ι ω κ :=
  { world := tick.rest.state.world
    ticks := Function.update deployment.ticks loop tick.waiting?
    published := deployment.published ++ tick.publications loop
    readers := deployment.readers }

/-- Of a tick only how far it has come in the end is left. -/
theorem goesOn_goesOn {loop : ι} {deployment : Deployment ι ω κ} (first next : TickUnderWay κ)
    (hFirst : first.publications loop = []) (world : World κ) :
    ({ deployment.goesOn loop first with world := world } : Deployment ι ω κ).goesOn loop next
      = deployment.goesOn loop next := by
  simp only [goesOn, Function.update_idem, hFirst, List.append_nil]

variable [DecidableEq ω]

/-- The deployment after a worker has done something. -/
def setReader (reader : ω) (after : Reader) (deployment : Deployment ι ω κ) :
    Deployment ι ω κ :=
  { deployment with readers := Function.update deployment.readers reader after }

/-- **One step of a deployment.** A tick that goes on finds the world of the deployment, and the
record and the memory that it works on. -/
inductive Step (loops : ι → ControlLoop κ) (store : RecordStore κ)
    (holds : κ → CredentialRecord → Prop) : Deployment ι ω κ → Deployment ι ω κ → Prop where
  /-- Something happens that leaves what is stored alone. -/
  | passes {deployment : Deployment ι ω κ} {world : World κ}
      (h : deployment.world.Undisturbed holds world) :
      Step loops store holds deployment { deployment with world := world }
  | begins {deployment : Deployment ι ω κ} {scene : Scene κ CredentialState} (loop : ι)
      (hIdle : deployment.ticks loop = none) (hWorld : scene.world = deployment.world) :
      Step loops store holds deployment (deployment.goesOn loop
        ⟨deployment.published.length, scene, [], ((loops loop).renewer store).tick scene⟩)
  | goesOn {deployment : Deployment ι ω κ} {loop : ι} {tick next : TickUnderWay κ}
      (hTick : deployment.ticks loop = some tick) (hNext : tick.Next deployment.world next) :
      Step loops store holds deployment (deployment.goesOn loop next)
  | dropped {deployment : Deployment ι ω κ} {loop : ι} {seen : Nat}
      {began s : Scene κ CredentialState} {waits : List (Wait (Scene κ CredentialState))}
      {request : Request} {alarm : Option Duration}
      {onAnswer : Scene κ CredentialState → request.Answer →
        Activity (Scene κ CredentialState) (Except Failure TickOutcome)}
      {onAlarm : alarm.isSome = true → Scene κ CredentialState →
        Activity (Scene κ CredentialState) (Except Failure TickOutcome)}
      {onDrop : Scene κ CredentialState → Scene κ CredentialState}
      (hTick : deployment.ticks loop
        = some ⟨seen, began, waits, .waiting s request alarm onAnswer onAlarm onDrop⟩) :
      Step loops store holds deployment
        { deployment with
          world := (onDrop { s with world := deployment.world }).world
          ticks := Function.update deployment.ticks loop none }
  | loads {deployment : Deployment ι ω κ} {record : CredentialRecord} (reader : ω)
      (hLoad : store.load deployment.world.storage = .ok record) :
      Step loops store holds deployment
        (deployment.setReader reader ((deployment.readers reader).load record))
  | attaches {deployment : Deployment ι ω κ} {reader : ω} {record : CredentialRecord}
      {others : List CredentialRecord}
      (hLoaded : (deployment.readers reader).loaded = record :: others) :
      Step loops store holds deployment
        (deployment.setReader reader ((deployment.readers reader).attach record others))
  | updates {deployment : Deployment ι ω κ} {reader : ω} {record : CredentialRecord}
      {others : List CredentialRecord}
      (hLoaded : (deployment.readers reader).loaded = record :: others) :
      Step loops store holds deployment
        (deployment.setReader reader ((deployment.readers reader).update record others))
  | detaches {deployment : Deployment ι ω κ} (reader : ω) :
      Step loops store holds deployment
        (deployment.setReader reader (deployment.readers reader).detach)

/-- A deployment in which nothing has happened yet. -/
def start (world : World κ) (keys : ω → String) : Deployment ι ω κ :=
  ⟨world, fun _ => none, [], fun reader => .ofKey (keys reader)⟩

/-- **The deployments that can be reached** when the storage holds a record at first, with workers
for some keys. -/
inductive Reachable (loops : ι → ControlLoop κ) (store : RecordStore κ)
    (holds : κ → CredentialRecord → Prop) (keys : ω → String) (initial : CredentialRecord) :
    Deployment ι ω κ → Prop where
  | start {world : World κ} (hInitial : holds world.storage initial) :
      Reachable loops store holds keys initial (start world keys)
  | step {deployment next : Deployment ι ω κ}
      (h : Reachable loops store holds keys initial deployment)
      (hStep : Step loops store holds deployment next) :
      Reachable loops store holds keys initial next

/-! ### Following one tick -/

section Following

variable {loops : ι → ControlLoop κ} {store : RecordStore κ}
  {holds : κ → CredentialRecord → Prop} {keys : ω → String} {initial : CredentialRecord}
  {deployment : Deployment ι ω κ} {loop : ι}

/-- **Every run of what is left of a tick is a way of a deployment** on which nobody else takes a
step. -/
theorem Reachable.finishes {seen : Nat} {began t : Scene κ CredentialState}
    {waits more : List (Wait (Scene κ CredentialState))}
    {rest : Activity (Scene κ CredentialState) (Except Failure TickOutcome)}
    {answer : Except Failure TickOutcome}
    (h : Reachable loops store holds keys initial (deployment.goesOn loop ⟨seen, began, waits, rest⟩))
    (hRun : Activity.Run Scene.KeepsOwn rest more t (some answer))
    (hMore : ∀ wait ∈ more, wait.began.world.Undisturbed holds wait.resumed.world) :
    Reachable loops store holds keys initial
      (deployment.goesOn loop ⟨seen, began, waits ++ more, .finished t answer⟩) := by
  generalize hResult : some answer = result at hRun
  induction hRun generalizing waits with
  | finished s value =>
    obtain rfl := Option.some.inj hResult
    rw [List.append_nil]
    exact h
  | @answered s resumed _ request alarm onAnswer onAlarm onDrop more _ reply hOwn _ ih =>
    obtain ⟨hWait, hMore⟩ := List.forall_mem_cons.mp hMore
    have hNext : TickUnderWay.Next resumed.world
        ⟨seen, began, waits, .waiting s request alarm onAnswer onAlarm onDrop⟩ _ := .answered reply
    have hAnswered := (h.step (.passes hWait)).step (.goesOn (Function.update_self _ _ _) hNext)
    rw [goesOn_goesOn _ _ rfl, ← hOwn] at hAnswered
    have hFinished := ih hAnswered hMore hResult
    rwa [List.append_assoc, List.singleton_append] at hFinished
  | @alarmed s resumed _ request alarm onAnswer onAlarm onDrop more _ hAlarm hOwn _ ih =>
    obtain ⟨hWait, hMore⟩ := List.forall_mem_cons.mp hMore
    have hNext : TickUnderWay.Next resumed.world
        ⟨seen, began, waits, .waiting s request alarm onAnswer onAlarm onDrop⟩ _ := .alarmed hAlarm
    have hAlarmed := (h.step (.passes hWait)).step (.goesOn (Function.update_self _ _ _) hNext)
    rw [goesOn_goesOn _ _ rfl, ← hOwn] at hAlarmed
    have hFinished := ih hAlarmed hMore hResult
    rwa [List.append_assoc, List.singleton_append] at hFinished
  | dropped _ => cases hResult

/-- The same for a tick that others have let wait for a while: it goes on in the world of the
deployment, and from then on nobody else takes a step. -/
theorem Reachable.finishes_of_waiting {seen : Nat} {began t : Scene κ CredentialState}
    {waits more : List (Wait (Scene κ CredentialState))} {wait : Wait (Scene κ CredentialState)}
    {rest : Activity (Scene κ CredentialState) (Except Failure TickOutcome)}
    {answer : Except Failure TickOutcome} (h : Reachable loops store holds keys initial deployment)
    (hTick : deployment.ticks loop = some ⟨seen, began, waits, rest⟩)
    (hRun : Activity.Run Scene.KeepsOwn rest (wait :: more) t (some answer))
    (hWorld : wait.resumed.world = deployment.world)
    (hMore : ∀ wait ∈ more, wait.began.world.Undisturbed holds wait.resumed.world) :
    Reachable loops store holds keys initial
      (deployment.goesOn loop ⟨seen, began, waits ++ wait :: more, .finished t answer⟩) := by
  rw [List.append_cons]
  cases hRun with
  | @answered s resumed _ request alarm onAnswer onAlarm onDrop _ _ reply hOwn hRest =>
    have hOwn : resumed = { s with world := deployment.world } := hWorld ▸ hOwn
    subst hOwn
    exact (h.step (.goesOn hTick (.answered reply))).finishes hRest hMore
  | @alarmed s resumed _ request alarm onAnswer onAlarm onDrop _ _ hAlarm hOwn hRest =>
    have hOwn : resumed = { s with world := deployment.world } := hWorld ▸ hOwn
    subst hOwn
    exact (h.step (.goesOn hTick (.alarmed hAlarm))).finishes hRest hMore

/-- A worker that has nothing left to attach can load a record and attach it at once. -/
theorem Reachable.reads (h : Reachable loops store holds keys initial deployment) (reader : ω)
    {record : CredentialRecord} (hLoad : store.load deployment.world.storage = .ok record)
    (hNone : (deployment.readers reader).loaded = []) :
    ∃ next, Reachable loops store holds keys initial next ∧ next.published = deployment.published ∧
      next.readers reader = (deployment.readers reader).attach record [] := by
  have hReader : (deployment.setReader reader ((deployment.readers reader).load record)).readers reader
      = (deployment.readers reader).load record := Function.update_self _ _ _
  have hLoaded : ((deployment.setReader reader ((deployment.readers reader).load record)).readers
      reader).loaded = [record] := by
    rw [hReader, Reader.load, hNone]
    rfl
  refine ⟨_, (h.step (.loads reader hLoad)).step (.attaches hLoaded), rfl, ?_⟩
  show Function.update _ _ _ _ = _
  rw [Function.update_self, hReader]
  rfl

end Following

end Deployment

end CredentialLease
