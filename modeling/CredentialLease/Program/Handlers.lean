import CredentialLease.Address.Target
import CredentialLease.CommandLine.Command
import CredentialLease.Issuance.HttpEndpoint
import CredentialLease.Lifecycle.Renewer
import CredentialLease.Lifecycle.Worker
import CredentialLease.Login.KeyFile
import CredentialLease.Record.FileStore

/-!
# What the commands of the program do

Every command works on the record file that it is given, and ends with the text that it prints.
Issuing and renewing log in with a key file and ask a service for the token. A record is saved
only when something in it has changed.

What a command waits for is answered by its host: the key files of the storage and the service of
its command line.
-/

namespace CredentialLease.Program

/-- What a command finds around it and has in its memory. -/
abbrev Stage := Scene Disk CredentialState

/-- The work of a command, which ends with the text that it prints. -/
abbrev Job := Activity Stage (Except Failure String)

/-! ### Steps -/

/-- The text that shows a JSON value. -/
def shown (value : Json.Value) : String := value.pretty ++ "\n"

/-- Ends with a failure. -/
def fail (stage : Stage) (failure : Failure) : Job := .finished stage (.error failure)

/-- Ends with a JSON value to print. -/
def print (stage : Stage) (value : Json.Value) : Job := .finished stage (.ok (shown value))

/-- Loads the record of a command and goes on with it. -/
def loading (options : RecordOptions) (stage : Stage) (next : Stage → Job) : Job :=
  match FileStore.load options.path stage.world.storage with
  | .ok record => next { stage with record := record }
  | .error failure => fail stage failure

/-- Saves the record of a command and goes on. -/
def saving (options : RecordOptions) (stage : Stage) (next : Stage → Job) : Job :=
  match FileStore.save options.path stage.record stage.world.storage with
  | (.ok (), disk) => next (stage.mapWorld fun world => { world with storage := disk })
  | (.error failure, disk) =>
    fail (stage.mapWorld fun world => { world with storage := disk }) failure

/-- Saves the record of a command if it has changed, and goes on. -/
def savingIf (changed : Bool) (options : RecordOptions) (stage : Stage) (next : Stage → Job) :
    Job :=
  if changed then saving options stage next else next stage

/-! ### Collaborators -/

/-- The provider that commands log in with. -/
def provider : AuthProvider Disk := KeyFile.provider Disk.tree

/-- The service that a lease names. -/
def serviceOf (lease : LeaseOptions) : Except Failure HttpTokenEndpoint :=
  match lease.endpoint with
  | some endpoint => HttpTokenEndpoint.create endpoint
  | none => .error (.credential (.invalidConfiguration "--endpoint is required"))

/-- The manager of the entry and the lease of a command. -/
def managerOf (record : RecordOptions) (lease : LeaseOptions) :
    Except Failure (LifecycleManager Disk) := do
  let _ ← serviceOf lease
  (LifecycleManager.create (lease.settings record) provider).mapError Failure.credential

/-- The lease of a command, if it has one. -/
def leaseOf : Command → Option LeaseOptions
  | .issue _ lease => some lease
  | .renew _ lease => some lease
  | .run _ lease _ => some lease
  | _ => none

/-- The endpoint of a command: the service of its lease, reached by a transport that is given the
time limit of requests. -/
def endpointOf (transport : Duration → HttpTransport Disk) (command : Command) :
    TokenEndpoint Disk :=
  match leaseOf command with
  | none => ⟨fun _ _ _ => .never⟩
  | some lease =>
    match serviceOf lease with
    | .ok service => service.endpoint (transport lease.requestTimeout)
    | .error failure => ⟨fun _ _ _ => .now (.error failure)⟩

/-- The surroundings of a command. -/
def hostOf (transport : Duration → HttpTransport Disk) (command : Command) : Host Disk :=
  .of provider (endpointOf transport command)

/-! ### Commands -/

/-- Reserves the entry. -/
def reserve (options : RecordOptions) (stage : Stage) : Job :=
  loading options stage fun stage =>
    let (record, reserved) := stage.record.reserve options.key
    savingIf reserved options { stage with record := record } fun stage =>
      print
        (if reserved then
            stage.mapWorld (World.info .program "credential entry reserved" options.details)
          else stage)
        (.object [("key", .text options.key), ("reserved", .bool reserved)])

/-- Issues a token unless the entry holds one. -/
def issue (options : RecordOptions) (lease : LeaseOptions) (stage : Stage) : Job :=
  match managerOf options lease with
  | .error failure => fail stage failure
  | .ok manager =>
    loading options stage fun stage =>
      (manager.ensureIssued stage).bind fun stage result =>
        match result with
        | .error error => fail stage error
        | .ok outcome =>
          savingIf outcome.changedRecord options stage fun stage =>
            print stage (manager.status stage.memory stage.record stage.world.now).toJson

/-- What is printed of a renewal. -/
def renewalJson : RenewOutcome → Json.Value
  | .nothingToRenew => .object [("outcome", .text "nothing_to_renew")]
  | .notDue decision => .object [("outcome", .text "not_due"), ("decision", decision.toJson)]
  | .renewed decision tokenName =>
    .object [("outcome", .text "renewed"), ("decision", decision.toJson),
      ("token_name", .text tokenName)]

/-- Renews the token if that is due. -/
def renew (options : RecordOptions) (lease : LeaseOptions) (stage : Stage) : Job :=
  match managerOf options lease with
  | .error failure => fail stage failure
  | .ok manager =>
    loading options stage fun stage =>
      (manager.maybeRenew stage).bind fun stage result =>
        match result with
        | .error error => fail stage error
        | .ok outcome =>
          savingIf outcome.changedRecord options stage fun stage =>
            let status := (manager.status stage.memory stage.record stage.world.now).toJson
            print stage
              (Json.Value.object [("renewal", renewalJson outcome), ("status", status)]).sorted

/-- Keeps the token fresh until it is interrupted after a number of ticks. -/
def run (ticks : Nat) (options : RecordOptions) (lease : LeaseOptions)
    (schedule : ScheduleOptions) (stage : Stage) : Job :=
  match managerOf options lease with
  | .error failure => fail stage failure
  | .ok manager =>
    let renewer : Renewer Disk CredentialState :=
      ⟨manager.issuer, FileStore.store options.path, schedule.period, schedule.tickTimeout⟩
    let details := options.details ++ [("period_secs", toString schedule.periodSeconds)]
    let started := stage.mapWorld (World.info .program "credential renewer started" details)
    (renewer.run ticks started).bind fun stage () =>
      .finished (stage.mapWorld (World.info .program "interrupt received, stopping" [])) (.ok "")

/-- What is printed of a worker that has read a record. -/
def attachmentJson : AttachOutcome → Json.Value
  | .bound token =>
    .object [("bound", .bool true), ("expires_at_ms", .integer token.expires.toNat),
      ("fingerprint", .text token.fingerprint), ("token_name", .text token.name)]
  | .noToken => .object [("bound", .bool false), ("reason", .text "no_token")]
  | .unusable _ => .object [("bound", .bool false), ("reason", .text "unusable")]

/-- Shows what a worker finds in the entry. -/
def attach (options : RecordOptions) (stage : Stage) : Job :=
  loading options stage fun stage =>
    let (_, outcome) := (WorkerCredentials.ofKey options.key).attach stage.record
    print (stage.mapWorld (outcome.report options.key)) (attachmentJson outcome)

/-- Shows the state of the entry. -/
def status (options : RecordOptions) (stage : Stage) : Job :=
  loading options stage fun stage =>
    print stage (stage.record.status options.key stage.world.now).toJson

/-- What is printed of an address. -/
def addressJson (parsed : ParsedTarget) : Json.Value :=
  let address := parsed.address
  .object
    [("address", .object
      [("aliases_endpoint", .text address.aliasesEndpoint),
       ("bulk_endpoint", .text address.bulkEndpoint),
       ("collection", .text address.collection),
       ("has_dynamic_pattern", .bool address.hasDynamicPattern),
       ("mapping_endpoint", .text address.mappingEndpoint),
       ("refresh_endpoint", .text address.refreshEndpoint)]),
     ("query", match parsed.settings.query with
       | some query => .text query
       | none => .null)]

/-- Shows the endpoints of a target. -/
def address (options : AddressOptions) (stage : Stage) : Job :=
  match options.settings with
  | .error failure => fail stage failure
  | .ok settings =>
    match ResourceAddress.parse options.target settings with
    | .error error => fail stage error
    | .ok parsed => print stage (addressJson parsed)

/-- Does what a command asks for. A command that runs until it is interrupted is interrupted after
a number of ticks. -/
def job (ticks : Nat) (stage : Stage) : Command → Job
  | .reserve options => reserve options stage
  | .issue options lease => issue options lease stage
  | .renew options lease => renew options lease stage
  | .run options lease schedule => run ticks options lease schedule stage
  | .attach options => attach options stage
  | .status options => status options stage
  | .address options => address options stage

end CredentialLease.Program
