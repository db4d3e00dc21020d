import CredentialLease.Activity.Execution
import CredentialLease.Program.Report

/-!
# What a process leaves behind

A process is given arguments and an environment. If it runs a command, the work of the command is
executed under the host of the command line; otherwise it does nothing but say why. In the end it
leaves an exit code, the files, and those who were asked for something.

From outside, less can be seen of a command: what it prints, its exit code, the log lines that are
written, and what is sent to the service.
-/

namespace CredentialLease

/-! ### Commands -/

/-- The entry that a command is about, if it is about one. -/
def Command.record? : Command → Option RecordOptions
  | reserve record => some record
  | issue record _ => some record
  | renew record _ => some record
  | run record _ _ => some record
  | attach record => some record
  | status record => some record
  | address _ => none

/-- Whether a command only shows something. -/
def Command.isReadOnly : Command → Bool
  | attach _ => true
  | status _ => true
  | address _ => true
  | _ => false

namespace Program

/-! ### Processes -/

/-- The work of a command line, done under its host. A command that runs until it is interrupted is
interrupted after a number of ticks. -/
def execution (ticks : Nat) (transport : Duration → HttpTransport Disk) (line : CommandLine)
    (stage : Stage) : Execution Disk CredentialState (Except Failure String) :=
  (job ticks stage line.command).execute (hostOf transport line.command) none

/-- What a process leaves when it exits. -/
structure Exit where
  code : Nat
  disk : Disk
  /-- What the process has asked others for: to read a key file, or to issue a token. -/
  requests : List Request

/-- What a process leaves that starts on a stage. It leaves nothing if it waits for a service that
never answers. -/
def exit? (ticks : Nat) (transport : Duration → HttpTransport Disk) (stage : Stage) :
    Start → Option Exit
  | .usage error => some ⟨usageCode error, stage.world.storage, []⟩
  | .refused _ => some ⟨2, stage.world.storage, []⟩
  | .run line =>
    let execution := execution ticks transport line stage
    match execution.ending with
    | .finished result =>
      some ⟨exitCode result, execution.scene.world.storage, execution.requests.map (·.2)⟩
    | _ => none

/-! ### Observations -/

/-- What can be seen of a command from outside. -/
structure Observation where
  /-- What is printed on the standard output. -/
  printed : String
  /-- The exit code, unless the command waits for a service that never answers. -/
  code : Option Nat
  /-- The log lines that are written. -/
  lines : List LogLine
  /-- What is sent to the service. -/
  sent : List HttpRequest

/-- What a command sends to the service of its lease while it waits for the answer to a request. -/
def sent? (command : Command) (stage : Stage) : Request → Option HttpRequest
  | .issue context request =>
    match (leaseOf command).map serviceOf with
    | some (.ok service) => service.sent? stage.world context request
    | _ => none
  | _ => none

/-- What can be seen of an execution of a command line. -/
def Observation.ofExecution (line : CommandLine)
    (execution : Execution Disk CredentialState (Except Failure String)) : Observation :=
  let log := execution.scene.world.log
  let sent := execution.requests.filterMap fun (stage, request) => sent? line.command stage request
  match execution.ending with
  | .finished (.ok text) => ⟨text, some 0, written line log, sent⟩
  | .finished (.error failure) =>
    ⟨"", some (failureCode failure), written line (log ++ [fatalLine failure]), sent⟩
  | _ => ⟨"", none, written line log, sent⟩

/-- What can be seen of a command line that is run on a stage. -/
def observe (ticks : Nat) (transport : Duration → HttpTransport Disk) (line : CommandLine)
    (stage : Stage) : Observation :=
  .ofExecution line (execution ticks transport line stage)

end Program

end CredentialLease
