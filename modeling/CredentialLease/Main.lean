import CredentialLease.Http.Wire
import CredentialLease.Program.Report
import Std.Async.DNS
import Std.Async.Signal
import Std.Async.TCP

/-!
# The program

The program runs the work of its command against the real surroundings. Between two waits the work
sees the files that it may touch as they were at the first of them; what it changed is written out
before the next wait and at the end. While it waits, key files are read and requests are sent, and
time passes on the clock of the system. A command that runs until it is interrupted is dropped by
an interrupt.
-/

namespace CredentialLease.Shell

open CredentialLease.CommandLine (UsageError Values)

/-! ### Clock -/

/-- The reading of the clock of the system. -/
def clock : IO Instant := do
  return ⟨(← Std.Time.Timestamp.now).toNanosecondsSinceUnixEpoch.val⟩

/-- Identifiers that nobody can guess, made from a seed. -/
def identifierOf (seed : Bytes) (n : Nat) : String :=
  let digits := (Bytes.hex (Sha256.digest (seed ++ Bytes.bigEndian 8 n))).toList
  let part (start length : Nat) : String := String.ofList ((digits.drop start).take length)
  s!"{part 0 8}-{part 8 4}-4{part 13 3}-8{part 17 3}-{part 20 12}"

/-! ### Files -/

/-- The path of a place. -/
def pathOf (place : Location) : String := "/" ++ String.intercalate "/" place

/-- What stands at a path of the system. -/
def probe (path : String) : IO (Option Node) := do
  try
    let contents ← IO.FS.readBinFile path
    return some (.file contents.data.toList)
  catch
    | .inappropriateType _ code _ => return if code = 21 then some .directory else none
    | .illegalOperation code _ => return if code = 21 then some .directory else none
    | _ => return none

/-- The places that segments lead through from a place. -/
def placesFrom (start : Location) : List String → List Location
  | [] => [start]
  | segment :: rest =>
    let next :=
      if segment = "." then start
      else if segment = ".." then start.dropLast
      else start ++ [segment]
    start :: placesFrom next rest

/-- The files and directories that paths lead to or through. -/
def snapshot (workingDirectory : Location) (paths : List String) : IO FileTree := do
  let empty : FileTree := ⟨[], workingDirectory⟩
  let places := placesFrom [] workingDirectory ++ paths.flatMap fun path =>
    placesFrom (empty.origin path) (Path.segments path)
  places.foldlM (fun tree place => do
    match ← probe (pathOf place) with
    | some node => return tree.set place node
    | none => return tree) empty

/-- Writes to the system what one tree has and another has not. -/
def writeChanges (before after : FileTree) : IO Unit := do
  let changed := after.nodes.filter fun (place, node) => before.get place ≠ some node
  for (place, node) in changed.mergeSort fun a b => a.1.length ≤ b.1.length do
    let path := pathOf place
    match node with
    | .directory => IO.FS.createDir path
    | .file contents =>
      let temporary := path ++ ".new"
      IO.FS.writeBinFile temporary ⟨contents.toArray⟩
      IO.FS.rename temporary path

/-! ### Requests -/

/-- The address of four bytes. -/
def ipv4Of (address : Nat) : Std.Net.IPv4Addr :=
  let byte (unit : Nat) : UInt8 := UInt8.ofNat (address / unit)
  .ofParts (byte 16777216) (byte 65536) (byte 256) (byte 1)

/-- The addresses of a host. -/
def addressesOf : UrlHost → Std.Async.Async (Array Std.Net.IPAddr)
  | .ipv4 address => return #[.v4 (ipv4Of address)]
  | .ipv6 text => Std.Async.DNS.getAddrInfo text ""
  | .name text => Std.Async.DNS.getAddrInfo text ""

/-- An address with a port. -/
def socketAddress (address : Std.Net.IPAddr) (port : Nat) : Std.Net.SocketAddress :=
  match address with
  | .v4 address => .v4 ⟨address, UInt16.ofNat port⟩
  | .v6 address => .v6 ⟨address, UInt16.ofNat port⟩

/-- All the bytes that arrive until the connection is closed. -/
partial def receive (client : Std.Async.TCP.Socket.Client) (received : ByteArray) :
    Std.Async.Async ByteArray := do
  match ← client.recv? 65536 with
  | some more => receive client (received ++ more)
  | none => return received

/-- Sends a request and waits for the reply. -/
def exchange (request : HttpRequest) : IO (Except TransportError HttpReply) := do
  if request.url.secure then return .error .unreachable
  try
    let received ← Std.Async.Async.block do
      let addresses ← addressesOf request.url.host
      let client ← Std.Async.TCP.Socket.Client.mk
      match addresses[0]? with
      | none => throw (IO.userError "no address")
      | some address =>
        client.connect (socketAddress address request.url.port)
        client.send ⟨(Wire.encode request).toArray⟩
        receive client .empty
    return Wire.reply received.data.toList
  catch _ => return .error .unreachable

/-! ### Waiting -/

/-- What a run of a command is given. -/
structure Setting where
  line : CommandLine
  workingDirectory : Location
  /-- The paths that the command may touch. -/
  paths : List String
  /-- The time line at the start, in nanoseconds. -/
  started : Nat
  /-- Whether the program has been interrupted. -/
  interrupted : IO Bool

/-- The time that has passed since the start. -/
def Setting.elapsed (setting : Setting) : IO Duration := do
  return ⟨(← IO.monoNanosNow) - setting.started⟩

/-- The scene with the clock, the time line and the files of the system. -/
def Setting.refresh (setting : Setting) (stage : Program.Stage) : IO Program.Stage := do
  let now ← clock
  let elapsed ← setting.elapsed
  let tree ← snapshot setting.workingDirectory setting.paths
  return stage.mapWorld fun world =>
    { world with now := now, elapsed := elapsed, storage := { world.storage with tree := tree } }

/-- A log line as it is written. -/
def lineText (format : String) (line : LogLine) : String :=
  if format = "json" then
    Json.Value.compact (.object
      [("level", .text line.level.name),
       ("fields", .object ([("message", .text line.message)]
         ++ Json.optional "code" .text line.code ++ Json.optional "err" .text line.error
         ++ line.details.map fun (name, text) => (name, .text text))),
       ("target", .text line.source.name)])
  else
    let field (name : String) : Option String → String
      | some text => s!" {name}={text}"
      | none => ""
    s!"{line.level.name} {line.source.name}: {line.message}"
      ++ field "code" line.code ++ field "err" line.error
      ++ String.join (line.details.map fun (name, text) => field name (some text))

/-- Writes log lines to the standard error. -/
def Setting.writeLog (setting : Setting) (lines : List LogLine) : IO Unit := do
  for line in Program.written setting.line lines do
    IO.eprintln (lineText setting.line.logFormat line)

/-- Writes out what a scene has changed since a tree and a number of log lines. -/
def Setting.writeOut (setting : Setting) (before : FileTree) (logged : Nat)
    (stage : Program.Stage) : IO Unit := do
  setting.writeLog (stage.world.log.drop logged)
  writeChanges before stage.world.storage.tree

/-- The answer to a request, computed while the work waits. -/
def answerTo (setting : Setting) (stage : Program.Stage) :
    (request : Request) → IO (Option (Task (Except IO.Error request.Answer)))
  | .pause => return none
  | .login credentials => some <$> IO.asTask do
    let stage ← setting.refresh stage
    return (KeyFile.login stage.world.storage.tree credentials).map .fresh
  | .issue context request => some <$> IO.asTask do
    match (Program.leaseOf setting.line.command).map Program.serviceOf with
    | some (.ok service) =>
      let askedAt ← clock
      match service.request context.identity request with
      | .ok sent => return HttpTokenEndpoint.accept askedAt (← exchange sent)
      | .error failure => return .error failure
    | _ => return .error (.transport .unreachable)

/-- The time limit of a request, in nanoseconds. -/
def requestLimit (setting : Setting) : Request → Option Nat
  | .issue _ _ => (Program.leaseOf setting.line.command).map fun lease => lease.requestTimeout.nanos
  | _ => none

/-- What ends a wait. -/
inductive Wake (α : Type) where
  | answered (answer : α)
  | timedOut
  | rang
  | interrupted

/-- Waits for a task, a time limit, an alarm or an interrupt. -/
partial def await {α : Type} (setting : Setting) (task : Option (Task (Except IO.Error α)))
    (limit alarm : Option Duration) : IO (Wake α) := do
  let finished ← match task with
    | some task => IO.hasFinished task
    | none => pure false
  match task, finished with
  | some task, true => return .answered (← IO.ofExcept task.get)
  | _, _ =>
    let elapsed ← setting.elapsed
    let passed (time : Option Duration) : Bool := time.any fun time => time.nanos ≤ elapsed.nanos
    if ← setting.interrupted then return .interrupted
    else if passed limit then return .timedOut
    else if passed alarm then return .rang
    else
      IO.sleep 5
      await setting task limit alarm

/-- What a request comes to whose time is up. -/
def lateAnswer : (request : Request) → Option request.Answer
  | .issue _ _ => some (.error (.transport .unreachable))
  | _ => none

/-- Runs the work of a command to its end. -/
def drive (setting : Setting) (before : FileTree) (logged : Nat) :
    Program.Job → IO (Except Failure String)
  | .finished stage result => do
    setting.writeOut before logged stage
    return result
  | .waiting stage request alarm onAnswer onAlarm onDrop => do
    setting.writeOut before logged stage
    let task ← answerTo setting stage request
    let limit := (requestLimit setting request).map fun nanos =>
      (⟨stage.world.elapsed.nanos + nanos⟩ : Duration)
    let wake ← await setting task limit alarm
    let stage ← setting.refresh stage
    let tree := stage.world.storage.tree
    let logged := stage.world.log.length
    match wake with
    | .answered answer => drive setting tree logged (onAnswer stage answer)
    | .rang =>
      if h : alarm.isSome = true then drive setting tree logged (onAlarm h stage)
      else return .ok ""
    | .timedOut =>
      match lateAnswer request with
      | some answer => drive setting tree logged (onAnswer stage answer)
      | none => return .ok ""
    | .interrupted =>
      setting.writeLog [⟨.info, .program, "interrupt received, stopping", none, none, []⟩]
      setting.writeOut tree logged (onDrop stage)
      return .ok ""

/-! ### The program -/

/-- The paths that a command may touch. -/
def pathsOf : Command → List String
  | .reserve record => [record.path]
  | .issue record lease => record.path :: lease.keyPath.toList
  | .renew record lease => record.path :: lease.keyPath.toList
  | .run record lease _ => record.path :: lease.keyPath.toList
  | .attach record => [record.path]
  | .status record => [record.path]
  | .address _ => []

/-- The variables of the environment that options are taken from. -/
def environment : IO Values := do
  let options := CommandLine.globalOptions ++ CommandLine.commands.flatMap (·.2)
  options.filterMapM fun option => do
    return (← IO.getEnv option.environmentName).map fun value => (option.environmentName, value)

/-- A short account of the commands and their options. -/
def helpText : String :=
  let options (specs : List CommandLine.OptionSpec) : String :=
    String.intercalate " " (specs.map fun option => s!"[--{option.name} <value>]")
  let commands := CommandLine.commands.map fun (name, specs) => s!"  {name} {options specs}\n"
  "Short-lived access tokens for distributed jobs\n\nUsage: keylease "
    ++ options CommandLine.globalOptions ++ " <command>\n\nCommands:\n" ++ String.join commands

/-- Explains why a command line is not run. -/
def explain (error : UsageError) : IO UInt32 := do
  match error with
  | .displayVersion => IO.println Program.versionText
  | .displayHelp => IO.print helpText
  | .displayHelpOnMissingSubcommand => IO.eprint helpText
  | other => IO.eprintln s!"error: {other.name}\n\nFor more information, try '--help'."
  return UInt32.ofNat (Program.usageCode error)

/-- A check for interrupts, which only a command that runs until then asks for. -/
def interruptCheck : Command → IO (IO Bool)
  | .run _ _ _ => do
    let waiter ← Std.Async.Signal.Waiter.mk .sigint false
    let task ← waiter.wait
    return IO.hasFinished task
  | _ => return (return false)

/-- Runs a command line. -/
def execute (line : CommandLine) : IO UInt32 := do
  let here ← IO.FS.realPath "."
  let setting : Setting :=
    { line := line
      workingDirectory := Path.segments here.toString
      paths := pathsOf line.command
      started := ← IO.monoNanosNow
      interrupted := ← interruptCheck line.command }
  let seed := (← IO.getRandomBytes 24).data.toList
  let disk : Disk := ⟨.fresh setting.workingDirectory, Bytes.ofBigEndian (seed.take 3), 0⟩
  let stage ← setting.refresh
    ⟨.start (← clock) disk (identifierOf seed), .empty, .unissued⟩
  let result ← drive setting stage.world.storage.tree 0
    (Program.job UInt64.size stage line.command)
  match result with
  | .ok text => IO.print text
  | .error failure => setting.writeLog [Program.fatalLine failure]
  return UInt32.ofNat (Program.exitCode result)

end CredentialLease.Shell

/-- The program. -/
def main (arguments : List String) : IO UInt32 := do
  match CredentialLease.Program.start (← CredentialLease.Shell.environment) arguments with
  | .usage error => CredentialLease.Shell.explain error
  | .refused failure =>
    IO.eprintln s!"error: {failure.message}"
    return 2
  | .run line => CredentialLease.Shell.execute line
