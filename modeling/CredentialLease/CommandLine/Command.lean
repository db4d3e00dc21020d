import CredentialLease.Address.Settings
import CredentialLease.CommandLine.Options
import CredentialLease.Lease.Settings

/-!
# The commands of the program

A command line names one command, its options, and how the program logs. It is read in two steps:
`parse` checks its form, and `CommandLine.validate` whether the values make sense together.
-/

namespace CredentialLease

/-! ### Commands -/

/-- Which entry of which record a command is about. -/
structure RecordOptions where
  /-- The path of the file of the record. -/
  path : String
  key : String
deriving DecidableEq, Inhabited

/-- How a command takes a lease. -/
structure LeaseOptions where
  principal : Option String
  keyPath : Option String
  renewalWindowSeconds : Option Int
  endpoint : Option String
  tokenLifetimeSeconds : Option Nat
  tokenPrefix : String
  requestTimeoutSeconds : Nat
deriving DecidableEq, Inhabited

/-- When a command checks a lease. -/
structure ScheduleOptions where
  periodSeconds : Nat
  tickTimeoutSeconds : Nat
deriving DecidableEq, Inhabited

/-- What the log tells of the entry that a command is about. -/
def RecordOptions.details (record : RecordOptions) : List (String × String) :=
  [("key", record.key), ("record", record.path)]

/-- Which target a command reads. -/
structure AddressOptions where
  target : String
  query : Option String
  ingestPipeline : Option String
  writeOperation : String
deriving DecidableEq, Inhabited

/-- What the program is asked to do. -/
inductive Command where
  /-- Reserve the entry before the job starts. -/
  | reserve (record : RecordOptions)
  /-- Issue a token if the entry does not hold one. -/
  | issue (record : RecordOptions) (lease : LeaseOptions)
  /-- Renew the token if that is due. -/
  | renew (record : RecordOptions) (lease : LeaseOptions)
  /-- Keep the token fresh until interrupted. -/
  | run (record : RecordOptions) (lease : LeaseOptions) (schedule : ScheduleOptions)
  /-- Show what a worker finds in the entry. -/
  | attach (record : RecordOptions)
  /-- Show the state of the entry. -/
  | status (record : RecordOptions)
  /-- Show the endpoints of a target. -/
  | address (options : AddressOptions)
deriving DecidableEq, Inhabited

/-- A command, and how the program logs while it is at it. -/
structure CommandLine where
  logFormat : String
  logLevel : String
  command : Command
deriving DecidableEq, Inhabited

/-! ### Settings -/

/-- The settings of a lease. -/
def LeaseOptions.settings (lease : LeaseOptions) (record : RecordOptions) : LeaseSettings where
  principal := lease.principal
  keyPath := lease.keyPath
  renewalWindow := .ofSetting lease.renewalWindowSeconds
  credentialKey := record.key
  tokenPrefix := lease.tokenPrefix
  tokenLifetime := lease.tokenLifetimeSeconds.map Duration.ofSeconds

/-- The time limit of a request. -/
def LeaseOptions.requestTimeout (lease : LeaseOptions) : Duration :=
  .ofSeconds lease.requestTimeoutSeconds

/-- The time between two checks. -/
def ScheduleOptions.period (schedule : ScheduleOptions) : Duration :=
  .ofSeconds schedule.periodSeconds

/-- The time limit of a check. -/
def ScheduleOptions.tickTimeout (schedule : ScheduleOptions) : Duration :=
  .ofSeconds schedule.tickTimeoutSeconds

/-- The settings that a target is read with. -/
def AddressOptions.settings (options : AddressOptions) : Except Failure AddressSettings :=
  (WriteOperation.parse options.writeOperation).map fun operation =>
    ⟨options.query, options.ingestPipeline, operation⟩

/-! ### Validation -/

/-- Fails with a message when a condition holds. -/
def refuse (condition : Bool) (message : String) : Except Failure Unit :=
  if condition then .error (.other message) else .ok ()

/-- Whether a record can be found. -/
def RecordOptions.validate (record : RecordOptions) : Except Failure Unit := do
  refuse (record.path = "") "--record must not be empty"
  refuse (isBlankText record.key) "--credential-key must not be empty"

/-- Whether a lease can be taken. -/
def LeaseOptions.validate (lease : LeaseOptions) (record : RecordOptions) :
    Except Failure Unit := do
  (lease.settings record).validate.mapError Failure.credential
  match lease.endpoint with
  | some endpoint =>
    if isBlankText endpoint then
      throw (.credential (.invalidConfiguration "--endpoint is required for issuance"))
  | none => throw (.credential (.invalidConfiguration "--endpoint is required for issuance"))
  refuse (lease.requestTimeoutSeconds = 0) "--request-timeout-secs must be positive"
  refuse (lease.tokenLifetimeSeconds = some 0) "--token-lifetime-secs must be positive"

/-- Whether checks can be scheduled. -/
def ScheduleOptions.validate (schedule : ScheduleOptions) : Except Failure Unit := do
  refuse (schedule.periodSeconds = 0) "--period-secs must be positive"
  refuse (schedule.tickTimeoutSeconds = 0) "--tick-timeout-secs must be positive"

/-- Whether a command can be carried out. -/
def Command.validate : Command → Except Failure Unit
  | reserve record => record.validate
  | attach record => record.validate
  | status record => record.validate
  | issue record lease => do
    record.validate
    lease.validate record
  | renew record lease => do
    record.validate
    lease.validate record
  | run record lease schedule => do
    record.validate
    lease.validate record
    schedule.validate
  | address options => options.settings.map fun _ => ()

/-- Whether a command line makes sense. -/
def CommandLine.validate (line : CommandLine) : Except Failure Unit := do
  refuse (line.logFormat ≠ "json" && line.logFormat ≠ "text")
    s!"invalid log format: {line.logFormat}"
  line.command.validate

/-! ### Options of the commands -/

namespace CommandLine

/-- The options that every command has, and that may also stand before it. -/
def globalOptions : List OptionSpec :=
  [⟨"log-format", "KEYLEASE_LOG_FORMAT", .text, false⟩,
   ⟨"log-level", "KEYLEASE_LOG_LEVEL", .text, false⟩]

/-- The options that choose an entry. -/
def recordOptions : List OptionSpec :=
  [⟨"record", "KEYLEASE_RECORD", .path, true⟩,
   ⟨"credential-key", "KEYLEASE_CREDENTIAL_KEY", .text, false⟩]

/-- The options of a lease. -/
def leaseOptions : List OptionSpec :=
  [⟨"principal", "KEYLEASE_PRINCIPAL", .text, false⟩,
   ⟨"key-path", "KEYLEASE_KEY_PATH", .path, false⟩,
   ⟨"renewal-window-secs", "KEYLEASE_RENEWAL_WINDOW_SECS", .signed, false⟩,
   ⟨"endpoint", "KEYLEASE_ENDPOINT", .text, false⟩,
   ⟨"token-lifetime-secs", "KEYLEASE_TOKEN_LIFETIME_SECS", .unsigned, false⟩,
   ⟨"token-prefix", "KEYLEASE_TOKEN_PREFIX", .text, false⟩,
   ⟨"request-timeout-secs", "KEYLEASE_REQUEST_TIMEOUT_SECS", .unsigned, false⟩]

/-- The options of a schedule. -/
def scheduleOptions : List OptionSpec :=
  [⟨"period-secs", "KEYLEASE_PERIOD_SECS", .unsigned, false⟩,
   ⟨"tick-timeout-secs", "KEYLEASE_TICK_TIMEOUT_SECS", .unsigned, false⟩]

/-- The options of a target. -/
def addressOptions : List OptionSpec :=
  [⟨"target", "KEYLEASE_TARGET", .text, true⟩,
   ⟨"query", "KEYLEASE_QUERY", .text, false⟩,
   ⟨"ingest-pipeline", "KEYLEASE_INGEST_PIPELINE", .text, false⟩,
   ⟨"write-operation", "KEYLEASE_WRITE_OPERATION", .text, false⟩]

/-- The commands with their options. -/
def commands : List (String × List OptionSpec) :=
  [("reserve", recordOptions),
   ("issue", recordOptions ++ leaseOptions),
   ("renew", recordOptions ++ leaseOptions),
   ("run", recordOptions ++ leaseOptions ++ scheduleOptions),
   ("attach", recordOptions),
   ("status", recordOptions),
   ("address", addressOptions)]

/-- The level before the command. -/
def topLevel : Level := ⟨globalOptions, commands.map (·.1)⟩

/-- The level after a command. -/
def commandLevel (options : List OptionSpec) : Level := ⟨options ++ globalOptions, []⟩

/-! ### From values to commands -/

/-- The value of an option, or what it is otherwise. -/
def valueOr (values : Values) (name fallback : String) : String :=
  (values.lookup name).getD fallback

/-- The value of an option without a sign, or what it is otherwise. -/
def unsignedOr (values : Values) (name : String) (fallback : Nat) : Nat :=
  ((values.lookup name).bind fun value => Number.parseUnsigned 64 value.toList).getD fallback

/-- The entry that values choose. -/
def recordOf (values : Values) : RecordOptions :=
  ⟨valueOr values "record" "", valueOr values "credential-key" defaultCredentialKey⟩

/-- The lease that values describe. -/
def leaseOf (values : Values) : LeaseOptions where
  principal := values.lookup "principal"
  keyPath := values.lookup "key-path"
  renewalWindowSeconds :=
    (values.lookup "renewal-window-secs").bind fun value => Number.parseSigned 64 value.toList
  endpoint := values.lookup "endpoint"
  tokenLifetimeSeconds :=
    (values.lookup "token-lifetime-secs").bind fun value => Number.parseUnsigned 64 value.toList
  tokenPrefix := valueOr values "token-prefix" defaultTokenPrefix
  requestTimeoutSeconds := unsignedOr values "request-timeout-secs" 30

/-- The schedule that values describe. -/
def scheduleOf (values : Values) : ScheduleOptions :=
  ⟨unsignedOr values "period-secs" 60, unsignedOr values "tick-timeout-secs" 30⟩

/-- The target that values describe. -/
def addressOf (values : Values) : AddressOptions :=
  ⟨valueOr values "target" "", values.lookup "query", values.lookup "ingest-pipeline",
    valueOr values "write-operation" "index"⟩

/-- The command of a name with its values. -/
def commandOf (name : String) (values : Values) : Command :=
  let record := recordOf values
  if name = "reserve" then .reserve record
  else if name = "issue" then .issue record (leaseOf values)
  else if name = "renew" then .renew record (leaseOf values)
  else if name = "run" then .run record (leaseOf values) (scheduleOf values)
  else if name = "attach" then .attach record
  else if name = "status" then .status record
  else .address (addressOf values)

/-! ### Parsing -/

/-- Whether the arguments of the help command name something that there is help for. -/
def isHelpTopic (topics : List String) : Bool :=
  match topics with
  | [] => true
  | [name] => topLevel.isSubcommand name
  | [first, name] => first = "help" && topLevel.isSubcommand name
  | _ => false

/-- The values of a command, from its arguments and the environment. Only those of options that may
also stand before it are compared with what was read there. -/
def commandValues (options : List OptionSpec) (environment : Values) (arguments : List String) :
    Except UsageError (Values × Values) := do
  let level := commandLevel options
  let (progress, _) ← readLevel level .initial arguments
  let given := (← progress.resolve).values
  let values ← progress.finish level environment
  if lacksRequired level values then throw .missingRequiredArgument
  return (given, values)

/-- The command line that arguments and an environment make. -/
def parse (environment : Values) (arguments : List String) : Except UsageError CommandLine := do
  let (progress, subcommand) ← readLevel topLevel .initial arguments
  match subcommand with
  | none =>
    let values ← progress.finish topLevel environment
    throw (if values.isEmpty then .displayHelpOnMissingSubcommand else .missingSubcommand)
  | some (name, rest) =>
    if name = "help" then
      throw (if isHelpTopic rest then .displayHelp else .invalidSubcommand)
    else
      let (given, values) ← commandValues ((commands.lookup name).getD []) environment rest
      let before ← progress.finish topLevel environment
      let choose (name fallback : String) : String :=
        (given.lookup name).getD (valueOr before name fallback)
      return ⟨choose "log-format" "json", choose "log-level" "info", commandOf name values⟩

end CommandLine

end CredentialLease
