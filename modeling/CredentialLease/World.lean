import CredentialLease.Record.CredentialRecord
import CredentialLease.Token.AccessToken

/-!
# What an activity finds around it and leaves behind

A world has a clock that can be set, a time line that only moves forward and by which waiting is
measured, and a storage of any kind. It keeps the number of the next login context, the numbers of
the contexts that have been released, a journal of the exchanges with the authentication provider and
the token endpoint, and a log.

A `Scene` is a world together with what one process holds in its memory: the record it is working
on and a memory of its own.
-/

namespace CredentialLease

/-! ### Log -/

/-- How serious a log line is. -/
inductive LogLevel where
  | error
  | warn
  | info
deriving DecidableEq, Inhabited

/-- The name of a level. -/
def LogLevel.name : LogLevel → String
  | error => "ERROR"
  | warn => "WARN"
  | info => "INFO"

/-- The part of the program that a log line comes from. -/
inductive LogSource where
  | program
  | login
  | lifecycle
  | renewer
deriving DecidableEq, Inhabited

/-- The name of a part, by which a log can be filtered. -/
def LogSource.name : LogSource → String
  | program => "keylease"
  | login => "keylease::login"
  | lifecycle => "keylease::lifecycle"
  | renewer => "keylease::renewer"

/-- A line of the log. -/
structure LogLine where
  level : LogLevel
  source : LogSource
  message : String
  /-- The code of the error that the line reports. -/
  code : Option String
  /-- The text of the error that the line reports. -/
  error : Option String
  /-- What else the line tells, by name. -/
  details : List (String × String)
deriving DecidableEq, Inhabited

/-- Whether a line tells something of a name. -/
def LogLine.tells (line : LogLine) (name : String) : Bool :=
  name = "message" || (name = "code" && line.code.isSome) || (name = "err" && line.error.isSome)
    || (line.details.lookup name).isSome

/-! ### Exchanges -/

/-- An authenticated identity. -/
structure Identity where
  principal : String
  material : SecretMaterial
deriving DecidableEq, Inhabited

/-- A handle to an authenticated identity. Handles of one number share their state. -/
structure AuthenticatedContext where
  number : Nat
  identity : Identity
deriving DecidableEq, Inhabited

/-- What a login that succeeds gives. -/
inductive Admission where
  /-- An identity, for which a context of its own is made. -/
  | fresh (identity : Identity)
  /-- A context that the provider has, which may have been handed out before and even released. -/
  | shared (context : AuthenticatedContext)
deriving DecidableEq, Inhabited

/-- What is asked of a token endpoint. -/
structure IssueRequest where
  name : String
  /-- The lifetime asked for; none leaves it to the service. -/
  lifetime : Option Duration
deriving DecidableEq, Inhabited

/-- A logout. -/
structure Logout where
  context : AuthenticatedContext
  /-- The error with which the provider answered, if it did. -/
  failure : Option CredentialError
deriving DecidableEq, Inhabited

/-- An exchange with the authentication provider or the token endpoint. -/
inductive Exchange where
  /-- A login that succeeded. -/
  | loggedIn (context : AuthenticatedContext)
  | loggedOut (logout : Logout)
  /-- A call of the token endpoint. -/
  | called (context : AuthenticatedContext) (request : IssueRequest)
deriving DecidableEq, Inhabited

/-! ### Worlds -/

/-- What an activity finds around it. -/
structure World (κ : Type) where
  /-- The reading of the clock. -/
  now : Instant
  /-- The time that has passed since the start. -/
  elapsed : Duration
  storage : κ
  /-- The random identifiers in the order in which they are drawn. -/
  identifiers : Nat → String
  /-- How many identifiers have been drawn. -/
  drawn : Nat
  /-- The number of the next context that is made. -/
  contexts : Nat
  /-- The numbers of the contexts that have been released. -/
  released : List Nat
  /-- The exchanges so far, in order. -/
  journal : List Exchange
  /-- The log so far, in order. -/
  log : List LogLine

namespace World

variable {κ : Type}

/-- A world at its start. -/
def start (now : Instant) (storage : κ) (identifiers : Nat → String) : World κ :=
  ⟨now, ⟨0⟩, storage, identifiers, 0, 0, [], [], []⟩

/-- The world after some time has passed. -/
def advance (duration : Duration) (world : World κ) : World κ :=
  { world with
    now := world.now.plus duration
    elapsed := ⟨world.elapsed.nanos + duration.nanos⟩ }

/-- The world with another line in its log. -/
def logging (line : LogLine) (world : World κ) : World κ :=
  { world with log := world.log ++ [line] }

/-- The world with an informative line in its log. -/
def info (source : LogSource) (message : String) (details : List (String × String))
    (world : World κ) : World κ :=
  world.logging ⟨.info, source, message, none, none, details⟩

/-- The world with a warning about an error in its log. -/
def warn (source : LogSource) (message error : String) (details : List (String × String))
    (world : World κ) : World κ :=
  world.logging ⟨.warn, source, message, none, some error, details⟩

/-- The world with another exchange in its journal. -/
def noting (exchange : Exchange) (world : World κ) : World κ :=
  { world with journal := world.journal ++ [exchange] }

/-- The next random identifier, and the world after it is drawn. -/
def draw (world : World κ) : String × World κ :=
  (world.identifiers world.drawn, { world with drawn := world.drawn + 1 })

end World

/-- A world and what one process holds in its memory. -/
structure Scene (κ μ : Type) where
  world : World κ
  /-- The record that the process is working on. -/
  record : CredentialRecord
  memory : μ

/-- The scene with its world changed. -/
def Scene.mapWorld {κ μ : Type} (f : World κ → World κ) (scene : Scene κ μ) : Scene κ μ :=
  { scene with world := f scene.world }

end CredentialLease
