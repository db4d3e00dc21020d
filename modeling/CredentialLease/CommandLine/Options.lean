import CredentialLease.Number.Digits

/-!
# Reading the options of a command line

A command line is a sequence of options, each with a value, and at the top level the name of a
subcommand with options of its own. A value stands in the argument after its option or behind an
equals sign. A separate value does not begin with a hyphen, except that a lone hyphen is a value,
and for some options so is a negative number. Two hyphens alone end the options.

An option that is absent takes its value from the variable of the environment that belongs to it,
if that is set, even to an empty text.
-/

namespace CredentialLease.CommandLine

/-! ### Errors -/

/-- Why a command line is not run. -/
inductive UsageError where
  | displayHelp
  | displayHelpOnMissingSubcommand
  | displayVersion
  | missingSubcommand
  | invalidSubcommand
  | unknownArgument
  | invalidValue
  | valueValidation
  | argumentConflict
  | missingRequiredArgument
  | tooManyValues
deriving DecidableEq, Inhabited

/-- The name of an error. -/
def UsageError.name : UsageError → String
  | displayHelp => "DisplayHelp"
  | displayHelpOnMissingSubcommand => "DisplayHelpOnMissingArgumentOrSubcommand"
  | displayVersion => "DisplayVersion"
  | missingSubcommand => "MissingSubcommand"
  | invalidSubcommand => "InvalidSubcommand"
  | unknownArgument => "UnknownArgument"
  | invalidValue => "InvalidValue"
  | valueValidation => "ValueValidation"
  | argumentConflict => "ArgumentConflict"
  | missingRequiredArgument => "MissingRequiredArgument"
  | tooManyValues => "TooManyValues"

/-- Whether the user asked for what is shown, so that nothing went wrong. -/
def UsageError.isRequested : UsageError → Bool
  | displayHelp => true
  | displayVersion => true
  | _ => false

/-! ### Options -/

/-- What the value of an option must be. -/
inductive ValueKind where
  | text
  /-- A text that is not empty. -/
  | path
  /-- A number in 64 bits without a sign. -/
  | unsigned
  /-- A number in 64 bits with a sign. It may stand alone although it begins with a hyphen. -/
  | signed
deriving DecidableEq, Inhabited

/-- An option. -/
structure OptionSpec where
  name : String
  /-- The variable of the environment that stands in for the option. -/
  environmentName : String
  kind : ValueKind
  /-- Whether there must be a value. -/
  required : Bool
deriving DecidableEq, Inhabited

/-- What can stand on one level of a command line. -/
structure Level where
  options : List OptionSpec
  subcommands : List String
deriving Inhabited

namespace Level

/-- The option of a name. -/
def option? (level : Level) (name : String) : Option OptionSpec :=
  level.options.find? (·.name = name)

/-- Whether the level chooses a subcommand. -/
def isTop (level : Level) : Bool := !level.subcommands.isEmpty

/-- Whether a text names a subcommand, of which help is one. -/
def isSubcommand (level : Level) (text : String) : Bool :=
  level.isTop && (text = "help" || level.subcommands.contains text)

end Level

/-- Checks a value. -/
def ValueKind.check (kind : ValueKind) (value : String) : Except UsageError Unit :=
  match kind with
  | text => .ok ()
  | path => if value = "" then .error .invalidValue else .ok ()
  | unsigned =>
    if (Number.parseUnsigned 64 value.toList).isSome then .ok () else .error .valueValidation
  | signed =>
    if (Number.parseSigned 64 value.toList).isSome then .ok () else .error .valueValidation

/-! ### Values -/

/-- The values of options by name. -/
abbrev Values := List (String × String)

/-- An option whose value is not settled yet. -/
structure Pending where
  option : OptionSpec
  /-- Its value; none while the next argument is awaited. -/
  value : Option String
deriving Inhabited

/-- What has been read of a level. -/
structure Progress where
  values : Values
  pending : Option Pending
  /-- Whether the options have ended. -/
  trailing : Bool
deriving Inhabited

namespace Progress

/-- Nothing has been read. -/
def initial : Progress := ⟨[], none, false⟩

/-- The option that awaits its value in the next argument. -/
def awaiting (progress : Progress) : Option OptionSpec :=
  match progress.pending with
  | some ⟨option, none⟩ => some option
  | _ => none

/-- Takes over the value of an option. -/
def accept (progress : Progress) (option : OptionSpec) (value : String) :
    Except UsageError Progress := do
  if (progress.values.lookup option.name).isSome then throw .argumentConflict
  option.kind.check value
  return { progress with values := progress.values ++ [(option.name, value)] }

/-- Settles the pending option. -/
def resolve (progress : Progress) : Except UsageError Progress :=
  match progress.pending with
  | none => .ok progress
  | some ⟨_, none⟩ => .error .invalidValue
  | some ⟨option, some value⟩ => { progress with pending := none }.accept option value

end Progress

/-! ### Arguments -/

/-- Whether a text is a negative number: a hyphen and digits, with at most one point after the
first of them and at most one exponent mark before the last. -/
def isNegativeNumber (argument : String) : Bool :=
  match argument.toList with
  | '-' :: digits =>
    let rec scan (position : Nat) (point exponent : Bool) : List Char → Bool
      | [] => true
      | c :: rest =>
        if Number.isDigit c then scan (position + 1) point exponent rest
        else if c = '.' then
          !point && !exponent && 0 < position && scan (position + 1) true exponent rest
        else if c = 'e' then
          !exponent && 0 < position && !rest.isEmpty && scan (position + 1) point true rest
        else false
    !digits.isEmpty && scan 0 false false digits
  | _ => false

/-- An argument that begins with two hyphens: a name, and a value behind an equals sign. -/
def splitLong (argument : List Char) : String × Option String :=
  match argument.dropWhile (· ≠ '=') with
  | _ :: value =>
    (String.ofList (argument.takeWhile (· ≠ '=')), some (String.ofList value))
  | [] => (String.ofList argument, none)

/-- Reads an argument that begins with two hyphens and goes on after them. -/
def readLong (level : Level) (progress : Progress) (argument : List Char) :
    Except UsageError Progress :=
  let (name, attached) := splitLong argument
  match level.option? name, attached with
  | some option, some value => do (← progress.resolve).accept option value
  | some option, none => do
    return { ← progress.resolve with pending := some ⟨option, none⟩ }
  | none, attached =>
    let shown : Option UsageError :=
      if name = "help" then some .displayHelp
      else if name = "version" ∧ level.isTop then some .displayVersion
      else none
    match shown, attached with
    | some _, some _ => .error .tooManyValues
    | some shown, none => do
      let _ ← progress.resolve
      throw shown
    | none, _ => .error .unknownArgument

/-- Reads an argument that begins with one hyphen and goes on after it. There are only options
that show something, so the first letter decides. -/
def readShort (level : Level) (progress : Progress) (letter : Char) :
    Except UsageError Progress :=
  if letter = 'h' then do
    let _ ← progress.resolve
    throw .displayHelp
  else if letter = 'V' ∧ level.isTop then do
    let _ ← progress.resolve
    throw .displayVersion
  else .error .unknownArgument

/-- Reads an argument that is no option: the value that is awaited, if one is. -/
def readPlain (level : Level) (progress : Progress) (argument : String) :
    Except UsageError Progress :=
  match progress.awaiting, progress.trailing with
  | some option, false => .ok { progress with pending := some ⟨option, some argument⟩ }
  | _, trailing =>
    .error (if level.isTop ∧ !(trailing ∧ level.isSubcommand argument) then .invalidSubcommand
      else .unknownArgument)

/-- Reads one argument. -/
def readArgument (level : Level) (progress : Progress) (argument : String) :
    Except UsageError Progress :=
  if progress.trailing then readPlain level progress argument
  else
    match argument.toList with
    | ['-', '-'] => .ok { progress with trailing := true }
    | '-' :: '-' :: rest => readLong level progress rest
    | '-' :: letter :: _ =>
      match progress.awaiting with
      | some ⟨_, _, .signed, _⟩ =>
        if isNegativeNumber argument then readPlain level progress argument
        else readShort level progress letter
      | _ => readShort level progress letter
    | _ => readPlain level progress argument

/-- The subcommand of a level and its arguments, if there is one, after the options before it. -/
def readLevel (level : Level) (progress : Progress) :
    List String → Except UsageError (Progress × Option (String × List String))
  | [] => .ok (progress, none)
  | argument :: rest =>
    if !progress.trailing ∧ progress.awaiting.isNone ∧ level.isSubcommand argument then
      .ok (progress, some (argument, rest))
    else do readLevel level (← readArgument level progress argument) rest

/-! ### Environment -/

/-- Adds the values of the environment for options that are absent, in the order of the
options. -/
def addEnvironment (environment : Values) (values : Values) :
    List OptionSpec → Except UsageError Values
  | [] => .ok values
  | option :: rest =>
    match values.lookup option.name, environment.lookup option.environmentName with
    | none, some value => do
      option.kind.check value
      addEnvironment environment (values ++ [(option.name, value)]) rest
    | _, _ => addEnvironment environment values rest

/-- Whether a required option has no value. -/
def lacksRequired (level : Level) (values : Values) : Bool :=
  level.options.any fun option => option.required && (values.lookup option.name).isNone

/-- The values of a level at the end of its arguments. -/
def Progress.finish (progress : Progress) (level : Level) (environment : Values) :
    Except UsageError Values := do
  addEnvironment environment (← progress.resolve).values level.options

end CredentialLease.CommandLine
