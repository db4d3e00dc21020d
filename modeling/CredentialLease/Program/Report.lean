import CredentialLease.Program.Handlers
import CredentialLease.Program.LogFilter

/-!
# What the program tells its caller

The program prints the text of its command, writes the log lines that the filter lets through, and
exits with a code: 0 when all went well, 2 when the command line, the configuration or the address
was refused, and 1 for every other failure. A failure of a command is the last line of the log.
-/

namespace CredentialLease.Program

/-- The name and the version of the program. -/
def versionText : String := "keylease 0.3.2"

/-! ### Exit codes -/

/-- The exit code for a failure. -/
def failureCode : Failure → Nat
  | .credential (.addressFormat _) => 2
  | .credential (.invalidConfiguration _) => 2
  | _ => 1

/-- The exit code for what a command came to. -/
def exitCode : Except Failure String → Nat
  | .ok _ => 0
  | .error failure => failureCode failure

/-- The exit code for a command line that is not run. -/
def usageCode (error : CommandLine.UsageError) : Nat := if error.isRequested then 0 else 2

/-! ### Start -/

/-- What becomes of a command line. -/
inductive Start where
  /-- It is not run, and its form is explained. -/
  | usage (error : CommandLine.UsageError)
  /-- It is not run, for its values make no sense. -/
  | refused (failure : Failure)
  | run (line : CommandLine)

/-- What becomes of arguments and an environment. -/
def start (environment : CommandLine.Values) (arguments : List String) : Start :=
  match CommandLine.parse environment arguments with
  | .error error => .usage error
  | .ok line =>
    match line.validate with
    | .error failure => .refused failure
    | .ok () => .run line

/-! ### Log -/

/-- The log line for the failure of a command. -/
def fatalLine (failure : Failure) : LogLine :=
  ⟨.error, .program, "fatal: " ++ failure.message, none, none, []⟩

/-- The lines of a log that a command line lets through. -/
def written (line : CommandLine) (log : List LogLine) : List LogLine :=
  log.filter (LogFilter.ofText line.logLevel).allows

end CredentialLease.Program
