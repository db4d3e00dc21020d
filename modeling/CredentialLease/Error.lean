/-!
# The failures of the library

A `CredentialError` is a failure of the credential lifecycle or of addressing: it has a stable
code for machines, a text for people, and says whether a control loop may simply try again. A
`Failure` is any failure of an operation: one of these, one of the file system, one of the
transport, or a plain message.
-/

namespace CredentialLease

/-! ### Credential errors -/

/-- A failure of the credential lifecycle or of addressing, with its details. -/
inductive CredentialError where
  /-- The target of an address is malformed or ambiguous. -/
  | addressFormat (details : String)
  /-- Options exclude each other or are not allowed. -/
  | invalidConfiguration (details : String)
  /-- The login failed. -/
  | authentication (details : String)
  /-- No token was issued after a successful login. -/
  | issuance (details : String)
  /-- A stored value is not a token. -/
  | malformedToken (details : String)
deriving DecidableEq, Inhabited

namespace CredentialError

/-- The code of an error. -/
def code : CredentialError → String
  | addressFormat _ => "ADDRESS_FORMAT"
  | invalidConfiguration _ => "INVALID_CONFIGURATION"
  | authentication _ => "AUTHENTICATION"
  | issuance _ => "ISSUANCE"
  | malformedToken _ => "MALFORMED_TOKEN"

/-- The text of an error. -/
def message : CredentialError → String
  | addressFormat details => "invalid resource address: " ++ details
  | invalidConfiguration details => "invalid configuration: " ++ details
  | authentication details => "authentication failed: " ++ details
  | issuance details => "token issuance failed: " ++ details
  | malformedToken details => "malformed token: " ++ details

/-- Whether a control loop may try again at its next tick. -/
def retryable : CredentialError → Bool
  | authentication _ => true
  | issuance _ => true
  | _ => false

end CredentialError

/-! ### Failures of the system -/

/-- A failure of an operation on files. -/
inductive FileError where
  | notFound
  | alreadyExists
  | notDirectory
  | isDirectory
  | busy
  | nameTooLong
  | noSpace
  /-- A file that should hold text does not hold valid UTF-8. -/
  | notUtf8
  /-- A path holds the character that ends file names. -/
  | nulInPath
deriving DecidableEq, Inhabited

/-- The text of a file error. -/
def FileError.message : FileError → String
  | notFound => "No such file or directory (os error 2)"
  | alreadyExists => "File exists (os error 17)"
  | notDirectory => "Not a directory (os error 20)"
  | isDirectory => "Is a directory (os error 21)"
  | busy => "Device or resource busy (os error 16)"
  | nameTooLong => "File name too long (os error 36)"
  | noSpace => "No space left on device (os error 28)"
  | notUtf8 => "stream did not contain valid UTF-8"
  | nulInPath => "file name contained an unexpected NUL byte"

/-- A failure of an exchange with a server. -/
inductive TransportError where
  /-- The request cannot be built from its address. -/
  | invalidRequest
  /-- The server cannot be reached or does not answer. -/
  | unreachable
  /-- The reply is cut short or is not what was asked for. -/
  | undecodable
deriving DecidableEq, Inhabited

/-- The text of a transport error. -/
def TransportError.message : TransportError → String
  | invalidRequest => "builder error"
  | unreachable => "error sending request"
  | undecodable => "error decoding response body"

/-! ### Failures -/

/-- A failure of an operation. -/
inductive Failure where
  | credential (error : CredentialError)
  | file (error : FileError)
  | transport (error : TransportError)
  | other (message : String)
deriving DecidableEq, Inhabited

/-- The text of a failure. -/
def Failure.message : Failure → String
  | credential error => error.message
  | file error => error.message
  | transport error => error.message
  | other message => message

/-- A credential error as a failure. -/
instance : Coe CredentialError Failure := ⟨Failure.credential⟩

end CredentialLease
