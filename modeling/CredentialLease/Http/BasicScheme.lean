import CredentialLease.Base64
import CredentialLease.Text.Utf8

/-!
# Names and passwords in requests

A request can be authorized by a name and a password. Its header holds both in base64, with a
colon between them.
-/

namespace CredentialLease

/-- The header value for a name and a password. -/
def basicScheme (name password : Bytes) : String :=
  "Basic " ++ Base64.encode (name ++ utf8 ":" ++ password)

end CredentialLease
