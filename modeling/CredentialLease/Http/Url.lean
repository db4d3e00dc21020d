import CredentialLease.Http.BasicScheme
import CredentialLease.Http.Host

/-!
# Absolute web addresses

`Url.parse` reads an address of the schemes `http` and `https` as a browser does: white space
around it and line breaks inside are dropped, a backslash counts as a slash, what stands before
the last `@` of the authority is a login, dot segments are resolved, and characters that may not
stand in a path or a query are percent-encoded. A fragment is dropped, but counts towards the
length of the address, which is limited.
-/

namespace CredentialLease

/-- A name, and perhaps a password, in an address. -/
structure UrlLogin where
  name : String
  password : Option String
deriving DecidableEq, Inhabited

/-- An absolute address of the schemes `http` and `https`. -/
structure Url where
  /-- Whether the scheme is `https`. -/
  secure : Bool
  login : Option UrlLogin
  host : UrlHost
  port : Nat
  /-- The path, percent-encoded, with its leading slash. -/
  path : String
  /-- The query, percent-encoded, without its question mark. -/
  query : Option String
deriving DecidableEq, Inhabited

/-- The header value that authorizes a request by a login. -/
def UrlLogin.authorization (login : UrlLogin) : String :=
  basicScheme (utf8 login.name) (utf8 (login.password.getD ""))

namespace Url

/-- What a request asks a server for. -/
def target (url : Url) : String :=
  match url.query with
  | some query => url.path ++ "?" ++ query
  | none => url.path

/-- The port that requests of a scheme go to when an address gives none. -/
def defaultPort (secure : Bool) : Nat := if secure then 443 else 80

/-- The address as a text, without its login. -/
def text (url : Url) : String :=
  let scheme := if url.secure then "https://" else "http://"
  let port := if url.port = defaultPort url.secure then "" else ":" ++ toString url.port
  scheme ++ url.host.text ++ port ++ url.target

/-! ### Characters -/

/-- Whether a character may stand in a path as it is. -/
def keepInPath (c : Char) : Bool :=
  ['"', '#', '<', '>', '?', Char.ofNat 96, '\x7b', '\x7d'].all (· != c)

/-- Whether a character may stand in a query as it is. -/
def keepInQuery (c : Char) : Bool := ['"', '#', '<', '>', '\''].all (· != c)

/-- Whether a character may stand in a fragment as it is. -/
def keepInFragment (c : Char) : Bool := ['"', '<', '>', Char.ofNat 96].all (· != c)

/-- Whether a character ends the authority. -/
def endsAuthority (c : Char) : Bool := c == '/' || c == '\\' || c == '?' || c == '#'

/-! ### Scheme -/

/-- Whether a character may stand in a scheme after its first letter. -/
def isSchemeChar (c : Char) : Bool :=
  c.isAlphanum || c == '+' || c == '-' || c == '.'

/-- The text without the control characters and spaces at its ends, and without tabs and line
breaks. -/
def cleaned (text : List Char) : List Char :=
  let isOuter (c : Char) : Bool := c.toNat ≤ 0x20
  let inner := ((text.dropWhile isOuter).reverse.dropWhile isOuter).reverse
  inner.filter fun c => c ≠ '\t' ∧ c ≠ '\n' ∧ c ≠ '\r'

/-- Whether a text begins with a web scheme, and if so whether that is `https`, with the text
after its colon. -/
def splitScheme (text : List Char) : Option (Bool × List Char) :=
  let scheme := text.takeWhile isSchemeChar
  match text.dropWhile isSchemeChar with
  | ':' :: rest =>
    let name := String.ofList (scheme.map Char.toLower)
    if name = "http" then some (false, rest)
    else if name = "https" then some (true, rest)
    else none
  | _ => none

/-! ### Authority -/

/-- The texts of an authority before and after its last `@`. -/
def splitLogin (authority : List Char) : List Char × List Char :=
  let address := (authority.reverse.takeWhile (· ≠ '@')).reverse
  (authority.take (authority.length - address.length - 1), address)

/-- The login that a text gives: a name up to the first colon and a password after it, both
percent-encoded. An empty password, or one that spells no text, counts as none, and so does a
login with neither. -/
def parseLogin (text : List Char) : Option UrlLogin := do
  let name ← ofUtf8 (Percent.decode (text.takeWhile (· ≠ ':')))
  let password := match text.dropWhile (· ≠ ':') with
    | _ :: c :: more => ofUtf8 (Percent.decode (c :: more))
    | _ => none
  if name = "" ∧ password = none then none else some ⟨name, password⟩

/-- The texts of the host and the port of an authority. A colon inside brackets separates
nothing. -/
def splitPort (inBrackets : Bool) : List Char → List Char × Option (List Char)
  | [] => ([], none)
  | c :: rest =>
    if c = ':' ∧ !inBrackets then ([], some rest)
    else
      let after := splitPort (c = '[' || (inBrackets && c ≠ ']')) rest
      (c :: after.1, after.2)

/-- The port that a text names; an absent or empty one is that of the scheme. -/
def parsePort (secure : Bool) : Option (List Char) → Option Nat
  | none => some (defaultPort secure)
  | some [] => some (defaultPort secure)
  | some digits => (Number.parseNat digits).filter (· < 65536)

/-! ### Path -/

/-- Whether a segment stands for the one that it is in. -/
def isDot (segment : List Char) : Bool :=
  [".", "%2e"].contains (String.ofList (segment.map Char.toLower))

/-- Whether a segment stands for the one above. -/
def isDoubleDot (segment : List Char) : Bool :=
  ["..", ".%2e", "%2e.", "%2e%2e"].contains (String.ofList (segment.map Char.toLower))

/-- Whether a segment names a drive. -/
def isDrive : List Char → Bool
  | [letter, mark] => letter.isAlpha && (mark == ':' || mark == '|')
  | _ => false

/-- The segments above the last one, all given in reverse. There is nothing above a drive. -/
def above : List (List Char) → List (List Char)
  | [] => []
  | segment :: rest => if isDrive segment then segment :: rest else rest

/-- The segments of a path without dot segments, given those already read in reverse. -/
def resolveDots (read : List (List Char)) : List (List Char) → List (List Char)
  | [] => read.reverse
  | segment :: rest =>
    if isDoubleDot segment then
      resolveDots (if rest = [] then [] :: above read else above read) rest
    else if isDot segment then resolveDots (if rest = [] then [] :: read else read) rest
    else resolveDots (segment :: read) rest

/-- The path that a text after the authority names. -/
def parsePath (text : List Char) : String :=
  let slashed := text.map fun c => if c = '\\' then '/' else c
  let segments := match slashed with
    | '/' :: rest => Text.splitOn '/' rest
    | rest => Text.splitOn '/' rest
  String.ofList ((resolveDots [] segments).flatMap fun segment =>
    '/' :: Percent.encodeUnless keepInPath segment)

/-! ### Addresses -/

/-- How long an address may be, with its fragment. -/
def longest : Nat := 65534

/-- The address that a text names, if it names one. -/
def parse (text : String) : Option Url := do
  let (secure, rest) ← splitScheme (cleaned text.toList)
  let rest := rest.dropWhile fun c => c == '/' || c == '\\'
  let authority := rest.takeWhile fun c => !endsAuthority c
  let rest := rest.dropWhile fun c => !endsAuthority c
  let (loginText, address) := splitLogin authority
  let (hostText, portText) := splitPort false address
  let host ← UrlHost.parse hostText
  let port ← parsePort secure portText
  let located := rest.takeWhile (· ≠ '#')
  let path := parsePath (located.takeWhile (· ≠ '?'))
  let query := match located.dropWhile (· ≠ '?') with
    | _ :: query => some (String.ofList (Percent.encodeUnless keepInQuery query))
    | [] => none
  let url : Url := ⟨secure, parseLogin loginText, host, port, path, query⟩
  let fragment := match rest.dropWhile (· ≠ '#') with
    | _ :: fragment => '#' :: Percent.encodeUnless keepInFragment fragment
    | [] => []
  if url.text.length + fragment.length ≤ longest then some url else none

end Url

end CredentialLease
