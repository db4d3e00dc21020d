import CredentialLease.HostName.Ascii
import CredentialLease.Http.Percent
import CredentialLease.Text.Utf8

/-!
# Hosts of web addresses

A host is a numeric address of four bytes, an address in brackets, or a name. A name of which the
last part is a number is a numeric address or nothing. All other names are left to the system to
look up, in ASCII.
-/

namespace CredentialLease

/-- Where a request goes. -/
inductive UrlHost where
  /-- An address of four bytes, as a number. -/
  | ipv4 (address : Nat)
  /-- An address in brackets. -/
  | ipv6 (text : String)
  | name (text : String)
deriving DecidableEq, Inhabited

namespace UrlHost

/-! ### Numeric addresses -/

/-- A part of a numeric address: decimal, octal after `0`, or hexadecimal after `0x`. -/
def parseAddressPart : List Char → Option Nat
  | [] => none
  | '0' :: 'x' :: digits => Number.parseInBase 16 digits
  | '0' :: 'X' :: digits => Number.parseInBase 16 digits
  | '0' :: d :: digits => Number.parseInBase 8 (d :: digits)
  | digits => Number.parseInBase 10 digits

/-- The parts of a dotted name, without an empty one at its end. -/
def labels (name : List Char) : List (List Char) :=
  let parts := Text.splitOn '.' name
  match parts.reverse with
  | [] :: more@(_ :: _) => more.reverse
  | _ => parts

/-- Whether the last part of a dotted name makes it a numeric address. -/
def endsInNumber (name : List Char) : Bool :=
  match (labels name).getLast? with
  | some label =>
    (label ≠ [] && label.all Number.isDigit) ||
      (match label with
        | '0' :: x :: digits =>
          (x == 'x' || x == 'X') && digits.all fun c => (Number.hexDigit c).isSome
        | _ => false)
  | none => false

/-- The address of four bytes that a dotted name spells. All parts but the last are one byte; the
last one fills the rest. -/
def parseIpv4 (name : List Char) : Option Nat := do
  let parts ← (labels name).mapM parseAddressPart
  if 4 < parts.length then none
  else
    let last ← parts.getLast?
    let bytes := parts.dropLast
    if bytes.all (· < 256) ∧ last < Bytes.capacity (4 - bytes.length) then
      some (bytes.foldl (fun n b => n * 256 + b) 0 * Bytes.capacity (4 - bytes.length) + last)
    else none

/-- A numeric address with its bytes in decimal. -/
def dotted (address : Nat) : String :=
  String.intercalate "." ([16777216, 65536, 256, 1].map fun unit => toString (address / unit % 256))

/-! ### Addresses in brackets -/

/-- Whether a text is one group of an address in brackets. -/
def isIpv6Group (text : List Char) : Bool :=
  text ≠ [] && text.length ≤ 4 && text.all fun c => (Number.hexDigit c).isSome

/-- Whether a text is four decimal bytes without leading zeros. -/
def isDottedQuad (text : List Char) : Bool :=
  let parts := Text.splitOn '.' text
  parts.length = 4 && parts.all fun part =>
    match Number.parseNat part with
    | some n => n < 256 && (part.length = 1 || part.head? ≠ some '0')
    | none => false

/-- How many groups a part of an address in brackets has; four decimal bytes at the end of an
address count for two. -/
def ipv6Groups (text : List Char) (atEnd : Bool) : Option Nat :=
  if text = [] then some 0
  else
    let groups := Text.splitOn ':' text
    if groups.all isIpv6Group then some groups.length
    else if atEnd && groups.dropLast.all isIpv6Group && isDottedQuad (groups.getLast?.getD []) then
      some (groups.length + 1)
    else none

/-- The texts before and after the first double colon. -/
def splitDoubleColon : List Char → Option (List Char × List Char)
  | ':' :: ':' :: rest => some ([], rest)
  | c :: rest => (splitDoubleColon rest).map fun (before, after) => (c :: before, after)
  | [] => none

/-- Whether a text is an address in brackets: eight groups, of which a double colon can stand for
one or more. -/
def isIpv6 (text : List Char) : Bool :=
  match splitDoubleColon text with
  | none => ipv6Groups text true == some 8
  | some (before, after) =>
    match ipv6Groups before false, ipv6Groups after true with
    | some m, some n => m + n ≤ 7
    | _, _ => false

/-! ### Hosts -/

/-- The host that a text names. -/
def parse (text : List Char) : Option UrlHost :=
  match text with
  | [] => none
  | '[' :: rest =>
    match rest.reverse with
    | ']' :: inner =>
      if isIpv6 inner.reverse then
        some (.ipv6 (String.ofList (inner.reverse.map Char.toLower)))
      else none
    | _ => none
  | _ => do
    let name ← HostName.toAscii (← ofUtf8 (Percent.decode text)).toList
    if endsInNumber name then (parseIpv4 name).map .ipv4
    else some (.name (String.ofList name))

/-- The text of a host. -/
def text : UrlHost → String
  | ipv4 address => dotted address
  | ipv6 text => "[" ++ text ++ "]"
  | name text => text

end UrlHost

end CredentialLease
