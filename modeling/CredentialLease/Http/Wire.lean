import CredentialLease.Http.Message

/-!
# Requests and replies as bytes

A request is written as a message of version 1.1 that asks the server to close the connection
after its reply. A reply is read from all the bytes that arrived until then. Its body is as long
as its length header says, or is the chunks that it is made of, or is everything after the
headers.
-/

namespace CredentialLease.Wire

/-! ### Requests -/

/-- The bytes of a request. -/
def encode (request : HttpRequest) : Bytes :=
  let body := utf8 request.body
  let lines : List String :=
    [s!"POST {request.url.target} HTTP/1.1",
     "host: " ++ request.url.host.text ++ ":" ++ toString request.url.port]
    ++ request.authorizations.map ("authorization: " ++ ·) ++
    ["content-type: application/json",
     s!"content-length: {body.length}",
     "accept: */*",
     "connection: close",
     "", ""]
  utf8 (String.intercalate "\r\n" lines) ++ body

/-! ### Replies -/

/-- The bytes before the first line break, and those after it. -/
def splitLine : Bytes → Option (Bytes × Bytes)
  | [] => none
  | 13 :: 10 :: rest => some ([], rest)
  | b :: rest => (splitLine rest).map fun (line, after) => (b :: line, after)

/-- The lines before the first empty one, and the bytes after that; `fuel` bounds the number of
lines. -/
def headLines : Nat → Bytes → Option (List String × Bytes)
  | 0, _ => none
  | fuel + 1, bytes => do
    match ← splitLine bytes with
    | ([], rest) => return ([], rest)
    | (line, rest) => do
      let (more, rest) ← headLines fuel rest
      return (ofUtf8Lossy line :: more, rest)

/-- The status in the first line of a reply. -/
def statusOf (line : String) : Option Nat :=
  match (line.toList.dropWhile (· ≠ ' ')).tail.takeWhile (· ≠ ' ') with
  | [a, b, c] => Number.parseNat [a, b, c]
  | _ => none

/-- The value of a header of a name in lower case. -/
def header (name : String) (lines : List String) : Option (List Char) :=
  lines.findSome? fun line =>
    let field := line.toList.takeWhile (· ≠ ':')
    if String.ofList (field.map Char.toLower) = name then
      let value := (line.toList.drop (field.length + 1)).dropWhile (· = ' ')
      some (value.reverse.dropWhile (· = ' ')).reverse
    else none

/-- The bytes of a body in chunks, unless it is incomplete; `fuel` bounds the number of chunks. -/
def unchunk : Nat → Bytes → Option Bytes
  | 0, _ => none
  | fuel + 1, bytes => do
    let (line, rest) ← splitLine bytes
    let digits := (ofUtf8Lossy line).toList.takeWhile fun c => (Number.hexDigit c).isSome
    if digits = [] then none
    else
      let size ← Number.parseInBase 16 digits
      if size = 0 then some []
      else if rest.length < size + 2 then none
      else return rest.take size ++ (← unchunk fuel (rest.drop (size + 2)))

/-- The body of a reply, unless it is incomplete. -/
def bodyOf (status : Nat) (lines : List String) (rest : Bytes) : Option Bytes :=
  if HttpReply.isBodiless status then some []
  else if header "transfer-encoding" lines = some "chunked".toList then
    unchunk (rest.length + 1) rest
  else
    match (header "content-length" lines).bind Number.parseNat with
    | some length => if rest.length < length then none else some (rest.take length)
    | none => some rest

/-- The reply that bytes spell, after any that only announce it. -/
def decode : Nat → Bytes → Option HttpReply
  | 0, _ => none
  | fuel + 1, bytes => do
    let (lines, rest) ← headLines (bytes.length + 1) bytes
    let status ← statusOf (← lines.head?)
    if status < 200 ∧ status ≠ 101 then decode fuel rest
    else return ⟨status, bodyOf status lines.tail rest⟩

/-- The reply in all the bytes that arrived, or the failure of the exchange. -/
def reply (bytes : Bytes) : Except TransportError HttpReply :=
  match decode (bytes.length + 1) bytes with
  | some reply => .ok reply
  | none => .error .unreachable

end CredentialLease.Wire
