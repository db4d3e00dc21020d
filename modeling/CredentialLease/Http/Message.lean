import CredentialLease.Activity.Execution
import CredentialLease.Http.Url

/-!
# Requests and replies of the token service

A request posts a JSON text to an address. A reply has a status and a body; the body may arrive
incomplete, when the connection ends before it does.
-/

namespace CredentialLease

/-- A request that posts a JSON text. -/
structure HttpRequest where
  url : Url
  /-- The value of the header that authorizes the request. An address with a login adds another. -/
  authorization : String
  /-- The JSON text. -/
  body : String
deriving DecidableEq, Inhabited

/-- The values of all headers that authorize a request, in order: the login of its address comes
first. -/
def HttpRequest.authorizations (request : HttpRequest) : List String :=
  (request.url.login.map UrlLogin.authorization).toList ++ [request.authorization]

/-- A reply. -/
structure HttpReply where
  status : Nat
  /-- The body, unless it arrived incomplete. -/
  body : Option Bytes
deriving DecidableEq, Inhabited

/-- A way to exchange requests for replies. A request that is not answered in time fails. -/
abbrev HttpTransport (κ : Type) :=
  World κ → HttpRequest → Reply (Except TransportError HttpReply)

namespace HttpReply

/-- Whether the request was successful. -/
def isSuccess (reply : HttpReply) : Bool := 200 ≤ reply.status && reply.status < 300

/-- Whether replies of a status have no body. -/
def isBodiless (status : Nat) : Bool := status < 200 || status == 204 || status == 304

/-- The standard phrases for statuses. -/
def phrases : List (Nat × String) :=
  [(100, "Continue"), (101, "Switching Protocols"), (102, "Processing"), (103, "Early Hints"),
   (200, "OK"), (201, "Created"), (202, "Accepted"), (203, "Non Authoritative Information"),
   (204, "No Content"), (205, "Reset Content"), (206, "Partial Content"), (207, "Multi-Status"),
   (208, "Already Reported"), (226, "IM Used"),
   (300, "Multiple Choices"), (301, "Moved Permanently"), (302, "Found"), (303, "See Other"),
   (304, "Not Modified"), (305, "Use Proxy"), (307, "Temporary Redirect"),
   (308, "Permanent Redirect"),
   (400, "Bad Request"), (401, "Unauthorized"), (402, "Payment Required"), (403, "Forbidden"),
   (404, "Not Found"), (405, "Method Not Allowed"), (406, "Not Acceptable"),
   (407, "Proxy Authentication Required"), (408, "Request Timeout"), (409, "Conflict"),
   (410, "Gone"), (411, "Length Required"), (412, "Precondition Failed"),
   (413, "Payload Too Large"), (414, "URI Too Long"), (415, "Unsupported Media Type"),
   (416, "Range Not Satisfiable"), (417, "Expectation Failed"), (418, "I'm a teapot"),
   (421, "Misdirected Request"), (422, "Unprocessable Entity"), (423, "Locked"),
   (424, "Failed Dependency"), (425, "Too Early"), (426, "Upgrade Required"),
   (428, "Precondition Required"), (429, "Too Many Requests"),
   (431, "Request Header Fields Too Large"), (451, "Unavailable For Legal Reasons"),
   (500, "Internal Server Error"), (501, "Not Implemented"), (502, "Bad Gateway"),
   (503, "Service Unavailable"), (504, "Gateway Timeout"), (505, "HTTP Version Not Supported"),
   (506, "Variant Also Negotiates"), (507, "Insufficient Storage"), (508, "Loop Detected"),
   (510, "Not Extended"), (511, "Network Authentication Required")]

/-- The status with its phrase. -/
def statusText (reply : HttpReply) : String :=
  toString reply.status ++ " " ++ (phrases.lookup reply.status).getD "<unknown status code>"

end HttpReply

end CredentialLease
