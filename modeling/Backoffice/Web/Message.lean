import Backoffice.Json.Basic
import Backoffice.Text.Bytes
import Backoffice.Web.MediaType
import Backoffice.Web.Url

namespace Backoffice.Web

inductive PartContent where
  | text (value : String)
  | file (name : String) (mime : Option String) (bytes : List UInt8)
  deriving DecidableEq, Repr

structure Part where
  name : String
  content : PartContent
  deriving DecidableEq, Repr

namespace Part

def text (name value : String) : Part := ⟨name, .text value⟩

def text? : Part → Option String
  | ⟨_, .text v⟩ => some v
  | _ => none

/-- A part can be sent unless it names a media type that is none. -/
def isSendable : Part → Bool
  | ⟨_, .file _ (some mime) _⟩ => MediaType.isValid mime
  | _ => true

end Part

structure Multipart where
  parts : List Part
  deriving DecidableEq, Repr

namespace Multipart

def textValue? (m : Multipart) (name : String) : Option String :=
  (m.parts.filter (·.name == name)).findSome? Part.text?

def hasField (m : Multipart) (name : String) : Bool := m.parts.any (·.name == name)

def fieldNames (m : Multipart) : List String := m.parts.map Part.name

end Multipart

inductive Body where
  | empty
  | json (v : Json)
  | multipart (m : Multipart)
  deriving Repr

def Body.isSendable : Body → Bool
  | .multipart m => m.parts.all Part.isSendable
  | _ => true

/-- A request as it is handed to the HTTP library: `auth` is the value that is given for its authorization
header. -/
structure Request where
  method : String
  url : Url
  auth : Option String
  body : Body
  deriving Repr

/-- The answer that a request comes to in the end. Redirects are followed before it. -/
structure Response where
  status : Nat
  body : List UInt8
  deriving DecidableEq, Repr

namespace Response

def isSuccess (r : Response) : Bool := 200 ≤ r.status && r.status < 300

end Response

abbrev Outcome := Option Response

def reason? : Nat → Option String
  | 100 => some "Continue" | 101 => some "Switching Protocols" | 102 => some "Processing"
  | 103 => some "Early Hints"
  | 200 => some "OK" | 201 => some "Created" | 202 => some "Accepted"
  | 203 => some "Non Authoritative Information" | 204 => some "No Content"
  | 205 => some "Reset Content" | 206 => some "Partial Content" | 207 => some "Multi-Status"
  | 208 => some "Already Reported" | 226 => some "IM Used"
  | 300 => some "Multiple Choices" | 301 => some "Moved Permanently" | 302 => some "Found"
  | 303 => some "See Other" | 304 => some "Not Modified" | 305 => some "Use Proxy"
  | 307 => some "Temporary Redirect" | 308 => some "Permanent Redirect"
  | 400 => some "Bad Request" | 401 => some "Unauthorized" | 402 => some "Payment Required"
  | 403 => some "Forbidden" | 404 => some "Not Found" | 405 => some "Method Not Allowed"
  | 406 => some "Not Acceptable" | 407 => some "Proxy Authentication Required"
  | 408 => some "Request Timeout" | 409 => some "Conflict" | 410 => some "Gone"
  | 411 => some "Length Required" | 412 => some "Precondition Failed"
  | 413 => some "Payload Too Large" | 414 => some "URI Too Long"
  | 415 => some "Unsupported Media Type" | 416 => some "Range Not Satisfiable"
  | 417 => some "Expectation Failed" | 418 => some "I'm a teapot"
  | 421 => some "Misdirected Request" | 422 => some "Unprocessable Entity" | 423 => some "Locked"
  | 424 => some "Failed Dependency" | 425 => some "Too Early" | 426 => some "Upgrade Required"
  | 428 => some "Precondition Required" | 429 => some "Too Many Requests"
  | 431 => some "Request Header Fields Too Large" | 451 => some "Unavailable For Legal Reasons"
  | 500 => some "Internal Server Error" | 501 => some "Not Implemented" | 502 => some "Bad Gateway"
  | 503 => some "Service Unavailable" | 504 => some "Gateway Timeout"
  | 505 => some "HTTP Version Not Supported" | 506 => some "Variant Also Negotiates"
  | 507 => some "Insufficient Storage" | 508 => some "Loop Detected" | 510 => some "Not Extended"
  | 511 => some "Network Authentication Required"
  | _ => none

def isHeaderValue (s : String) : Bool :=
  s.toList.all fun c ↦ c == '\t' || (0x20 ≤ c.toNat && c.toNat != 0x7F)

end Backoffice.Web
