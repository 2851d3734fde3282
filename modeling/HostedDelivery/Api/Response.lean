import HostedDelivery.Error
import HostedDelivery.Json.Text
import HostedDelivery.Json.Record

/-!
# Answers of the API server

An answer has a status and a body. Statuses from 400 to 599 refuse the request. A refusal says why in JSON; of one
that does not, the status line and the text are all there is to tell.
-/

namespace HostedDelivery

/-- The body of an answer: a JSON value, or a text that may spell one. -/
inductive Body where
  | json (value : Json)
  | text (text : String)
  deriving DecidableEq, Repr, Inhabited

namespace Body

/-- What a body holds, as it is written. -/
def written? : Body → Option Json.Written
  | .json value => some (.known value)
  | .text s => Json.Written.parse? s

/-- The text of a body. -/
def content : Body → String
  | .json value => value.render
  | .text s => s

end Body

/-- An answer of the API server. -/
structure Response where
  status : Nat
  body : Body
  deriving DecidableEq, Repr, Inhabited

namespace Response

/-- What a status that refuses a request is called. -/
def statusName : Nat → String
  | 400 => "Bad Request"
  | 401 => "Unauthorized"
  | 402 => "Payment Required"
  | 403 => "Forbidden"
  | 404 => "Not Found"
  | 405 => "Method Not Allowed"
  | 406 => "Not Acceptable"
  | 407 => "Proxy Authentication Required"
  | 408 => "Request Timeout"
  | 409 => "Conflict"
  | 410 => "Gone"
  | 411 => "Length Required"
  | 412 => "Precondition Failed"
  | 413 => "Payload Too Large"
  | 414 => "URI Too Long"
  | 415 => "Unsupported Media Type"
  | 416 => "Range Not Satisfiable"
  | 417 => "Expectation Failed"
  | 418 => "I'm a teapot"
  | 421 => "Misdirected Request"
  | 422 => "Unprocessable Entity"
  | 423 => "Locked"
  | 424 => "Failed Dependency"
  | 425 => "Too Early"
  | 426 => "Upgrade Required"
  | 428 => "Precondition Required"
  | 429 => "Too Many Requests"
  | 431 => "Request Header Fields Too Large"
  | 451 => "Unavailable For Legal Reasons"
  | 500 => "Internal Server Error"
  | 501 => "Not Implemented"
  | 502 => "Bad Gateway"
  | 503 => "Service Unavailable"
  | 504 => "Gateway Timeout"
  | 505 => "HTTP Version Not Supported"
  | 506 => "Variant Also Negotiates"
  | 507 => "Insufficient Storage"
  | 508 => "Loop Detected"
  | 510 => "Not Extended"
  | 511 => "Network Authentication Required"
  | _ => "<unknown status code>"

/-- Whether an answer refuses the request. -/
def isRefusal (r : Response) : Bool := 400 ≤ r.status && r.status < 600

/-- The refusal that a body tells of. -/
def refusal? (w : Json.Written) : Option Refusal := do
  let r ← w.record? ["status", "message", "reason", "code"] 4
  return {
    status := ← r.required "status" Json.Written.string?
    message := ← r.defaulted "message" "" Json.Written.string?
    reason := ← r.defaulted "reason" "" Json.Written.string?
    code := ← r.required "code" (Json.Written.natBelow? UInt16.size) }

/-- The refusal that an answer tells of. -/
def refusal (r : Response) : Refusal :=
  (r.body.written?.bind refusal?).getD {
    status := toString r.status ++ " " ++ statusName r.status
    message := Text.quoted r.body.content
    reason := "Failed to parse error data"
    code := r.status }

/-- What an answer holds, unless it refuses the request. -/
def read (read? : Json.Written → Option α) (r : Response) : Except HubError α :=
  if r.isRefusal then .error (.ofApi (.refused r.refusal))
  else match r.body.written?.bind read? with
    | some value => .ok value
    | none => .error (.ofApi .unreadable)

end Response

/-- The outcome of a removal, where the server tells only that. -/
structure RemovalStatus where
  /-- Whether it succeeded. -/
  success : Option Bool
  code : Nat
  message : String
  reason : String
  deriving DecidableEq, Repr, Inhabited

namespace RemovalStatus

/-- The kind that such an answer calls itself. -/
def kind : String := "Status"

/-- The word for the outcome. -/
def ofWord? (s : String) : Option Bool :=
  if s = "Success" then some true else if s = "Failure" then some false else none

/-- Reads the cause of a failed removal; only its form matters. -/
def cause? (w : Json.Written) : Option Unit := do
  let r ← w.record? ["reason", "message", "field"] 0
  let _ ← r.defaulted "reason" "" Json.Written.string?
  let _ ← r.defaulted "message" "" Json.Written.string?
  let _ ← r.defaulted "field" "" Json.Written.string?

/-- Reads the details of a removal; only their form matters. -/
def details? (w : Json.Written) : Option Unit := do
  let r ← w.record? ["name", "group", "kind", "uid", "causes", "retryAfterSeconds"] 0
  let _ ← r.defaulted "name" "" Json.Written.string?
  let _ ← r.defaulted "group" "" Json.Written.string?
  let _ ← r.defaulted "kind" "" Json.Written.string?
  let _ ← r.defaulted "uid" "" Json.Written.string?
  let _ ← r.defaulted "causes" [] (Json.Written.list? cause?)
  let _ ← r.defaulted "retryAfterSeconds" 0 (Json.Written.natBelow? UInt32.size)

def read? (w : Json.Written) : Option RemovalStatus := do
  let r ← w.record? ["status", "code", "message", "reason", "details"] 0
  let _ ← r.optional "details" details?
  return {
    success := ← r.optional "status" fun s => s.case?.bind ofWord?
    code := ← r.defaulted "code" 0 (Json.Written.natBelow? UInt16.size)
    message := ← r.defaulted "message" "" Json.Written.string?
    reason := ← r.defaulted "reason" "" Json.Written.string? }

end RemovalStatus
end HostedDelivery
