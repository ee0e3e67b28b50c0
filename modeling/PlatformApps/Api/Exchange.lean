/-
# Exchanges with the API server

A request names a method, a path and what is sent along; a reply has a status and a body.
A reply that reports a failure is turned into the failure it reports. A reply of success
whose body is not what was asked for is a failure of the exchange itself.
-/

import PlatformApps.Api.Target
import PlatformApps.Dialogue
import PlatformApps.Json.Reader
import PlatformApps.Json.Record
import PlatformApps.Json.Text

namespace PlatformApps

/-- What happens to the object at a path. -/
inductive ApiMethod where
  | get
  | post
  | patch
  | delete
  deriving DecidableEq, Repr

def ApiMethod.name : ApiMethod → String
  | .get => "GET"
  | .post => "POST"
  | .patch => "PATCH"
  | .delete => "DELETE"

structure ApiRequest where
  method : ApiMethod
  path : String
  /-- Names and values, not yet encoded. -/
  query : List (String × String) := []
  /-- A document and the type of its content. -/
  body : Option (String × Json) := none

/-- The request as a document, with what it does not have left out. -/
def ApiRequest.toJson (request : ApiRequest) : Json :=
  .ofPresent [
    ("method", some (.str request.method.name)),
    ("path", some (.str request.path)),
    ("query", if request.query.isEmpty then none
      else some (.ofFields (request.query.map fun entry => (entry.1, .str entry.2)))),
    ("contentType", request.body.map fun body => .str body.1),
    ("body", request.body.map Prod.snd)]

structure ApiReply where
  status : Nat
  body : String
  deriving Repr

@[reducible]
def Api : Interface := ⟨ApiRequest, fun _ => ApiReply⟩

namespace Api

/-- The phrase of a status that reports a failure. -/
def phrase? (status : Nat) : Option String :=
  match status with
  | 400 => some "Bad Request"
  | 401 => some "Unauthorized"
  | 402 => some "Payment Required"
  | 403 => some "Forbidden"
  | 404 => some "Not Found"
  | 405 => some "Method Not Allowed"
  | 406 => some "Not Acceptable"
  | 407 => some "Proxy Authentication Required"
  | 408 => some "Request Timeout"
  | 409 => some "Conflict"
  | 410 => some "Gone"
  | 411 => some "Length Required"
  | 412 => some "Precondition Failed"
  | 413 => some "Payload Too Large"
  | 414 => some "URI Too Long"
  | 415 => some "Unsupported Media Type"
  | 416 => some "Range Not Satisfiable"
  | 417 => some "Expectation Failed"
  | 418 => some "I'm a teapot"
  | 421 => some "Misdirected Request"
  | 422 => some "Unprocessable Entity"
  | 423 => some "Locked"
  | 424 => some "Failed Dependency"
  | 425 => some "Too Early"
  | 426 => some "Upgrade Required"
  | 428 => some "Precondition Required"
  | 429 => some "Too Many Requests"
  | 431 => some "Request Header Fields Too Large"
  | 451 => some "Unavailable For Legal Reasons"
  | 500 => some "Internal Server Error"
  | 501 => some "Not Implemented"
  | 502 => some "Bad Gateway"
  | 503 => some "Service Unavailable"
  | 504 => some "Gateway Timeout"
  | 505 => some "HTTP Version Not Supported"
  | 506 => some "Variant Also Negotiates"
  | 507 => some "Insufficient Storage"
  | 508 => some "Loop Detected"
  | 510 => some "Not Extended"
  | 511 => some "Network Authentication Required"
  | _ => none

def statusLine (status : Nat) : String :=
  toString status ++ " " ++ (phrase? status).getD "<unknown status code>"

/-- A failure as a document of the API server. -/
def statusDocument (status : ApiStatus) : Json :=
  .ofFields [
    ("apiVersion", .str "v1"),
    ("code", .int status.code),
    ("kind", .str "Status"),
    ("message", .str status.message),
    ("metadata", .obj []),
    ("reason", .str status.reason),
    ("status", .str status.status)]

/-- The reply where nothing is. -/
def absence (path : String) : ApiReply :=
  ⟨404, (statusDocument ⟨"Failure", path ++ " not found", "NotFound", 404⟩).render⟩

/-- The failure that a body states. -/
def statedFailure? (written : Written) : Option ApiStatus := do
  let fields ← written.record? ["status", "message", "reason", "code"]
  pure {
    status := ← Written.required? fields "status" Written.text?
    message := ← Written.defaulted? fields "message" "" Written.text?
    reason := ← Written.defaulted? fields "reason" "" Written.text?
    code := (← Written.required? fields "code" (Written.intWithin? 0 65535)).toNat }

/-- The failure that a reply reports: the one stated in the body, or the body itself. -/
def reportedFailure (reply : ApiReply) : ApiStatus :=
  match (Written.parse? reply.body).bind statedFailure? with
  | some failure => failure
  | none => ⟨statusLine reply.status, Text.quoted reply.body, "Failed to parse error data",
      reply.status⟩

/-- Sends a request to an address; yields the body of a reply of success. -/
def send (method : ApiMethod) (address : String) (parameters : List (String × String))
    (body : Option (String × Json)) : Dialogue Api String :=
  match Target.ofAddress? address parameters with
  | some target =>
    .ask (I := Api) { method, path := target.path, query := target.query, body } fun
    | .error failure => .fail failure
    | .ok (reply : ApiReply) =>
      if 400 ≤ reply.status ∧ reply.status < 600 then .fail (.api (reportedFailure reply))
      else pure reply.body
  | none => .fail (.exchange "invalid uri character")

/-- Sends a request and reads the body of the reply. -/
def exchange {α : Type} (method : ApiMethod) (address : String)
    (parameters : List (String × String)) (body : Option (String × Json))
    (read : Written → Option α) : Dialogue Api α := do
  let text ← send method address parameters body
  match (Written.parse? text).bind read with
  | some value => pure value
  | none => .fail (.exchange "the reply cannot be read")

end Api

end PlatformApps
