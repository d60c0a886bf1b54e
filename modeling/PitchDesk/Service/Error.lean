import PitchDesk.Form
import PitchDesk.Service.Envelope
import PitchDesk.Text.Quoted

/-!
# Failures of the service

Why something that the service was asked for did not come about: the form was not accepted, the
service could not be reached, it answered with another status than success, it refused, or its
answer could not be read.

The text of an answer is the one that the connection delivers, and it is taken as it is: a byte
order mark before it stays, so that such a text is neither blank nor JSON.
-/

namespace PitchDesk

/-- Why a request did not succeed. -/
inductive ServiceError where
  | form (cause : FormError)
  | connection (baseUrl cause : String)
  | status (code : Nat) (message : String)
  | rejected (message : String)
  | unreadableFile (path : String)
  | undecodable (what : String)
  | noData (what : String)
  | emptyToken
  deriving DecidableEq, Repr

namespace ServiceError

/-- The wording of each cause. -/
def message : ServiceError → String
  | .form cause => cause.message
  | .connection baseUrl cause =>
    "cannot reach " ++ baseUrl ++ " -- check [api].base_url (" ++ cause ++ ")"
  | .status code message => "server error (" ++ toString code ++ "): " ++ message
  | .rejected message => message
  | .unreadableFile path => "read " ++ path
  | .undecodable what => "decode " ++ what ++ " response"
  | .noData what => what ++ " response has no data"
  | .emptyToken => "login response has an empty token"

/-- Whether the service does not know who asks. -/
def isUnauthorized : ServiceError → Bool
  | .status 401 _ => true
  | _ => false

end ServiceError

/-! ### Answers -/

/-- What the service answers: a status code and a text. -/
structure Response where
  status : Nat
  body : String
  deriving DecidableEq, Repr

namespace Response

/-- The codes that tell of success. -/
def isSuccess (r : Response) : Bool :=
  200 ≤ r.status && r.status < 300

/-- What a status code says, in lower case. -/
def reason? : Nat → Option String
  | 100 => some "continue"
  | 101 => some "switching protocols"
  | 102 => some "processing"
  | 103 => some "early hints"
  | 200 => some "ok"
  | 201 => some "created"
  | 202 => some "accepted"
  | 203 => some "non authoritative information"
  | 204 => some "no content"
  | 205 => some "reset content"
  | 206 => some "partial content"
  | 207 => some "multi-status"
  | 208 => some "already reported"
  | 226 => some "im used"
  | 300 => some "multiple choices"
  | 301 => some "moved permanently"
  | 302 => some "found"
  | 303 => some "see other"
  | 304 => some "not modified"
  | 305 => some "use proxy"
  | 307 => some "temporary redirect"
  | 308 => some "permanent redirect"
  | 400 => some "bad request"
  | 401 => some "unauthorized"
  | 402 => some "payment required"
  | 403 => some "forbidden"
  | 404 => some "not found"
  | 405 => some "method not allowed"
  | 406 => some "not acceptable"
  | 407 => some "proxy authentication required"
  | 408 => some "request timeout"
  | 409 => some "conflict"
  | 410 => some "gone"
  | 411 => some "length required"
  | 412 => some "precondition failed"
  | 413 => some "payload too large"
  | 414 => some "uri too long"
  | 415 => some "unsupported media type"
  | 416 => some "range not satisfiable"
  | 417 => some "expectation failed"
  | 418 => some "i'm a teapot"
  | 421 => some "misdirected request"
  | 422 => some "unprocessable entity"
  | 423 => some "locked"
  | 424 => some "failed dependency"
  | 425 => some "too early"
  | 426 => some "upgrade required"
  | 428 => some "precondition required"
  | 429 => some "too many requests"
  | 431 => some "request header fields too large"
  | 451 => some "unavailable for legal reasons"
  | 500 => some "internal server error"
  | 501 => some "not implemented"
  | 502 => some "bad gateway"
  | 503 => some "service unavailable"
  | 504 => some "gateway timeout"
  | 505 => some "http version not supported"
  | 506 => some "variant also negotiates"
  | 507 => some "insufficient storage"
  | 508 => some "loop detected"
  | 510 => some "not extended"
  | 511 => some "network authentication required"
  | _ => none

/-- From this many bytes on a body is too long to be shown as a message. -/
def longBody : Nat := 100

/-- The message of an answer that tells of no success: that of its envelope, or its text if it is
short and does not look like data, or else what its status code says. -/
def failureMessage (status : Nat) (text : String) : String :=
  match (Envelope.read? (α := Data) text).bind (·.message?) with
  | some message => message
  | none =>
    let body := Text.trim text
    if !body.isEmpty && body.utf8ByteSize < longBody && !body.toList.contains '\x7b' then body
    else (reason? status).getD "unexpected response"

/-- The failure that a status code without success and a text tell of. -/
def failureOf (status : Nat) (text : String) : ServiceError :=
  .status status (failureMessage status text)

/-- The failure that an answer without success tells of. -/
def failure (r : Response) : ServiceError :=
  failureOf r.status r.body

/-- Reads the envelope of an answer. -/
def envelope (α : Type) [Wire α] (r : Response) (what : String) :
    Except ServiceError (Envelope α) :=
  match Envelope.read? r.body with
  | some e => .ok e
  | none => .error (.undecodable what)

/-- An answer must be blank, or an envelope that tells of success. -/
def expectDone (r : Response) (what : String) : Except ServiceError Unit :=
  if Text.isBlankText r.body then .ok ()
  else
    match Envelope.read? (α := Data) r.body with
    | none => .error (.undecodable what)
    | some e => if e.status then .ok () else .error (.rejected e.rejection)

end Response

/-- An envelope that tells of success. -/
def Envelope.checked {α : Type} (e : Envelope α) : Except ServiceError (Envelope α) :=
  if e.status then .ok e else .error (.rejected e.rejection)

/-- The data of an envelope that tells of success. -/
def Envelope.required {α : Type} (e : Envelope α) (what : String) : Except ServiceError α := do
  match (← e.checked).data with
  | some data => return data
  | none => throw (.noData what)

end PitchDesk
