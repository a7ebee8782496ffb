import RestDispatch.Dispatch.Request
import RestDispatch.Json.Value

/-!
# Dispatch failures

A request fails for one of five causes: its URL is ill-formed, no Api claims
its path, no endpoint of the Api accepts it, an endpoint's variable refuses a
segment, or an action fails. Each cause has a category that gives its default
status: a bad request (400) for the URL, the Api and a refused variable, not
found (404) for the endpoint, and an internal error (500) for an action, which
may choose its own status instead.

The envelope of a failure is the JSON body that reports it: its code, message,
category and details, and the identifier of the request when there is one.
-/

namespace RestDispatch

open RestDispatch.Web
open RestDispatch.Json

set_option autoImplicit false

/-- How an action failed: a message, maybe a status, and the texts of the
causes behind it, outermost first. -/
structure ActionError where
  message : String
  status : Option Nat
  causes : List String
  deriving Repr, DecidableEq, Inhabited

namespace ActionError

/-- A failure with a message only. -/
def ofMessage (message : String) : ActionError := ⟨message, none, []⟩

/-- A failure with a message and the cause behind it. -/
def withCause (message cause : String) : ActionError := ⟨message, none, [cause]⟩

/-- Choose the status of the failure. -/
def withStatus (e : ActionError) (status : Nat) : ActionError :=
  { e with status := some status }

end ActionError

/-- The kinds of failure, each with a default status. -/
inductive ErrorCategory where
  | badRequest
  | notFound
  | internal
  deriving Repr, DecidableEq

namespace ErrorCategory

/-- The default status of a category. -/
def status : ErrorCategory → Nat
  | .badRequest => 400
  | .notFound => 404
  | .internal => 500

/-- The name of a category. -/
def name : ErrorCategory → String
  | .badRequest => "bad_request"
  | .notFound => "not_found"
  | .internal => "internal"

end ErrorCategory

/-- Why a request could not be served. -/
inductive DispatchError where
  | invalidUrl (url : String) (cause : UrlError)
  | noApiMatch (path : String)
  | noEndpointMatch (api : String) (method : Method) (path : String)
  | constraintViolation (endpoint : String) (violation : Violation)
  | actionFailed (action : String) (cause : ActionError)
  deriving Repr, DecidableEq

namespace DispatchError

/-- The category of a failure. -/
def category : DispatchError → ErrorCategory
  | .invalidUrl .. | .noApiMatch _ | .constraintViolation .. => .badRequest
  | .noEndpointMatch .. => .notFound
  | .actionFailed .. => .internal

/-- The status of a failure: the one an action chose, else its category's. -/
def status (e : DispatchError) : Nat :=
  match e with
  | .actionFailed _ cause => cause.status.getD e.category.status
  | _ => e.category.status

/-- Every failure but an action's is a failure to route. -/
def isRoutingFailure : DispatchError → Bool
  | .actionFailed .. => false
  | _ => true

/-- The reason of a failure, in snake case. -/
def reason : DispatchError → String
  | .invalidUrl .. => "invalid_url"
  | .noApiMatch _ => "no_api_match"
  | .noEndpointMatch .. => "no_endpoint_match"
  | .constraintViolation .. => "constraint_violation"
  | .actionFailed .. => "action_failed"

/-- The code of a failure, in upper case. -/
def code : DispatchError → String
  | .invalidUrl .. => "INVALID_URL"
  | .noApiMatch _ => "NO_API_MATCH"
  | .noEndpointMatch .. => "NO_ENDPOINT_MATCH"
  | .constraintViolation .. => "CONSTRAINT_VIOLATION"
  | .actionFailed .. => "ACTION_FAILED"

/-- The text of a failure. -/
def message : DispatchError → String
  | .invalidUrl url cause => s!"invalid request url '{url}': " ++ cause.message
  | .noApiMatch path => s!"no api matches path '{path}'"
  | .noEndpointMatch api method path => s!"no endpoint of api '{api}' matches " ++ method.name ++ s!" '{path}'"
  | .constraintViolation endpoint v => s!"endpoint '{endpoint}' refused the path: " ++ v.message
  | .actionFailed action cause => s!"action '{action}' failed: " ++ cause.message

/-- The texts of the causes behind a failure, outermost first. -/
def sources : DispatchError → List String
  | .invalidUrl _ cause => [cause.message]
  | .constraintViolation _ v => [v.message]
  | .actionFailed _ cause => cause.message :: cause.causes
  | _ => []

/-- The details of a failure, as a JSON object. -/
def details : DispatchError → Value
  | .invalidUrl url _ => .mkObject [("url", .string url)]
  | .noApiMatch path => .mkObject [("path", .string path)]
  | .noEndpointMatch api method path =>
    .mkObject [("api", .string api), ("method", .string method.name), ("path", .string path)]
  | .constraintViolation endpoint v =>
    .mkObject [("endpoint", .string endpoint), ("variable", .string v.name),
      ("constraint", .string v.constraint), ("value", .string v.value),
      ("position", .ofNat v.position)]
  | .actionFailed action _ => .mkObject [("action", .string action)]

/-- The body that reports a failure, with the request's identifier if known. -/
def envelope (e : DispatchError) (requestId : Option RequestId) : Value :=
  let detail := Value.mkObject [("code", .string e.code), ("message", .string e.message),
    ("category", .string e.category.name), ("details", e.details)]
  match requestId with
  | some id => .mkObject [("error", detail), ("request_id", .string id.text)]
  | none => .mkObject [("error", detail)]

end DispatchError

end RestDispatch
