import RestDispatch.Report.Routing
import RestDispatch.Service.Engine

/-!
# JSON views of dispatch values

A route shows its paths, tenant, captures and the three keys of its subpath; a
request its method, URL, path, query and route; a failure its code, reason,
category, status, message and details, and on demand the texts of its causes;
an exchange its status, failure, body, trace and request.
-/

namespace RestDispatch

open RestDispatch.Json

set_option autoImplicit false

/-- A trace, as pairs. -/
def traceJson (trace : List TraceEntry) : Value :=
  .ofPairs (trace.map fun e => (e.key, e.value))

/-- A route. -/
def Route.toJson (r : Route) : Value :=
  .mkObject [("api_path", r.apiPath.toJson), ("tenant", .ofOption r.tenant),
    ("endpoint_path", r.endpointPath.toJson), ("subpath", r.subpath.toJson),
    ("params", r.params.toJson), ("collection_key", .ofOption r.collectionKey?),
    ("entity_key", .ofOption r.entityKey?), ("subcollection_key", .ofOption r.subcollectionKey?)]

/-- An optional route. -/
def routeJson (r : Option Route) : Value :=
  match r with
  | some route => route.toJson
  | none => .null

/-- A request. -/
def Request.toJson (r : Request) : Value :=
  .mkObject [("method", .string r.method.name), ("url", .string r.url), ("path", r.path.toJson),
    ("segments", .ofStrings r.path.segments), ("query", r.query.toJson), ("route", routeJson r.route)]

/-- A failure; with `sources`, also the texts of its causes and, for a failed
action, the action's own error. -/
def DispatchError.toJson (e : DispatchError) (sources : Bool) : Value :=
  let base := [("code", .string e.code), ("reason", .string e.reason),
    ("category", .string e.category.name), ("status", .ofNat e.status),
    ("routing_failure", .bool e.isRoutingFailure), ("message", .string e.message),
    ("details", e.details)]
  let extra : List (String × Value) :=
    if sources then
      ("sources", .ofStrings e.sources) ::
        match e with
        | .actionFailed _ cause =>
          [("action_error", .mkObject [("message", .string cause.message),
            ("status", match cause.status with | some s => .ofNat s | none => .null)])]
        | _ => []
    else []
  .mkObject (base ++ extra)

/-- An optional failure. -/
def errorJson (e : Option DispatchError) (sources : Bool) : Value :=
  match e with
  | some err => err.toJson sources
  | none => .null

/-- An optional body. -/
def bodyJson (b : Option Value) : Value :=
  b.getD .null

/-- Headers, as pairs. -/
def Web.Headers.toJson (h : Web.Headers) : Value :=
  .ofPairs h.toPairs

/-- What an exchange view adds on demand. -/
structure ExchangeView where
  sources : Bool
  traceKeys : Option (List String)

/-- An exchange. -/
def Exchange.toJson (x : Exchange) (view : ExchangeView) : Value :=
  let base := [("status", .ofNat x.status), ("success", .bool x.isSuccess),
    ("error", errorJson x.error view.sources), ("body", bodyJson x.response.body),
    ("trace", traceJson x.trace),
    ("request", match x.request with | some r => r.toJson | none => .null)]
  let headers := if x.response.headers.isEmpty then [] else [("headers", x.response.headers.toJson)]
  let keyed : List (String × Value) := match view.traceKeys with
    | some keys =>
      [("trace_value", .mkObject (keys.map fun k => (k, .ofOption (x.traceValue? k)))),
       ("trace_values", .mkObject (keys.map fun k => (k, .ofStrings (x.traceValues k)))),
       ("parts", .mkObject [("request", .bool x.request.isSome), ("status", .ofNat x.status),
         ("trace_len", .ofNat x.trace.length),
         ("error", .ofOption (x.error.map DispatchError.reason))])]
    | none => []
  .mkObject (base ++ headers ++ keyed)

end RestDispatch
