import RestDispatch.Service.Build
import RestDispatch.Report.Routing
import RestDispatch.Report.Config

/-!
# Built engines as JSON

The JSON form of an engine built from a configuration: its switches, its
servlet mapping as written (empty when it has none), and each Api with its
shared actions and its endpoints, each action by name and rule and each
endpoint with its path pattern as written. A build error gives the missing
handler and where it was asked for, or the configuration error marked as the
engine's.
-/

namespace RestDispatch

open RestDispatch.Json

set_option autoImplicit false

/-- The JSON form of a binding: its name and rule. -/
def Binding.toJson (b : Binding) : Value :=
  .mkObject [("name", .string b.name), ("rule", b.rule.toJson)]

/-- The JSON form of an endpoint. -/
def Endpoint.toJson (e : Endpoint) : Value :=
  .mkObject [("name", .string e.name), ("path", .string e.pattern.raw), ("rule", e.rule.toJson),
    ("actions", .array (e.actions.map Binding.toJson))]

/-- The JSON form of an Api. -/
def Api.toJson (a : Api) : Value :=
  .mkObject [("name", .ofOption a.name), ("version", .ofOption a.version),
    ("multi_tenant", .bool a.multiTenant), ("actions", .array (a.actions.map Binding.toJson)),
    ("endpoints", .array (a.endpoints.map Endpoint.toJson))]

/-- The fields of an engine's JSON form. -/
def Engine.jsonFields (g : Engine) : List (String × Value) :=
  [("debug", .bool g.debug), ("servlet_mapping", .string g.resolver.servletMapping.raw),
    ("apis", .array (g.resolver.apis.map Api.toJson))]

/-- The JSON form of a build error. -/
def EngineError.toJson : EngineError → Value
  | .unknownHandler handler location =>
    .mkObject [("error", .string "UnknownHandler"), ("handler", .string handler),
      ("location", .string location),
      ("message", .string (EngineError.unknownHandler handler location).message)]
  | .invalidMethod location =>
    .mkObject [("error", .string "InvalidMethod"), ("location", .string location),
      ("message", .string (EngineError.invalidMethod location).message)]
  | .config e =>
    match e.toJson with
    | .object kvs => .mkObject (kvs ++ [("engine_error", .string "Config")])
    | other => other

end RestDispatch
