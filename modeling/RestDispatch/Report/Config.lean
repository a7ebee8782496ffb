import RestDispatch.Config.Loader
import RestDispatch.Json.Value

/-!
# Configurations as JSON

The JSON form of a configuration, with the field names of its documents:
settings as arrays of key and value pairs in their order, absent texts and
orders as `null`, histogram bounds as numbers, and each action with the name it
is bound under. A configuration error gives its kind under `error`, with its
field, reason, variable or format and its message where it has them.
-/

namespace RestDispatch

open RestDispatch.Json

set_option autoImplicit false

/-- An optional integer, or null. -/
def optIntJson : Option Int → Value
  | some i => .ofInt i
  | none => .null

/-- The JSON form of logging settings. -/
def LogConfig.toJson (l : LogConfig) : Value :=
  .mkObject [("enabled", .bool l.enabled), ("level", .string l.level),
    ("format", .string l.format.name), ("ansi_enabled", .bool l.ansiEnabled),
    ("include_location", .bool l.includeLocation)]

/-- The JSON form of metrics settings. -/
def MetricsConfig.toJson (m : MetricsConfig) : Value :=
  .mkObject [("enabled", .bool m.enabled),
    ("duration_buckets", .array (m.durationBuckets.map fun b => .number (.float b)))]

/-- The JSON form of telemetry settings. -/
def TelemetryConfig.toJson (t : TelemetryConfig) : Value :=
  .mkObject [("service_name", .string t.serviceName), ("logging", t.logging.toJson),
    ("metrics", t.metrics.toJson)]

/-- The JSON form of an action definition. -/
def ActionDef.toJson (a : ActionDef) : Value :=
  .mkObject [("handler", .string a.handler), ("name", .ofOption a.name),
    ("binding_name", .string a.bindingName), ("methods", .ofStrings a.methods),
    ("include_paths", .ofStrings a.includePaths), ("exclude_paths", .ofStrings a.excludePaths),
    ("order", optIntJson a.order), ("config", .ofPairs a.settings.entries)]

/-- The JSON form of an endpoint definition. -/
def EndpointDef.toJson (e : EndpointDef) : Value :=
  .mkObject [("name", .string e.name), ("path", .ofOption e.path), ("methods", .ofStrings e.methods),
    ("include_paths", .ofStrings e.includePaths), ("exclude_paths", .ofStrings e.excludePaths),
    ("order", optIntJson e.order), ("config", .ofPairs e.settings.entries),
    ("actions", .array (e.actions.map ActionDef.toJson))]

/-- The JSON form of an Api definition. -/
def ApiDef.toJson (a : ApiDef) : Value :=
  .mkObject [("name", .ofOption a.name), ("version", .ofOption a.version),
    ("multi_tenant", .bool a.multiTenant), ("actions", .array (a.actions.map ActionDef.toJson)),
    ("endpoints", .array (a.endpoints.map EndpointDef.toJson))]

/-- The JSON form of a configuration. -/
def Config.toJson (c : Config) : Value :=
  .mkObject [
    ("engine", .mkObject [("servlet_mapping", .ofOption c.engine.servletMapping),
      ("debug", .bool c.engine.debug), ("error_bodies", .bool c.engine.errorBodies)]),
    ("telemetry", c.telemetry.toJson),
    ("apis", .array (c.apis.map ApiDef.toJson))]

/-- The JSON form of a configuration error. -/
def ConfigError.toJson (e : ConfigError) : Value :=
  let details : List (String × Value) := match e with
    | .unsupportedFormat f => [("format", .string f)]
    | .invalidValue field reason => [("field", .string field), ("reason", .string reason)]
    | .invalidLevel _ => [("field", .string "telemetry.logging.level")]
    | .envParse var reason => [("var", .string var), ("reason", .string reason)]
    | .validation reason => [("reason", .string reason)]
    | _ => []
  let message := match e.message? with
    | some m => [("message", Value.string m)]
    | none => []
  .mkObject ([("error", .string e.kind)] ++ details ++ message)

end RestDispatch
