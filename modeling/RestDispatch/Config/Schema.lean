import RestDispatch.Telemetry.Config
import RestDispatch.Route.Params

/-!
# The configuration of a dispatcher

A configuration has engine settings, telemetry settings and route
definitions. The engine settings name an optional servlet mapping stripped
before Api resolution, and switch traces and error bodies. A route definition is
an Api with a name, a version, a tenant switch, its shared actions and its
endpoints; an endpoint has a name, a path, a rule (methods, included and
excluded paths, an order, settings) and private actions; an action names a
handler, an optional binding name and a rule of its own.

Settings are kept in first-insertion order with the last value of a key.

Besides the defaults there are two presets: development logs at `debug` in the
pretty format with colours; production logs in JSON, keeps no traces and
writes no error bodies.
-/

namespace RestDispatch

set_option autoImplicit false

/-- Engine settings. -/
structure EngineConfig where
  servletMapping : Option String
  debug : Bool
  errorBodies : Bool
  deriving Repr, DecidableEq, Inhabited

/-- No servlet mapping, traces kept, error bodies written. -/
def EngineConfig.default : EngineConfig := ⟨none, true, true⟩

/-- A handler binding. -/
structure ActionDef where
  handler : String
  name : Option String
  methods : List String
  includePaths : List String
  excludePaths : List String
  order : Option Int
  settings : Settings
  deriving Repr, DecidableEq, Inhabited

/-- An action bound to nothing yet: no handler and an empty rule. -/
def ActionDef.default : ActionDef := ⟨"", none, [], [], [], none, Settings.empty⟩

/-- The name a binding is traced under: its own name, else its handler. -/
def ActionDef.bindingName (a : ActionDef) : String :=
  a.name.getD a.handler

/-- An endpoint within an Api. -/
structure EndpointDef where
  name : String
  path : Option String
  methods : List String
  includePaths : List String
  excludePaths : List String
  order : Option Int
  settings : Settings
  actions : List ActionDef
  deriving Repr, DecidableEq, Inhabited

/-- An endpoint without a name and with an empty rule. -/
def EndpointDef.default : EndpointDef := ⟨"", none, [], [], [], none, Settings.empty, []⟩

/-- An Api and what is routed beneath it. -/
structure ApiDef where
  name : Option String
  version : Option String
  multiTenant : Bool
  actions : List ActionDef
  endpoints : List EndpointDef
  deriving Repr, DecidableEq, Inhabited

/-- An unnamed Api with nothing beneath it. -/
def ApiDef.default : ApiDef := ⟨none, none, false, [], []⟩

/-- A whole configuration. -/
structure Config where
  engine : EngineConfig
  telemetry : TelemetryConfig
  apis : List ApiDef
  deriving Repr, DecidableEq, Inhabited

namespace Config

/-- The defaults. -/
def default : Config := ⟨EngineConfig.default, TelemetryConfig.default, []⟩

/-- Debug logging, pretty and in colour. -/
def development : Config :=
  let logging := { LogConfig.default with level := "debug", format := .pretty, ansiEnabled := true }
  { default with telemetry := { TelemetryConfig.default with logging } }

/-- JSON logs, no traces, no error bodies. -/
def production : Config :=
  let logging := { LogConfig.default with format := .json }
  { engine := { EngineConfig.default with debug := false, errorBodies := false },
    telemetry := { TelemetryConfig.default with logging },
    apis := [] }

end Config

end RestDispatch
