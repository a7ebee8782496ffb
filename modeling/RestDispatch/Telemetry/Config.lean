import RestDispatch.Text.Case
import RestDispatch.Decimal.Nearest

/-!
# Telemetry settings

The settings of logging and metrics. Logging has a switch, a filter of
directives (`info`, `core=debug,warn`), an output format, and switches for
colour codes and source locations; metrics have a switch and the upper bounds
of the dispatch-duration histogram, in seconds, as doubles by their bits.

A format name is read ignoring ASCII case and nothing else: no blanks are
trimmed. The defaults log at `info` in JSON with everything else off, and
record metrics with eleven bounds from a tenth of a millisecond to a second;
the development logging preset logs at `debug`, pretty, with colours and
locations.
-/

namespace RestDispatch

open RestDispatch.Text

set_option autoImplicit false

/-- How log lines are written. -/
inductive LogFormat where
  | json
  | pretty
  | compact
  deriving Repr, DecidableEq, Inhabited

namespace LogFormat

/-- The name of a format. -/
def name : LogFormat → String
  | .json => "json"
  | .pretty => "pretty"
  | .compact => "compact"

/-- The format of an exact name. -/
def ofName? : String → Option LogFormat
  | "json" => some .json
  | "pretty" => some .pretty
  | "compact" => some .compact
  | _ => none

/-- The format of a name, ignoring ASCII case. -/
def parse (name : String) : Option LogFormat :=
  ofName? (asciiLower name)

end LogFormat

/-- Logging settings. -/
structure LogConfig where
  enabled : Bool
  level : String
  format : LogFormat
  ansiEnabled : Bool
  includeLocation : Bool
  deriving Repr, DecidableEq, Inhabited

namespace LogConfig

/-- JSON logs at `info`, without colours or locations. -/
def default : LogConfig := ⟨true, "info", .json, false, false⟩

/-- Pretty logs at `debug`, with colours and locations. -/
def development : LogConfig := ⟨true, "debug", .pretty, true, true⟩

end LogConfig

/-- Metrics settings; the histogram bounds are doubles by their bits. -/
structure MetricsConfig where
  enabled : Bool
  durationBuckets : List UInt64
  deriving Repr, DecidableEq, Inhabited

namespace MetricsConfig

/-- The default histogram bounds, in seconds: 0.0001, 0.0005, 0.001, 0.005,
0.01, 0.025, 0.05, 0.1, 0.25, 0.5 and 1. -/
def defaultBuckets : List UInt64 :=
  [(1, -4), (5, -4), (1, -3), (5, -3), (1, -2), (25, -3), (5, -2), (1, -1), (25, -2), (5, -1),
   (1, 0)].map fun (m, e) => Decimal.nearestBits false m e

/-- Metrics on, with the default bounds. -/
def default : MetricsConfig := ⟨true, defaultBuckets⟩

end MetricsConfig

/-- Telemetry settings: the service name and the two subsystems. -/
structure TelemetryConfig where
  serviceName : String
  logging : LogConfig
  metrics : MetricsConfig
  deriving Repr, DecidableEq, Inhabited

/-- The service `waypoint` with default logging and metrics. -/
def TelemetryConfig.default : TelemetryConfig :=
  ⟨"waypoint", LogConfig.default, MetricsConfig.default⟩

/-- The field names of structured log events. -/
def logFieldNames : List String :=
  ["request_id", "http.method", "http.path", "http.status_code", "api", "endpoint", "action",
   "duration_ms"]

/-- The counter of dispatched requests. -/
def requestsTotalName : String := "waypoint_requests_total"

/-- The histogram of dispatch durations. -/
def dispatchDurationName : String := "waypoint_dispatch_duration_seconds"

/-- The counter of routing failures. -/
def routingFailuresName : String := "waypoint_routing_failures_total"

end RestDispatch
