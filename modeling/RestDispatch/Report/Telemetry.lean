import RestDispatch.Telemetry.Setup
import RestDispatch.Report.Config

/-!
# Telemetry as JSON

A telemetry error gives its kind, its level when it has one, and the head of
its message. The metrics page is shown as its non-empty lines in the order of
their texts; a page whose timings are of the wall clock can leave out the
duration buckets and sums and keep the counts.
-/

namespace RestDispatch

open RestDispatch.Json
open RestDispatch.Telemetry

set_option autoImplicit false

/-- The JSON fields of a telemetry error. -/
def Telemetry.TelemetryError.jsonFields (e : TelemetryError) : List (String × Value) :=
  let level := match e with
    | .invalidLevel l => [("level", Value.string l)]
    | _ => []
  [("error", .string e.kind)] ++ level ++ [("message_head", .string e.messageHead)]

/-- The JSON form of a telemetry error. -/
def Telemetry.TelemetryError.toJson (e : TelemetryError) : Value := .mkObject e.jsonFields

/-- A line of the metrics page that holds a duration bucket or sum. -/
def isTimingLine (line : String) : Bool :=
  line.startsWith (dispatchDurationName ++ "_bucket") || line.startsWith (dispatchDurationName ++ "_sum")

/-- The non-empty lines of the metrics page in the order of their texts,
without the timing lines when `untimed`. -/
def Telemetry.Recorder.sortedLines (r : Recorder) (untimed : Bool) : List String :=
  let ls := r.lines.filter fun l => !l.isEmpty && !(untimed && isTimingLine l)
  ls.mergeSort fun a b => decide (a ≤ b)

/-- The defaults of telemetry: the logging, development logging, metrics and
telemetry defaults, the log field names and the metric names. -/
def telemetryDefaults : Value :=
  .mkObject [("log_default", LogConfig.default.toJson),
    ("log_development", LogConfig.development.toJson),
    ("metrics_default", MetricsConfig.default.toJson),
    ("telemetry_default", TelemetryConfig.default.toJson),
    ("guard_metrics", .bool false), ("guard_new_none", .bool false),
    ("field_names", .ofStrings logFieldNames),
    ("metric_names", .ofStrings [requestsTotalName, dispatchDurationName, routingFailuresName])]

end RestDispatch
