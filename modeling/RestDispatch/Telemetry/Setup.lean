import RestDispatch.Telemetry.Filter
import RestDispatch.Telemetry.Metrics

/-!
# Starting telemetry

Logging and metrics are installed once for the whole process. Starting logging
does nothing when it is switched off; otherwise its level must be a valid
filter, and it fails when the process already has a log subscriber. Starting
metrics gives nothing when they are switched off, the process's registry when
it has one, and otherwise installs a registry with the configured bounds,
which fails without bounds, and describes the metrics of dispatch. Starting
telemetry starts logging, then metrics.

An error's message starts with a fixed head; what follows it is the reason the
underlying library gives.
-/

namespace RestDispatch.Telemetry

set_option autoImplicit false

/-- Why telemetry did not start. -/
inductive TelemetryError where
  | invalidLevel (level : String)
  | loggingInit
  | metricsInit
  deriving Repr, DecidableEq

namespace TelemetryError

/-- The kind of an error. -/
def kind : TelemetryError → String
  | .invalidLevel _ => "InvalidLevel"
  | .loggingInit => "LoggingInit"
  | .metricsInit => "MetricsInit"

/-- The start of an error's message, before the library's reason. -/
def messageHead : TelemetryError → String
  | .invalidLevel level => "Invalid log level '" ++ level ++ "': "
  | .loggingInit => "Failed to initialize logging: "
  | .metricsInit => "Failed to initialize metrics: "

end TelemetryError

/-- Check a log level as a filter. -/
def checkFilter (level : String) : Except TelemetryError Unit :=
  if isValidFilter level then .ok () else .error (.invalidLevel level)

/-- What the process has installed: whether a log subscriber is set, and its
metrics registry. -/
structure Globals where
  subscriber : Bool
  registry : Option Recorder
  deriving Inhabited

/-- A process with nothing installed. -/
def Globals.empty : Globals := ⟨false, none⟩

/-- Install a log subscriber of the process's own, outside logging's start. -/
def Globals.withSubscriber (g : Globals) : Globals := { g with subscriber := true }

/-- Start logging. -/
def initLogging (g : Globals) (c : LogConfig) : Except TelemetryError Globals := do
  if !c.enabled then return g
  checkFilter c.level
  if g.subscriber then throw .loggingInit
  pure { g with subscriber := true }

/-- Start metrics, giving the registry when they are on. -/
def initMetrics (g : Globals) (c : MetricsConfig) : Except TelemetryError (Globals × Option Recorder) :=
  if !c.enabled then .ok (g, none)
  else match g.registry with
    | some r => .ok (g, some r)
    | none => match Recorder.new? c.durationBuckets with
      | none => .error .metricsInit
      | some r =>
        let r := r.describeDispatch
        .ok ({ g with registry := some r }, some r)

/-- Start logging, then metrics. -/
def initTelemetry (g : Globals) (c : TelemetryConfig) :
    Except TelemetryError (Globals × Option Recorder) := do
  let g ← initLogging g c.logging
  initMetrics g c.metrics

end RestDispatch.Telemetry
