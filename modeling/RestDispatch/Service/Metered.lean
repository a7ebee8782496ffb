import RestDispatch.Service.Engine
import RestDispatch.Telemetry.Metrics

/-!
# Metered serving

What the metrics learn of a served request goes into a recorder: a request
that was routed is counted by its Api label, endpoint and final status, and
timed, whatever that status is; a request that was not routed counts as a
routing failure by its reason, and is not timed.
-/

namespace RestDispatch

open RestDispatch.Telemetry

set_option autoImplicit false

/-- Record what the metrics learn of a request that took `seconds`. -/
def Telemetry.Recorder.recordObservation (r : Recorder) (o : Observation) (seconds : UInt64) :
    Recorder :=
  match o with
  | .dispatched api endpoint status => r.recordDispatch api endpoint status seconds
  | .routingFailure reason => r.recordRoutingFailure reason

end RestDispatch
