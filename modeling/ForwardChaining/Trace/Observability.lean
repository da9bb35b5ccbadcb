import ForwardChaining.Trace.Tracer

/-!
# Observability

One choice of settings for what is kept of a run: the settings of its solver and of its
tracer follow from it.
-/

namespace ForwardChaining

/-- What is kept of a run. -/
structure Observability where
  /-- The run is traced. -/
  enabled : Bool := false
  /-- Which steps are snapshotted. -/
  snapshots : SnapshotPolicy := .onFire
  /-- How many snapshots are retained. -/
  historySize : Nat := 256
  /-- How many trace records are kept. -/
  traceBufferSize : Nat := 10000
  /-- Trace lines are written to standard error. -/
  traceToStderr : Bool := true
  /-- Trace lines are written as JSON. -/
  json : Bool := false
  deriving DecidableEq

namespace Observability

/-- Settings for tracing a run. -/
def tracing : Observability where
  enabled := true

/-- Settings for tracing a run and going back to any of its steps. -/
def debugging : Observability where
  enabled := true
  snapshots := .everyStep
  historySize := 4096
  traceBufferSize := 100000

/-- The settings of the solver. -/
def solverConfig (o : Observability) : SolverConfig where
  historyCapacity := o.historySize
  snapshots := o.snapshots

/-- The settings of the tracer. -/
def tracerConfig (o : Observability) : TracerConfig where
  enabled := o.enabled
  bufferSize := o.traceBufferSize
  output := if o.traceToStderr then .stderr else .none
  json := o.json

end Observability

end ForwardChaining
