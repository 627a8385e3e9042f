import Tracing.Recorder.Make

/-!
# Tracing.Recorder.Lifecycle

Flush and shutdown of a recorder.

* `Recorder.flush`    — flush the pipelines that are attached when the call begins, and report each.
  Before the first tracer is made there is nothing to flush.
* `Recorder.shutdown` — flush and close each of them, once. Spans started later are dropped.
-/

namespace Tracing

namespace Recorder

open Act

/-- Flush pipelines in order, each with the timeout that the options hold at its turn. -/
def flushAll (runner : Runner) (r : Ref Recorder) : List (Ref Pipeline) → Act (List FlushReport)
  | [] => pure []
  | p :: rest => do
    let timeout := ((← get).recorders.get r).options.flushTimeout
    let report ← Pipeline.flush runner p timeout
    return report :: (← flushAll runner r rest)

def flush (runner : Runner) (r : Ref Recorder) : Act (List FlushReport) := do
  let x := (← get).recorders.get r
  if !x.issued then return []
  let reports ← flushAll runner r x.pipelines
  let failed := FlushReport.failedNames reports
  if !failed.isEmpty then
    say .warning logger ("Force flush failed for pipelines: " ++ Value.listWording failed)
  return reports

/-- Flush and close pipelines in order. -/
def closeAll (runner : Runner) (r : Ref Recorder) : List (Ref Pipeline) → Act (List FlushReport)
  | [] => pure []
  | p :: rest => do
    let timeout := ((← get).recorders.get r).options.flushTimeout
    let report ← Pipeline.flush runner p timeout
    Pipeline.close runner p
    return report :: (← closeAll runner r rest)

/-- The recorder counts as closed before any pipeline is flushed. -/
def shutdown (runner : Runner) (r : Ref Recorder) : Act (List FlushReport) := do
  let x := (← get).recorders.get r
  if x.closed then return []
  modifyRecorder r fun x => { x with closed := true }
  note (.shuttingDown r x.pipelines)
  let reports ← closeAll runner r x.pipelines
  modify fun w => { w with exitHooks := w.exitHooks.filter (· ≠ r) }
  note (.shutDown r)
  let service := ((← get).recorders.get r).options.serviceName
  say .info logger <| "SdkTracerProvider for service " ++ service.wording ++
    s!" shut down ({x.pipelines.length} pipeline(s))"
  return reports

end Recorder

end Tracing
