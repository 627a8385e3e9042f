import Tracing.Delivery

/-!
# Tracing.Pipeline

Operations on pipelines.

* `Pipeline.flush` — flush the processor and report how it went. An interruption escapes, and so
  does the failure to put a message together. A processor fails to flush by an error, or by answering
  false, which stands for a timeout.
* `Pipeline.close` — shut the processor down, once.
* `Pipeline.buildExport` — a pipeline that exports to the endpoint that options name.
-/

namespace Tracing

namespace Pipeline

open Act

def logger : String := "tracekit.pipeline"

/-- Whether a processor's answer says that it did not finish. Nothing else does, null included. -/
def isTimeout : Value → Bool
  | .bool b => !b
  | _ => false

def flush (runner : Runner) (r : Ref Pipeline) (timeout : Value) : Act FlushReport := do
  let p := (← get).pipelines.get r
  if p.closed then
    let _ ← compose p.name.wording
    return .failed p.name (.pipelineClosed p.name)
  match ← attempt (Delivery.forceFlush runner p.processor (some r) timeout) with
  | .error e =>
    if e.isInterruption then throw e
    say .warning logger ("Force flush failed for pipeline " ++ p.name.wording ++ ": " ++ e.wording)
    return .failed p.name (.exportFailed p.name e)
  | .ok v =>
    if isTimeout v then
      say .warning logger
        ("Force flush timed out for pipeline " ++ p.name.wording ++
          " (timeout=" ++ timeout.wording ++ "ms)")
      return .failed p.name (.exportTimedOut p.name timeout)
    say .debug logger ("Flushed pipeline " ++ p.name.wording)
    return .success p.name

/-- The pipeline is closed before its processor is called, so a call from inside finds it closed. A
name without a text fails the last record, and then the record of that failure in the same way. -/
def close (runner : Runner) (r : Ref Pipeline) : Act Unit := do
  let p := (← get).pipelines.get r
  if p.closed then return
  modifyPipeline r fun p => { p with closed := true }
  match ← attempt (Delivery.shutdown runner p.processor (some r)) with
  | .error e =>
    if e.isInterruption then throw e
    say .warning logger ("Shutdown failed for pipeline " ++ p.name.wording ++ ": " ++ e.wording)
  | .ok _ => say .debug logger ("Shut down pipeline " ++ p.name.wording)

/-- The processor that exports to the endpoint of options: span by span if they ask for it, else
in batches. -/
def exportProcessor (o : Options) : Except Failure (Processor × Endpoint) := do
  let endpoint ← Endpoint.ofOptions o
  let b ← o.batching.get "use_sync_export"
  if b.syncExport.isTruthy then
    return ({ role := .simple, target := some ⟨endpoint, none⟩ }, endpoint)
  b.checkSizes
  return ({ role := .batch, target := some ⟨endpoint, some b⟩ }, endpoint)

def buildExport (o : Options) : Act (Ref Pipeline) := do
  let (processor, endpoint) ← MonadExcept.ofExcept (exportProcessor o)
  let mode := match processor.role with | .batch => "BATCH" | _ => "SYNC"
  say .info logger (s!"Created {mode} OTLP pipeline (endpoint=" ++ endpoint.url ++ ")")
  let r ← addProcessor processor
  addPipeline { processor := r, name := .str ("otlp:" ++ endpoint.url) }

end Pipeline

end Tracing
