import Tracing.Recorder.Lifecycle
import Tracing.Recorder.Tracers

/-!
# Tracing.Installed

Providers of either kind, and the one that is installed for the process.

* `Provider.getTracer`, `Provider.flush`, `Provider.shutdown` — what any provider answers.
* `Installed.swap`      — install a provider; the one that it displaces is given.
* `Installed.getTracer`, `Installed.flush` — asked of the provider installed.
* `Installed.shutdown`  — put a fresh idle provider in place, then shut the displaced one down.
-/

namespace Tracing

namespace Provider

open Act

def className (w : World) : Provider → String
  | .recorder r => (w.recorders.get r).className
  | .idle r => (w.idles.get r).className

def shown (w : World) : Provider → Wording
  | .recorder r => (w.recorders.get r).shown
  | .idle r => (w.idles.get r).shown

/-- A provider of outside code gives no tracer. -/
def getTracer (request : Request) (fault : Option Failure) : Provider → Act (Option Tracer)
  | .recorder r => some <$> Recorder.getTracer r request fault
  | .idle r => do
    if ((← get).idles.get r).isNoop then return some .idle
    return none

/-- A provider of outside code gives no reports. -/
def flush (runner : Runner) : Provider → Act (Option (List FlushReport))
  | .recorder r => some <$> Recorder.flush runner r
  | .idle r => do
    if ((← get).idles.get r).isNoop then return some []
    return none

/-- Shut a provider down. Not every provider of outside code can be. -/
def shutdown (runner : Runner) : Provider → Act (List FlushReport)
  | .recorder r => Recorder.shutdown runner r
  | .idle r => do
    let p := (← get).idles.get r
    match p.kind with
    | .noop _ => return []
    | .minimal | .minimalWithOptions _ => throw (.noAttribute p.className "shutdown")
    | .badShutdown => throw (.notCallable "int")
    | .raisingShutdown => throw (.foreign ⟨"RuntimeError", [.str "shutdown failed"]⟩)

/-- Whether a provider has a `shutdown` at all. -/
def hasShutdown (w : World) : Provider → Bool
  | .recorder _ => true
  | .idle r =>
    match (w.idles.get r).kind with
    | .minimal | .minimalWithOptions _ => false
    | _ => true

end Provider

namespace Installed

open Act

def logger : String := "tracekit.global_provider"

/-- Install a provider, or none. -/
def swap (p : Option Provider) : Act (Option Provider) := do
  let previous := (← get).installed
  modify fun w => { w with installed := p }
  note (.installed p previous)
  let shown : Wording := p.elim "None" (Provider.shown (← get))
  say .info logger ("Global tracer provider set to " ++ shown)
  return previous

/-- The provider installed; where none is, what is asked of it is missing. -/
def provider (member : String) : Act Provider := do
  match (← get).installed with
  | some p => return p
  | none => throw (.noAttribute "NoneType" member)

/-- A tracer by name and version; a null version is none. -/
def getTracer (name : Value) (version : Value) : Act (Option Tracer) := do
  let identity := ({} : Identity).withName name
  let identity :=
    match version with
    | .null => identity
    | version => identity.withVersion version
  (← provider "get_tracer").getTracer (.identity identity) none

def flush (runner : Runner) : Act (Option (List FlushReport)) := do
  (← provider "force_flush").flush runner

/-- A displaced provider that cannot be shut down has nothing to report. -/
def shutdown (runner : Runner) : Act (List FlushReport) := do
  let fresh ← addIdle { kind := .noop "NoOpTracerProvider" }
  match ← swap (some (.idle fresh)) with
  | none => return []
  | some previous =>
    if previous.hasShutdown (← get) then previous.shutdown runner else return []

end Installed

end Tracing
