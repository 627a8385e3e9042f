import Tracing.Endpoint
import Tracing.Span

/-!
# Tracing.Processor

Span processors and the pipelines around them.

* `Processor` — its role and its state: how often it was called, and for the exporting roles the
  spans that wait and those exported. Nothing is exported once it is closed.
* `Reaction`  — how a processor takes a flush or a shutdown.
* `Pipeline`  — a processor under a name, open until it is closed.
-/

namespace Tracing

inductive Role where
  | scripted (script : ProcessorScript Step)
  /-- Exports each span as it ends. -/
  | simple
  /-- Exports the spans that wait when it is flushed or shut down. -/
  | batch
  /-- Does nothing. -/
  | base
  /-- An object without the methods of a processor. -/
  | bare

/-- Where an exporting processor sends its spans, and how it batches them. -/
structure ExportTarget where
  endpoint : Endpoint
  batch : Option BatchOptions

structure Processor where
  role : Role
  target : Option ExportTarget := none
  closed : Bool := false
  waiting : List SpanRecord := []
  exported : List SpanRecord := []
  flushes : Nat := 0
  shutdowns : Nat := 0

namespace Processor

def className (p : Processor) : Text :=
  match p.role with
  | .scripted script => script.className
  | .simple => "SimpleSpanProcessor"
  | .batch => "BatchSpanProcessor"
  | .base => "SpanProcessor"
  | .bare => "Bare"

def isScripted (p : Processor) : Bool :=
  match p.role with
  | .scripted _ => true
  | _ => false

/-- Whether spans are exported through a processor. -/
def isExporting (p : Processor) : Bool :=
  match p.role with
  | .simple | .batch => true
  | _ => false

/-- A processor as a specification describes it; a shared one is no new processor. -/
def ofSpec : ProcessorSpec Step → Option Processor
  | .scripted script => some { role := .scripted script }
  | .simple => some { role := .simple }
  | .batch => some { role := .batch }
  | .base => some { role := .base }
  | .bare => some { role := .bare }
  | .shared _ => none

/-- Take an ended span, if it is sampled and the processor open. -/
def accept (p : Processor) (span : SpanRecord) : Processor :=
  if p.closed || !span.span.sampled then p
  else
    match p.role with
    | .simple => { p with exported := p.exported ++ [span] }
    | .batch => { p with waiting := p.waiting ++ [span] }
    | _ => p

/-- Export the spans that wait. -/
def drain (p : Processor) : Processor :=
  { p with exported := p.exported ++ p.waiting, waiting := [] }

def close (p : Processor) : Processor := { p.drain with closed := true }

end Processor

/-! ## Calls -/

/-- How a processor takes a call: what it is then, the hook that runs after that if there is one,
and how the call ends. -/
structure Reaction where
  processor : Processor
  hook : Option (List Step) := none
  outcome : Except Failure Value

/-- How a call of a scripted processor ends. A script without outcomes has none to give. -/
def Outcome.conclude : Option Outcome → Except Failure Value
  | some (.returns v) => .ok v
  | some (.raises e) => .error e
  | none => .error .indexOutOfRange

namespace Processor

/-- Export what waits, if the processor is open. -/
def onForceFlush (p : Processor) : Reaction :=
  match p.role with
  | .scripted script =>
    { processor := { p with flushes := p.flushes + 1 }
      hook := script.onFlush[p.flushes]?
      outcome := Outcome.conclude (entryFor script.flushes p.flushes) }
  | .batch =>
    { processor := if p.closed then p else p.drain
      outcome := .ok (.bool !p.closed) }
  | .simple | .base => { processor := p, outcome := .ok (.bool true) }
  | .bare => { processor := p, outcome := .error (.noAttribute p.className "force_flush") }

def onShutdown (p : Processor) : Reaction :=
  match p.role with
  | .scripted script =>
    { processor := { p with shutdowns := p.shutdowns + 1 }
      hook := script.onShutdown[p.shutdowns]?
      outcome := Outcome.conclude (entryFor script.shutdowns p.shutdowns) }
  | .simple | .batch => { processor := p.close, outcome := .ok .null }
  | .base => { processor := p, outcome := .ok .null }
  | .bare => { processor := p, outcome := .error (.noAttribute p.className "shutdown") }

end Processor

structure Pipeline where
  processor : Ref Processor
  name : Value
  closed : Bool := false

namespace Pipeline

/-- A pipeline without a name takes that of its processor's class. -/
def nameOr (name : Value) (className : Text) : Value :=
  if name.isTruthy then name else .str className

def shown (p : Pipeline) : Wording :=
  "SpanPipeline(name=" ++ p.name.shownWording ++ ", shutdown=" ++ (Value.bool p.closed).shown ++ ")"

end Pipeline

end Tracing
