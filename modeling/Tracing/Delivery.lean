import Tracing.World

/-!
# Tracing.Delivery

The calls that processors receive.

* `forceFlush`, `shutdown` — taken as the processor's role says; a scripted one runs its hook first.
* `onStart`, `onEnd`       — delivery of spans to a list of processors, in order.
-/

namespace Tracing

namespace Delivery

open Act

/-- Enter a call into the journal; its number among the calls is given. -/
def begin (p : Ref Processor) (via : Option (Ref Pipeline)) (call : Call) : Act Nat := do
  let number := (← get).calls.length
  note (.called p via call)
  return number

/-- Run the hook of call number `call`, if it has one. -/
def runHook (runner : Runner) (call : Nat) (hook : Option (List Step)) : Act Unit := do
  if let some steps := hook then
    let replies ← Act.run runner steps
    note (.answered call replies)

/-- Call a processor. A hook runs after the call is entered and before it ends. -/
def call (runner : Runner) (p : Ref Processor) (via : Option (Ref Pipeline)) (call : Call)
    (take : Processor → Reaction) : Act Value := do
  let reaction := take ((← get).processors.get p)
  let number ← begin p via call
  modifyProcessor p fun _ => reaction.processor
  runHook runner number reaction.hook
  MonadExcept.ofExcept reaction.outcome

/-- Ask a processor to export what it holds. -/
def forceFlush (runner : Runner) (p : Ref Processor) (via : Option (Ref Pipeline))
    (timeout : Value) : Act Value :=
  call runner p via (.forceFlush timeout) Processor.onForceFlush

/-- Shut a processor down. -/
def shutdown (runner : Runner) (p : Ref Processor) (via : Option (Ref Pipeline)) : Act Value :=
  call runner p via .shutdown Processor.onShutdown

/-- Deliver the start of a span of the recorder `source`. A processor without the method fails it;
those before it have the span then. -/
def onStart (source : Ref Recorder) (span : Span) : List (Ref Processor) → Act Unit
  | [] => pure ()
  | p :: rest => do
    let processor := (← get).processors.get p
    match processor.role with
    | .bare => throw (.noAttribute processor.className "on_start")
    | _ =>
      note (.called p none (.onStart source span))
      onStart source span rest

/-- Announce the end of a span. A processor without the method fails it before any has the span. -/
def onEnding : List (Ref Processor) → Act Unit
  | [] => pure ()
  | p :: rest => do
    let processor := (← get).processors.get p
    match processor.role with
    | .bare => throw (.noAttribute processor.className "_on_ending")
    | _ => onEnding rest

/-- Deliver an ended span of the recorder `source`. -/
def onEnd (source : Ref Recorder) (span : SpanRecord) : List (Ref Processor) → Act Unit
  | [] => pure ()
  | p :: rest => do
    note (.called p none (.onEnd source span))
    modifyProcessor p (·.accept span)
    onEnd source span rest

end Delivery

end Tracing
