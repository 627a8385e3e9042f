import Tracing.Recorder.Make

/-!
# Tracing.Recorder.Spans

Spans.

* `Recorder.startSpan` — the sampler decides, unless the recorder is closed: then spans are dropped.
  A span that records is delivered to the processors attached when it starts.
* `Recorder.endSpan`   — a span that records is delivered to those attached when it ends.
* `Tracer.withSpan`    — a span that is current while the steps of its body run.
-/

namespace Tracing

/-- The most attributes that a span keeps. -/
def maxAttributes : Nat := 128

/-- The attributes that a span keeps: of too many the last ones. -/
def spanAttributes (attributes : Value) : Except Failure (List (Value × Value)) := do
  let kept := resourceEntries (← attributes.attributeEntries)
  return kept.drop (kept.length - maxAttributes)

namespace Recorder

open Act

/-- What a scripted sampler notes of the span that it is asked about: its attributes are read as a
dictionary. -/
def noted (request : SpanRequest) : Except Failure SpanRequest := do
  let entries ← if request.attributes.isTruthy then request.attributes.entries else .ok []
  return { request with attributes := .dict entries }

/-- Ask the sampler of an open recorder. -/
def sample (r : Ref Recorder) (request : SpanRequest) : Act Decision := do
  let w ← get
  let x := w.recorders.get r
  if x.closed then return .drop
  if let .scripted verdicts _ _ := x.sampler then
    if verdicts.isEmpty then throw .indexOutOfRange
    let note ← MonadExcept.ofExcept (noted request)
    modifyRecorder r fun x => { x with asked := x.asked.map (· ++ [note]) }
  modifyRecorder r fun x => { x with decisions := x.decisions + 1 }
  MonadExcept.ofExcept <|
    (x.sampler.decide x.decisions w.current request.attributes).mapError Failure.leavingStart

/-- Start a span. The context is what spans inside see, also of a span that does not record. -/
def startSpan (r : Ref Recorder) (scope : Scope) (request : SpanRequest) :
    Act (Option Span × SpanContext) := do
  let decision ← sample r request
  if !decision.recording then return (none, ⟨request.name, false⟩)
  let attributes ← MonadExcept.ofExcept (spanAttributes decision.attributes)
  let w ← get
  let x := w.recorders.get r
  let span : Span :=
    { name := request.name
      kind := request.kind
      attributes
      scope
      parent := w.current.map (·.name)
      sampled := decision.sampled
      service := x.service }
  note (.started r span)
  Delivery.onStart r span x.attached
  return (some span, ⟨span.name, span.sampled⟩)

/-- End a span that records. -/
def endSpan (r : Ref Recorder) (span : Span) (failed : Bool) : Act Unit := do
  let record : SpanRecord := { span, failed }
  let attached := ((← get).recorders.get r).attached
  Delivery.onEnding attached
  note (.ended r record)
  Delivery.onEnd r record attached

end Recorder

namespace Tracer

open Act

/-- What is answered for a span: whether it records, whether it is sampled, and the replies of its
body. -/
structure SpanAnswer where
  recording : Bool
  sampled : Bool
  body : Option (List Reply)

/-- Run a body with a span context as the current one. -/
def runBody (runner : Runner) (context : Option SpanContext) (body : Option (List Step)) :
    Act (Option (List Reply)) := do
  let outer := (← get).current
  modify fun w => { w with current := context }
  let replies ←
    match body with
    | none => pure none
    | some steps => some <$> Act.run runner steps
  modify fun w => { w with current := outer }
  return replies

/-- A span around the steps of a body, then the error that the body raises, or what goes wrong when
the span records it. A span of the idle tracer stands for the span around it. -/
def withSpan (runner : Runner) (tracer : Tracer) (request : SpanRequest)
    (body : Option (List Step)) (fault : Option Failure) : Act SpanAnswer := do
  match tracer with
  | .idle =>
    let context := (← get).current
    let replies ← runBody runner context body
    if let some e := fault then throw e
    return ⟨false, (context.map (·.sampled)).getD false, replies⟩
  | .recording r scope =>
    let (span, context) ← Recorder.startSpan r scope request
    let replies ← runBody runner (some context) body
    let unrecorded := if span.isSome then fault.bind Failure.recordingFault? else none
    if let some span := span then
      Recorder.endSpan r span (unrecorded.isNone && fault.any (!·.isInterruption))
    if let some e := unrecorded.or fault then throw e
    return ⟨span.isSome, context.sampled, replies⟩

end Tracer

end Tracing
