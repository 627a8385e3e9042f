import Tracing.FlushReport
import Tracing.Catalog

/-!
# Tracing.Answer

What a step answers, and what a run leaves behind for its reader: the journal of events.

* `Answer`  — the answer of one step; the answers of the steps inside it are part of it.
* `Reply`   — an answer with the log records of its step.
* `Call`    — a call that a processor receives.
* `Event`   — an entry of the journal, in which calls stand in the order in which they began.
-/

namespace Tracing

structure Stats where
  hits : Nat
  misses : Nat
  failures : Nat
  kept : Nat
  pipelines : Nat
  closed : Bool
  enabled : Value
  serviceName : Value
  environment : Value

inductive Answer where
  | nothing
  | failed (e : Failure)
  | text (s : Text)
  | flag (b : Bool)
  | count (n : Nat)
  | value (v : Value)
  | report (r : FlushReport)
  | reports (rs : List FlushReport)
  | pipelineState (name : Value) (closed : Bool) (shown : Text)
  /-- The calls that a processor receives, up to the end of the run. -/
  | calls (p : Ref Processor)
  | spans (spans : List SpanRecord)
  | exporting (name : Value) (className : Text) (target : ExportTarget)
  /-- A provider that records nothing, and whether it kept the options given to it. -/
  | idle (shown : Text) (kept : Option Bool)
  | tracer (t : Option Tracer)
  | tracers (ts : List (Option Tracer))
  | span (recording sampled : Bool) (body : Option (List (Answer × List LogRecord)))
  | stats (s : Stats)
  | pipelines (shown : List Text)
  | attributes (entries : List (Value × Value))
  /-- A sampler, and the recorder whose scripted one was asked up to the end of the run. -/
  | sampler (description : Text) (asked : Option (Ref Recorder))
  | ids (ids : List (Option Text))
  | exits (exits : List (Option Text × Answer))
  | provider (id : Option Text) (className : Text)
  | created (className shown : Text) (provider : Value)

/-- An answer and the log records of its step; no records are kept of concurrent calls. -/
abbrev Reply := Answer × List LogRecord

/-! ## The journal -/

inductive Call where
  /-- A span of a recorder starts. -/
  | onStart (source : Ref Recorder) (span : Span)
  | onEnd (source : Ref Recorder) (span : SpanRecord)
  | forceFlush (timeout : Value)
  | shutdown

inductive Event where
  /-- A processor is called, by a pipeline or directly. -/
  | called (processor : Ref Processor) (via : Option (Ref Pipeline)) (call : Call)
  /-- The hook of call number `call` has run; calls are numbered in the order in which they begin. -/
  | answered (call : Nat) (replies : List Reply)
  /-- A recorder looks a tracer up among those it keeps. -/
  | sought (recorder : Ref Recorder) (key : TracerKey)
  /-- A recorder makes a tracer. -/
  | issued (recorder : Ref Recorder) (key : TracerKey)
  /-- A tracer that a recorder is to make cannot be made. -/
  | refused (recorder : Ref Recorder) (key : TracerKey)
  /-- A span of a recorder starts to record. -/
  | started (recorder : Ref Recorder) (span : Span)
  /-- A span of a recorder ends. -/
  | ended (recorder : Ref Recorder) (span : SpanRecord)
  /-- A pipeline is attached to a recorder. -/
  | attached (recorder : Ref Recorder) (pipeline : Ref Pipeline)
  /-- The first shutdown of a recorder begins, with the pipelines that it has then. -/
  | shuttingDown (recorder : Ref Recorder) (pipelines : List (Ref Pipeline))
  /-- The first shutdown of a recorder is complete. -/
  | shutDown (recorder : Ref Recorder)
  /-- A provider is installed in place of another one. -/
  | installed (provider previous : Option Provider)

end Tracing
