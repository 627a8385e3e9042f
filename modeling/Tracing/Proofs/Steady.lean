import Tracing.Proofs.Likeness
import Tracing.Proofs.Run

/-!
# Tracing.Proofs.Steady

From worlds alike, the operations of the library end the same way.

* `RunnersAgree`  — so do two ways to run the steps of hooks and of bodies, with related replies.
* `flush_agree`, `close_agree` — pipelines.
* `make_agree`    — recorders may be made with related options.
* `shutdown_agree`, `withSpan_agree` — recorders and spans.
-/

namespace Tracing

open Act

/-- From worlds that `A` relates, two runners give replies that `S` relates, for steps that satisfy
`P`. -/
def RunnersAgree (P : Step → Prop) (S : List Reply → List Reply → Prop)
    (A : World → World → Prop) (runner runner' : Runner) : Prop :=
  ∀ steps, Step.EveryIn P steps → Agree A S (Act.run runner steps) (Act.run runner' steps)

theorem accept_role (x : Processor) (span : SpanRecord) : (x.accept span).role = x.role := by
  unfold Processor.accept
  split
  · rfl
  · split <;> rfl

section

variable {P : Step → Prop} {O : Options → Options → Prop} {V : Answer → Answer → Prop}
  {S : List Reply → List Reply → Prop} {A : World → World → Prop} [likens : Likens P O V S A]
  {runner runner' : Runner}
include likens

/-! ## Calls of processors -/

theorem begin_steady (q : Ref Processor) (via : Option (Ref Pipeline)) (c : Call) :
    Steady A (Delivery.begin q via c) := by
  refine read_agree ?_
  intro w w' h
  rw [h.calls]
  exact (note_steady _).bind fun _ => Agree.pure rfl

theorem runHook_agree (hr : RunnersAgree P S A runner runner') (number : Nat)
    {hook : Option (List Step)} (hh : ∀ steps, hook = some steps → Step.EveryIn P steps) :
    Match A (Delivery.runHook runner number hook) (Delivery.runHook runner' number hook) := by
  cases hook with
  | none => exact Agree.pure rfl
  | some steps =>
    refine (hr steps (hh steps rfl)).bind fun replies replies' same => ?_
    exact Agree.modify fun _ _ h => likens.answered number h same

theorem call_agree (hr : RunnersAgree P S A runner runner') (q : Ref Processor)
    (via : Option (Ref Pipeline)) (c : Call) {take : Processor → Reaction}
    (role : ∀ x, (take x).processor.role = x.role)
    (hook : ∀ {x : Processor}, x.role.HooksSatisfy P → ∀ {steps},
      (take x).hook = some steps → Step.EveryIn P steps) :
    Match A (Delivery.call runner q via c take) (Delivery.call runner' q via c take) := by
  refine read_agree ?_
  intro w w' h
  rw [h.processors]
  refine (begin_steady q via c).bind ?_
  intro number
  have taken := role (w.processors.get q) ▸ h.hooks q
  refine (modifyProcessor_steady q fun _ _ => taken).bind ?_
  intro _
  refine (runHook_agree hr number fun _ => hook (h.hooks q)).bind ?_
  intro _
  exact Steady.ofExcept _

theorem forceFlush_agree (hr : RunnersAgree P S A runner runner') (q : Ref Processor)
    (via : Option (Ref Pipeline)) (timeout : Value) :
    Match A (Delivery.forceFlush runner q via timeout)
      (Delivery.forceFlush runner' q via timeout) :=
  call_agree hr q via _ Processor.onForceFlush_role Processor.onForceFlush_hook

theorem processorShutdown_agree (hr : RunnersAgree P S A runner runner') (q : Ref Processor)
    (via : Option (Ref Pipeline)) :
    Match A (Delivery.shutdown runner q via) (Delivery.shutdown runner' q via) :=
  call_agree hr q via _ Processor.onShutdown_role Processor.onShutdown_hook

theorem onStart_steady (r : Ref Recorder) (span : Span) (qs : List (Ref Processor)) :
    Steady A (Delivery.onStart r span qs) := by
  induction qs with
  | nil => exact Agree.pure rfl
  | cons q rest ih =>
    refine read_agree ?_
    intro w w' h
    rw [h.processors]
    dsimp only
    split
    · exact Agree.throw _
    · exact (note_steady _).bind fun _ => ih

theorem onEnding_steady (qs : List (Ref Processor)) : Steady A (Delivery.onEnding qs) := by
  induction qs with
  | nil => exact Agree.pure rfl
  | cons q rest ih =>
    refine read_agree ?_
    intro w w' h
    rw [h.processors]
    dsimp only
    split
    · exact Agree.throw _
    · exact ih

theorem onEnd_steady (r : Ref Recorder) (span : SpanRecord) (qs : List (Ref Processor)) :
    Steady A (Delivery.onEnd r span qs) := by
  induction qs with
  | nil => exact Agree.pure rfl
  | cons q rest ih =>
    refine (note_steady _).bind ?_
    intro _
    have accepted : Steady A (modifyProcessor q (·.accept span)) :=
      modifyProcessor_steady q fun x hx => (accept_role x span).symm ▸ hx
    exact accepted.bind fun _ => ih

/-! ## Pipelines -/

theorem flush_agree (hr : RunnersAgree P S A runner runner') (p : Ref Pipeline) (timeout : Value) :
    Match A (Pipeline.flush runner p timeout) (Pipeline.flush runner' p timeout) := by
  refine read_agree ?_
  intro w w' h
  rw [h.pipelines]
  dsimp only
  split
  · exact (Steady.ofExcept _).bind fun _ => Agree.pure rfl
  · refine (Agree.attempt (forceFlush_agree hr _ _ _)).bind ?_
    intro _ _ ended
    cases ended with
    | error e =>
      dsimp only
      split
      · exact Agree.throw e
      · exact (say_steady ..).bind fun _ => Agree.pure rfl
    | ok hv =>
      subst hv
      dsimp only
      split
      · exact (say_steady ..).bind fun _ => Agree.pure rfl
      · exact (say_steady ..).bind fun _ => Agree.pure rfl

theorem close_agree (hr : RunnersAgree P S A runner runner') (p : Ref Pipeline) :
    Match A (Pipeline.close runner p) (Pipeline.close runner' p) := by
  refine read_agree ?_
  intro w w' h
  rw [h.pipelines]
  dsimp only
  split
  · exact Agree.pure rfl
  · refine (modifyPipeline_steady p _).bind ?_
    intro _
    refine (Agree.attempt (processorShutdown_agree hr _ _)).bind ?_
    intro _ _ ended
    cases ended with
    | error e =>
      dsimp only
      split
      · exact Agree.throw e
      · exact say_steady ..
    | ok hv => exact say_steady ..

/-! ## Recorders -/

theorem flushAll_agree (hr : RunnersAgree P S A runner runner') (r : Ref Recorder)
    (ps : List (Ref Pipeline)) :
    Match A (Recorder.flushAll runner r ps) (Recorder.flushAll runner' r ps) := by
  induction ps with
  | nil => exact Agree.pure rfl
  | cons p rest ih =>
    refine read_agree ?_
    intro w w' h
    rw [h.flushTimeout]
    refine (flush_agree hr p _).bind ?_
    intro report
    exact ih.bind fun reports => Agree.pure rfl

theorem recorderFlush_agree (hr : RunnersAgree P S A runner runner') (r : Ref Recorder) :
    Match A (Recorder.flush runner r) (Recorder.flush runner' r) := by
  refine read_agree ?_
  intro w w' h
  dsimp only
  rw [h.issued, h.owned]
  split
  · exact Agree.pure rfl
  · refine (flushAll_agree hr r _).bind ?_
    intro reports
    split
    · exact (say_steady ..).bind fun _ => Agree.pure rfl
    · exact Agree.pure rfl

theorem closeAll_agree (hr : RunnersAgree P S A runner runner') (r : Ref Recorder)
    (ps : List (Ref Pipeline)) :
    Match A (Recorder.closeAll runner r ps) (Recorder.closeAll runner' r ps) := by
  induction ps with
  | nil => exact Agree.pure rfl
  | cons p rest ih =>
    refine read_agree ?_
    intro w w' h
    rw [h.flushTimeout]
    refine (flush_agree hr p _).bind ?_
    intro report
    refine (close_agree hr p).bind ?_
    intro _
    exact ih.bind fun reports => Agree.pure rfl

theorem shutdown_agree (hr : RunnersAgree P S A runner runner') (r : Ref Recorder) :
    Match A (Recorder.shutdown runner r) (Recorder.shutdown runner' r) := by
  refine read_agree ?_
  intro w w' h
  dsimp only
  rw [h.closed, h.owned]
  split
  · exact Agree.pure rfl
  · refine (modifyRecorder_steady r).bind ?_
    intro _
    refine (note_steady _).bind ?_
    intro _
    refine (closeAll_agree hr r _).bind ?_
    intro reports
    refine Match.bind (put_steady (A := A)) fun _ => ?_
    refine (note_steady _).bind fun _ => read_agree fun w w' h => ?_
    rw [h.serviceName]
    exact (say_steady ..).bind fun _ => Agree.pure rfl

/-! ## Spans -/

theorem sample_steady (r : Ref Recorder) (request : SpanRequest) :
    Steady A (Recorder.sample r request) := by
  refine read_agree ?_
  intro w w' h
  dsimp only
  rw [h.closed, h.sampler, h.decisions, h.current]
  split
  · exact Agree.pure rfl
  · have ask : Steady A (do
        modifyRecorder r fun x => { x with decisions := x.decisions + 1 }
        MonadExcept.ofExcept (((w.recorders.get r).sampler.decide (w.recorders.get r).decisions
          w.current request.attributes).mapError Failure.leavingStart)) :=
      (modifyRecorder_steady r).bind fun _ => Steady.ofExcept _
    split
    · split
      · exact Agree.throw_bind _
      · refine (Steady.ofExcept _).bind ?_
        intro noted
        exact (modifyRecorder_steady r).bind fun _ => ask
    · exact ask

theorem startSpan_steady (r : Ref Recorder) (scope : Scope) (request : SpanRequest) :
    Steady A (Recorder.startSpan r scope request) := by
  refine (sample_steady r request).bind ?_
  intro decision
  split
  · exact Agree.pure rfl
  · refine (Steady.ofExcept _).bind fun attributes => read_agree fun w w' h => ?_
    dsimp only
    rw [h.service, h.attached, h.current]
    refine (note_steady _).bind fun _ => ?_
    exact (onStart_steady r _ _).bind fun _ => Agree.pure rfl

theorem endSpan_steady (r : Ref Recorder) (span : Span) (failed : Bool) :
    Steady A (Recorder.endSpan r span failed) := by
  refine read_agree ?_
  intro w w' h
  dsimp only
  rw [h.attached]
  refine (onEnding_steady _).bind fun _ => (note_steady _).bind fun _ => ?_
  exact onEnd_steady r _ _

theorem setCurrent_steady (context : Option SpanContext) :
    Steady A (modify fun w => { w with current := context }) :=
  put_steady

theorem runBody_agree (hr : RunnersAgree P S A runner runner') (context : Option SpanContext)
    {body : Option (List Step)} (hb : Step.EveryInBody P body) :
    Agree A (Option.Rel S) (Tracer.runBody runner context body)
      (Tracer.runBody runner' context body) := by
  refine read_agree ?_
  intro w w' h
  rw [h.current]
  refine (setCurrent_steady context).bind ?_
  intro _
  cases body with
  | none =>
    refine Agree.bind (V := Option.Rel S) (Agree.pure .none) ?_
    intro _ _ h
    exact (setCurrent_steady w.current).bind fun _ => Agree.pure h
  | some steps =>
    have replied : Agree A (Option.Rel S) (some <$> Act.run runner steps)
        (some <$> Act.run runner' steps) := (hr steps hb).map fun _ _ h => .some h
    refine replied.bind ?_
    intro replies replies' h
    exact (setCurrent_steady w.current).bind fun _ => Agree.pure h

/-- The same answer for a span, with related replies of its body. -/
structure SameSpan (S : List Reply → List Reply → Prop) (a a' : Tracer.SpanAnswer) : Prop where
  recording : a'.recording = a.recording := by rfl
  sampled : a'.sampled = a.sampled := by rfl
  body : Option.Rel S a.body a'.body

theorem withSpan_agree (hr : RunnersAgree P S A runner runner') (tracer : Tracer)
    (request : SpanRequest) {body : Option (List Step)} (hb : Step.EveryInBody P body)
    (fault : Option Failure) :
    Agree A (SameSpan S) (Tracer.withSpan runner tracer request body fault)
      (Tracer.withSpan runner' tracer request body fault) := by
  cases tracer with
  | idle =>
    refine read_agree ?_
    intro w w' h
    rw [h.current]
    refine (runBody_agree hr _ hb).bind ?_
    intro replies replies' hsame
    cases fault with
    | none => exact Agree.pure { body := hsame }
    | some e => exact Agree.throw_bind e
  | recording r scope =>
    refine (startSpan_steady r scope request).bind ?_
    intro started
    obtain ⟨span, context⟩ := started
    refine (runBody_agree hr _ hb).bind ?_
    intro replies replies' hsame
    cases span with
    | none =>
      dsimp only
      split
      · exact Agree.throw_bind _
      · exact Agree.pure { body := hsame }
    | some span =>
      refine (endSpan_steady r span _).bind ?_
      intro _
      dsimp only
      split
      · exact Agree.throw_bind _
      · exact Agree.pure { body := hsame }

/-! ## The making of recorders -/

theorem buildExport_steady (o : Options) : Steady A (Pipeline.buildExport o) := by
  refine Agree.ofExcept_bind ?_
  intro made hmade
  refine (say_steady ..).bind ?_
  intro _
  exact (addProcessor_steady (exportProcessor_hooks hmade)).bind fun _ => addPipeline_steady _

theorem build_steady (plan : Recorder.Plan) : Steady A plan.build := by
  unfold Recorder.Plan.build
  split
  · exact Agree.pure rfl
  · split
    · exact (buildExport_steady _).bind fun _ => Agree.pure rfl
    · exact Agree.pure rfl

theorem attach_steady (r : Ref Recorder) (p : Ref Pipeline) : Steady A (Recorder.attach r p) := by
  refine read_agree ?_
  intro w w' h
  rw [h.pipelines]
  exact (note_steady _).bind fun _ => modifyRecorder_steady r

theorem attachAll_steady (r : Ref Recorder) (ps : List (Ref Pipeline)) :
    Steady A (Recorder.attachAll r ps) := by
  induction ps with
  | nil => exact Agree.pure rfl
  | cons p rest ih => exact (attach_steady r p).bind fun _ => ih

theorem make_agree (plan : Recorder.Plan) {o : Options} (h : O plan.options o) :
    Match A (Recorder.make plan) (Recorder.make { plan with options := o }) := by
  obtain ⟨uncached, check⟩ := likens.options h
  have reads : ∀ {β : Type} (g : Options → β), (∀ o : Options, g o.uncached = g o) →
      g o = g plan.options := by
    intro β g hg
    rw [← hg, uncached, hg]
  have build : Recorder.Plan.build { plan with options := o } = plan.build :=
    reads (fun o => Recorder.Plan.build { plan with options := o }) fun _ => rfl
  have attributes : Recorder.Plan.attributes { plan with options := o } = plan.attributes :=
    reads (fun o => Recorder.Plan.attributes { plan with options := o }) fun _ => rfl
  have service : o.serviceName = plan.options.serviceName := reads _ fun _ => rfl
  unfold Recorder.make
  rw [check, build, attributes, service]
  refine Agree.ofExcept_bind fun _ _ => Agree.ofExcept_bind fun resource _ => ?_
  refine (build_steady _).bind ?_
  intro ps
  refine (addRecorder_agree h _ _ _ _).bind ?_
  intro r
  refine (attachAll_steady r _).bind ?_
  intro _
  have said : Steady A (do
      say .info Recorder.logger ("SdkTracerProvider initialized for service " ++
        plan.options.serviceName.wording ++ s!" with {ps.length} pipeline(s)")
      return r) := (say_steady ..).bind fun _ => Agree.pure rfl
  dsimp only
  split
  · exact Match.bind (put_steady (A := A)) fun _ => said
  · exact said

theorem addSpanProcessor_steady (r : Ref Recorder) (q : Ref Processor) (name : Value) :
    Steady A (Recorder.addSpanProcessor r q name) := by
  refine read_agree ?_
  intro w w' h
  rw [h.processors]
  refine (addPipeline_steady _).bind fun p => (attach_steady r p).bind fun _ => ?_
  exact (say_steady ..).bind fun _ => Agree.pure rfl

/-! ## Providers -/

theorem providerGetTracer_steady (p : Provider) {s : Step} (hs : P s) {request : Request}
    {fault : Option Failure} (asked : (request, fault) ∈ s.asks) :
    Steady A (p.getTracer request fault) := by
  cases p with
  | recorder r =>
    have asks : Steady A (Recorder.getTracer r request fault) :=
      ⟨fun _ _ h => likens.ask r h hs asked⟩
    exact asks.map fun _ _ h => congrArg some h
  | idle r =>
    refine read_agree ?_
    intro w w' h
    rw [h.idles]
    split
    · exact Agree.pure rfl
    · exact Agree.pure rfl

theorem providerFlush_agree (hr : RunnersAgree P S A runner runner') (p : Provider) :
    Match A (p.flush runner) (p.flush runner') := by
  cases p with
  | recorder r => exact (recorderFlush_agree hr r).map fun _ _ h => congrArg some h
  | idle r =>
    refine read_agree ?_
    intro w w' h
    rw [h.idles]
    split
    · exact Agree.pure rfl
    · exact Agree.pure rfl

theorem providerShutdown_agree (hr : RunnersAgree P S A runner runner') (p : Provider) :
    Match A (p.shutdown runner) (p.shutdown runner') := by
  cases p with
  | recorder r => exact shutdown_agree hr r
  | idle r =>
    refine read_agree ?_
    intro w w' h
    rw [h.idles]
    dsimp only
    split
    · exact Agree.pure rfl
    · exact Agree.throw _
    · exact Agree.throw _
    · exact Agree.throw _
    · exact Agree.throw _

theorem swap_steady (p : Option Provider) : Steady A (Installed.swap p) := by
  refine read_agree ?_
  intro w w' h
  rw [h.installed]
  refine Match.bind (put_steady (A := A)) ?_
  intro _
  refine (note_steady _).bind fun _ => read_agree fun w w' h => ?_
  have shown : p.elim ("None" : Wording) (Provider.shown w') =
      p.elim ("None" : Wording) (Provider.shown w) := by
    cases p with
    | none => rfl
    | some p => exact h.shown_eq p
  dsimp only
  rw [shown]
  exact (say_steady ..).bind fun _ => Agree.pure rfl

theorem installedProvider_steady (member : String) : Steady A (Installed.provider member) := by
  refine read_agree ?_
  intro w w' h
  rw [h.installed]
  split
  · exact Agree.pure rfl
  · exact Agree.throw _

theorem installedShutdown_agree (hr : RunnersAgree P S A runner runner') :
    Match A (Installed.shutdown runner) (Installed.shutdown runner') := by
  refine (addIdle_steady _).bind fun fresh => (swap_steady _).bind fun previous => ?_
  cases previous with
  | none => exact Agree.pure rfl
  | some previous =>
    refine read_agree ?_
    intro w w' h
    rw [h.hasShutdown_eq]
    split
    · exact providerShutdown_agree hr previous
    · exact Agree.pure rfl

end

end Tracing
