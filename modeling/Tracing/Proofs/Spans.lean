import Mathlib.Logic.Function.Iterate
import Tracing.Proofs.Shape
import Tracing.Proofs.Tracers

/-!
# Tracing.Proofs.Spans

What tracers and spans change besides the recorder that they are asked of, and what they enter into
the journal.

* `World.Serves`    — nothing but one recorder and the log differs, and only entries are made that
  an open recorder makes.
* `getTracer_serves`, `startSpan_serves` — so it is when a tracer is asked for or a span started.
* `getTracer_unsought` — a request that looks no identity up gives the idle tracer.
* `getTracer_closed`, `startSpan_closed` — a closed recorder gives the idle tracer, and starts no
  span.
* `World.delivered` — an ended span has come to processors.
* `endSpan_run`     — a span that ends is entered and delivered, unless a processor without the
  methods fails it.
-/

namespace Tracing

open Act

/-- Entries of tracers looked up and spans started, which a closed recorder does not make. -/
def Event.isOfOpen (r : Ref Recorder) : Event → Bool
  | .sought source _ => source = r
  | .issued source _ => source = r
  | .refused source _ => source = r
  | .started source _ => source = r
  | .called _ _ (.onStart source _) => source = r
  | _ => false

namespace World

/-- The recorder `r` looks up tracers and starts spans. -/
structure Serves (r : Ref Recorder) (w w' : World) : Prop where
  processors : w'.processors = w.processors := by rfl
  pipelines : w'.pipelines = w.pipelines := by rfl
  elsewhere : ∀ t, t ≠ r → w'.recorders.get t = w.recorders.get t := by intro t ht; rfl
  entries : ∃ events, w'.journal = w.journal ++ events ∧ ∀ e ∈ events, e.isOfOpen r = true := by
    exact ⟨[], (List.append_nil _).symm, by simp⟩

namespace Serves

variable {r : Ref Recorder} {w w' w'' : World}

theorem trans (h : Serves r w w') (h' : Serves r w' w'') : Serves r w w'' where
  processors := h'.processors.trans h.processors
  pipelines := h'.pipelines.trans h.pipelines
  elsewhere t ht := (h'.elsewhere t ht).trans (h.elsewhere t ht)
  entries := by
    obtain ⟨a, ha, hra⟩ := h.entries
    obtain ⟨b, hb, hrb⟩ := h'.entries
    refine ⟨a ++ b, by rw [hb, ha, List.append_assoc], fun e he => ?_⟩
    rcases List.mem_append.mp he with he | he
    · exact hra e he
    · exact hrb e he

instance : IsPreorder World (Serves r) where
  refl _ := { }
  trans _ _ _ := trans

theorem extends_journal (h : Serves r w w') : w.journal <+: w'.journal := by
  obtain ⟨events, hj, -⟩ := h.entries
  exact ⟨events, hj.symm⟩

theorem entered {e : Event} (h : e.isOfOpen r = true) : Serves r w (w.entered e) where
  entries := ⟨[e], rfl, by simpa using h⟩

theorem onRecorder (f : Recorder → Recorder) : Serves r w (w.withRecorder r f) where
  elsewhere _ ht := w.recorders.get_modify_ne f ht

end Serves

end World

open World

section

variable {r : Ref Recorder} {w : World}

/-! ## Tracers -/

theorem Event.isOfOpen_of_isLookup {e : Event} (h : e.isLookup r = true) : e.isOfOpen r = true := by
  cases e <;> first | exact h | simp [isLookup] at h

theorem Event.isRoutine_of_isLookup {e : Event} (h : e.isLookup r = true) : e.isRoutine = true := by
  cases e <;> first | rfl | simp [isLookup] at h

theorem getTracer_serves (r : Ref Recorder) (request : Request) (fault : Option Failure)
    (w : World) : Serves r w ((Recorder.getTracer r request fault).after w) := by
  have allows : AllowsRequest (Serves r) r :=
    { entered := fun _ _ h => .entered (Event.isOfOpen_of_isLookup h)
      changed := fun _ f _ => .onRecorder f
      logged := fun _ _ => {} }
  exact getTracer_allowed allows request fault w

/-- A request that looks no identity up gives the idle tracer. At most it counts a failure. -/
theorem getTracer_unsought {request : Request}
    (h : ∀ key name version, (w.recorders.get r).inquire request ≠ .seeks key name version)
    (fault : Option Failure) :
    ∃ failures log, Recorder.getTracer r request fault w =
      .ok .idle { w.withRecorder r fun x => { x with failures } with log } := by
  cases hq : (w.recorders.get r).inquire request with
  | idle =>
    have same : w.withRecorder r (fun x => { x with failures := (w.recorders.get r).failures }) = w :=
      w.withRecorder_self r rfl
    exact ⟨_, w.log, by rw [Recorder.getTracer_idle hq, same]⟩
  | fails e =>
    have failed : w.recorders.modify r Recorder.failed = w.recorders.modify r
        fun x => { x with failures := (w.recorders.get r).failures + 1 } :=
      Store.modify_congr _ _ rfl
    refine ⟨(w.recorders.get r).failures + 1, w.log ++ [Recorder.failureRecord e], ?_⟩
    rw [Recorder.getTracer_fails hq, World.withRecorder, failed]
    rfl
  | seeks key name version => exact absurd hq (h key name version)

/-- A closed recorder gives the idle tracer. At most it counts a failure, of a request that says no
identity. -/
theorem getTracer_closed (h : (w.recorders.get r).closed = true) (request : Request)
    (fault : Option Failure) :
    ∃ failures log, Recorder.getTracer r request fault w =
      .ok .idle { w.withRecorder r fun x => { x with failures } with log } := by
  refine getTracer_unsought (fun key name version hq => ?_) fault
  rw [Recorder.open_of_seeks hq] at h
  cases h

/-! ## Starting spans -/

theorem sample_closed (h : (w.recorders.get r).closed = true) (request : SpanRequest) :
    Recorder.sample r request w = .ok .drop w := by
  simp [Recorder.sample, run_bind, h]

/-- The sampler of a closed recorder is not asked, and its spans record nothing. -/
theorem startSpan_closed (h : (w.recorders.get r).closed = true) (scope : Scope)
    (request : SpanRequest) :
    Recorder.startSpan r scope request w = .ok (none, ⟨request.name, false⟩) w := by
  simp [Recorder.startSpan, run_bind, sample_closed h, Decision.drop]

/-- A span that is given is one that was entered as started. -/
theorem startSpan_serves (r : Ref Recorder) (scope : Scope) (request : SpanRequest) (w : World) :
    Leads (Serves r) (fun started w' => ∀ span, started.1 = some span →
      .started r span ∈ w'.journal) (Recorder.startSpan r scope request) w := by
  have allows : AllowsStart (Serves r) r :=
    { journal := Serves.extends_journal
      sampled := fun _ f _ => .onRecorder f
      started := fun _ _ => .entered (by simp [Event.isOfOpen])
      delivered := fun _ _ _ => .entered (by simp [Event.isOfOpen]) }
  exact startSpan_leads allows scope request

/-! ## Ending spans -/

namespace World

/-- An ended span of the recorder `r` has come to processors. -/
def delivered (r : Ref Recorder) (record : SpanRecord) : List (Ref Processor) → World → World
  | [], w => w
  | q :: rest, w =>
    delivered r record rest
      (w.called q none (.onEnd r record) ((w.processors.get q).accept record))

variable (r : Ref Recorder) (record : SpanRecord) (qs : List (Ref Processor)) (w : World)

theorem delivered_recorders : (w.delivered r record qs).recorders = w.recorders := by
  induction qs generalizing w with
  | nil => rfl
  | cons q rest ih => exact ih _

theorem delivered_journal :
    (w.delivered r record qs).journal =
      w.journal ++ qs.map fun q => .called q none (.onEnd r record) := by
  induction qs generalizing w with
  | nil => simp [delivered]
  | cons q rest ih =>
    rw [delivered, ih]
    simp [called]

theorem called_get {q t : Ref Processor} {via : Option (Ref Pipeline)} {call : Call}
    {x : Processor} (h : t ≠ q) : (w.called q via call x).processors.get t = w.processors.get t :=
  w.processors.get_modify_ne _ h

/-- A processor takes the span as often as it is among those that the span comes to. -/
theorem delivered_get (t : Ref Processor) :
    (w.delivered r record qs).processors.get t =
      (·.accept record)^[qs.count t] (w.processors.get t) := by
  induction qs generalizing w with
  | nil => rfl
  | cons q rest ih =>
    rw [delivered, ih]
    by_cases ht : t = q
    · subst ht
      have accepted : (w.called t none (.onEnd r record)
          ((w.processors.get t).accept record)).processors.get t =
            (w.processors.get t).accept record :=
        w.processors.get_modify_const t (f := (·.accept record)) rfl
      rw [accepted, List.count_cons_self, Function.iterate_succ_apply]
    · rw [called_get w ht, List.count_cons_of_ne (Ne.symm ht)]

end World

theorem onEnd_run (r : Ref Recorder) (record : SpanRecord) (qs : List (Ref Processor))
    (w : World) : Delivery.onEnd r record qs w = .ok () (w.delivered r record qs) := by
  induction qs generalizing w with
  | nil => rfl
  | cons q rest ih =>
    have accepted : (w.entered (.called q none (.onEnd r record))).processors.modify q
        (·.accept record) = w.processors.modify q fun _ => (w.processors.get q).accept record :=
      Store.modify_congr _ _ rfl
    simp only [Delivery.onEnd, note, modifyProcessor, run_bind, run_modify, ih]
    rw [World.entered] at accepted
    rw [delivered, World.called, ← accepted]

theorem onEnding_cons {q : Ref Processor} {rest : List (Ref Processor)} {w : World}
    (h : (w.processors.get q).role ≠ .bare) :
    Delivery.onEnding (q :: rest) w = Delivery.onEnding rest w := by
  simp [Delivery.onEnding, run_bind]

/-- A processor without the methods fails the end of a span before any has the span. -/
theorem onEnding_run (qs : List (Ref Processor)) (w : World) :
    Delivery.onEnding qs w = .ok () w ∨
      ∃ q ∈ qs, ∃ e, (w.processors.get q).role = .bare ∧ Delivery.onEnding qs w = .error e w := by
  induction qs with
  | nil => exact .inl rfl
  | cons q rest ih =>
    by_cases bare : (w.processors.get q).role = .bare
    · have failing : Delivery.onEnding (q :: rest) w =
          .error (.noAttribute (w.processors.get q).className "_on_ending") w := by
        simp [Delivery.onEnding, run_bind, bare]
      exact .inr ⟨q, List.mem_cons_self, _, bare, failing⟩
    · rw [onEnding_cons bare]
      rcases ih with ih | ⟨t, ht, e, bare, ih⟩
      · exact .inl ih
      · exact .inr ⟨t, List.mem_cons_of_mem q ht, e, bare, ih⟩

/-- A span that ends is entered and comes to all processors attached then. -/
theorem endSpan_run (r : Ref Recorder) (span : Span) (failed : Bool) (w : World) :
    Recorder.endSpan r span failed w =
        .ok () ((w.entered (.ended r ⟨span, failed⟩)).delivered r ⟨span, failed⟩
          (w.recorders.get r).attached) ∨
      ∃ q ∈ (w.recorders.get r).attached, ∃ e, (w.processors.get q).role = .bare ∧
        Recorder.endSpan r span failed w = .error e w := by
  rcases onEnding_run (w.recorders.get r).attached w with h | ⟨q, hq, e, bare, h⟩
  · left
    simp only [Recorder.endSpan, run_bind, run_get, h, note, run_modify, onEnd_run]
    rfl
  · exact .inr ⟨q, hq, e, bare, by simp [Recorder.endSpan, run_bind, h]⟩

end

end Tracing
