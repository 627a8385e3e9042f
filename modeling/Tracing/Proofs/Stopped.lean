import Tracing.Proofs.Entries
import Tracing.Proofs.Run

/-!
# Tracing.Proofs.Stopped

A recorder whose first shutdown has begun, be that shutdown under way, complete or interrupted.

* `Recorder.SameUse` — a recorder keeps and counts the same tracers, and its sampler was asked the
  same. `Change.sameUse` — that is so of a closed recorder, whatever else happens.
* `Stopped`          — what a closed recorder still answers: idle tracers and spans that record
  nothing.
* `closeAll_congr`, `shutdown_congr` — the hooks that a shutdown runs run in worlds that come after
  its beginning.
* `shutdown_stops`   — from its first shutdown on a recorder stays stopped.
-/

namespace Tracing

open Act

/-! ## The use of a recorder -/

structure Recorder.SameUse (x x' : Recorder) : Prop where
  tracers : x'.tracers = x.tracers := by rfl
  issued : x'.issued = x.issued := by rfl
  hits : x'.hits = x.hits := by rfl
  misses : x'.misses = x.misses := by rfl
  /-- What the sampler was asked about, and how often. -/
  asked : x'.asked = x.asked := by rfl
  decisions : x'.decisions = x.decisions := by rfl

theorem Recorder.SameUse.trans {x y z : Recorder} (h : x.SameUse y) (h' : y.SameUse z) :
    x.SameUse z where
  tracers := h'.tracers.trans h.tracers
  issued := h'.issued.trans h.issued
  hits := h'.hits.trans h.hits
  misses := h'.misses.trans h.misses
  asked := h'.asked.trans h.asked
  decisions := h'.decisions.trans h.decisions

section

variable {P : Step → Prop} {w w' v : World} {r : Ref Recorder}

theorem withRecorder_sameUse (t : Ref Recorder) {f : Recorder → Recorder}
    (h : ∀ x, Recorder.SameUse x (f x)) :
    ((w.recorders.get r).SameUse ((w.withRecorder t f).recorders.get r)) := by
  rcases w.recorders.get_modify_eq_or t r f with hr | ⟨-, hr⟩
  · exact hr ▸ {}
  · exact hr ▸ h _

theorem World.Serves.sameUse {t : Ref Recorder} (h : World.Serves t w w') (ht : r ≠ t) :
    (w.recorders.get r).SameUse (w'.recorders.get r) := by
  rw [h.elsewhere r ht]
  exact {}

/-- A closed recorder looks up no tracer and asks no sampler, whatever happens. -/
theorem Change.sameUse (h : Change P w w') (has : w.recorders.Has r)
    (closed : (w.recorders.get r).closed = true) :
    (w.recorders.get r).SameUse (w'.recorders.get r) := by
  cases h with
  | addRecorder =>
    rw [w.recorders.get_add_of_lt _ has]
    exact {}
  | attach t p => exact withRecorder_sameUse (w := w.entered _) t fun _ => {}
  | ask _ _ t request fault =>
    by_cases ht : r = t
    · subst ht
      obtain ⟨failures, log, hrun⟩ := getTracer_closed closed request fault
      rw [after_of_ok hrun]
      exact withRecorder_sameUse r fun _ => {}
    · exact (getTracer_serves t request fault w).sameUse ht
  | assign _ field v _ t =>
    refine withRecorder_sameUse t fun x => ?_
    unfold Recorder.assign
    split
    · exact {}
    · exact {}
  | startSpan t scope request =>
    by_cases ht : r = t
    · subst ht
      rw [after_of_ok (startSpan_closed closed scope request)]
      exact {}
    · exact (startSpan_serves t scope request w).after.sameUse ht
  | endSpan t span failed =>
    rcases endSpan_run t span failed w with hrun | ⟨_, _, _, _, hrun⟩
    · rw [after_of_ok hrun, World.delivered_recorders]
      exact {}
    · rw [after_of_error hrun]
      exact {}
  | shuttingDown t => exact withRecorder_sameUse t fun _ => {}
  | _ => exact {}

theorem Changes.sameUse (h : Changes P w v) (has : w.recorders.Has r)
    (closed : (w.recorders.get r).closed = true) :
    (w.recorders.get r).SameUse (v.recorders.get r) := by
  induction h with
  | refl => exact {}
  | tail h change ih =>
    have later := Changes.extends h
    exact ih.trans (change.sameUse (later.hasRecorder has) (later.closed r has closed))

/-! ## Hooks of a shutdown -/

section

variable {runner runner' : Runner} {p : Ref Pipeline} {timeout : Value}

/-- Two runners run steps alike in every world that may come after `w`. -/
def Runner.AlikeSince (P : Step → Prop) (runner runner' : Runner) (w : World) : Prop :=
  ∀ v, Changes P w v → ∀ steps, runner' steps v = runner steps v

theorem Runner.AlikeSince.later (h : Runner.AlikeSince P runner runner' w)
    (hv : Changes P w v) : Runner.AlikeSince P runner runner' v :=
  fun _ hu => h _ (hv.trans hu)

theorem hooked_congr (h : Runner.AlikeSince P runner runner' w) (number : Nat)
    (hook : Option (List Step)) :
    World.hooked runner' number hook w = World.hooked runner number hook w := by
  cases hook with
  | none => rfl
  | some steps => simp only [World.hooked, h w .refl steps]

theorem attempt_congr {α : Type} {x x' : Act α} (h : x' w = x w) :
    attempt x' w = attempt x w := by
  simp only [attempt, h]

theorem flush_congr (h : Runner.AlikeSince P runner runner' w) :
    Pipeline.flush runner' p timeout w = Pipeline.flush runner p timeout w := by
  cases hc : (w.pipelines.get p).closed with
  | true => simp [Pipeline.flush, run_bind, hc]
  | false =>
    have begun : Change P w (Pipeline.flushBegun w p timeout) := .flush p timeout hc
    have ended : Pipeline.flushEnded runner' w p timeout = Pipeline.flushEnded runner w p timeout :=
      hooked_congr (h.later begun.changes) _ _
    have call : Delivery.forceFlush runner' (w.pipelines.get p).processor (some p) timeout w =
        Delivery.forceFlush runner (w.pipelines.get p).processor (some p) timeout w := by
      rw [Pipeline.forceFlush_run, Pipeline.forceFlush_run, ended]
    simp [Pipeline.flush, run_bind, hc, attempt_congr call]

theorem close_congr (h : Runner.AlikeSince P runner runner' w) :
    Pipeline.close runner' p w = Pipeline.close runner p w := by
  cases hc : (w.pipelines.get p).closed with
  | true => rw [Pipeline.close_closed hc, Pipeline.close_closed hc]
  | false =>
    have begun : Change P w (Pipeline.closeBegun w p) := .close p hc
    have ended : Pipeline.closeEnded runner' w p = Pipeline.closeEnded runner w p :=
      hooked_congr (h.later begun.changes) _ _
    have call : Delivery.shutdown runner' (w.pipelines.get p).processor (some p) (w.shut p) =
        Delivery.shutdown runner (w.pipelines.get p).processor (some p) (w.shut p) := by
      rw [Pipeline.shutdown_run, Pipeline.shutdown_run, ended]
    have attempted := attempt_congr call
    rw [World.shut] at attempted
    simp [Pipeline.close, modifyPipeline, run_bind, hc, attempted]

/-- What a shutdown does depends on hooks only as they run after its beginning. -/
theorem closeAll_congr (hr : runner.Keeps P) (hw : w.InOrder P)
    (h : Runner.AlikeSince P runner runner' w) (ps : List (Ref Pipeline)) :
    Recorder.closeAll runner' r ps w = Recorder.closeAll runner r ps w := by
  induction ps generalizing w with
  | nil => rfl
  | cons p rest ih =>
    simp only [Recorder.closeAll, run_bind, run_get]
    rw [flush_congr h]
    cases hf : Pipeline.flush runner p (w.recorders.get r).options.flushTimeout w with
    | error e w₁ => rfl
    | ok report w₁ =>
      have flushed := ((flush_leads hr hw p _).of_eq hf).1
      dsimp only
      rw [close_congr (h.later flushed)]
      cases hc : Pipeline.close runner p w₁ with
      | error e w₂ => rfl
      | ok _ w₂ =>
        have closed := ((close_leads hr (flushed.inOrder hw) p).of_eq hc).1
        have taken := flushed.trans closed
        dsimp only
        rw [ih (Changes.inOrder taken hw) (h.later taken)]

theorem shutdown_congr (hr : runner.Keeps P) (hw : w.InOrder P)
    (isOpen : (w.recorders.get r).closed = false)
    (h : Runner.AlikeSince P runner runner' (w.shuttingDown r)) :
    Recorder.shutdown runner' r w = Recorder.shutdown runner r w := by
  have begun : Change P w (w.shuttingDown r) := .shuttingDown r isOpen
  rw [Recorder.shutdown_open _ isOpen, Recorder.shutdown_open _ isOpen,
    closeAll_congr hr (begun.inOrder hw) h]

end

end

/-! ## After the first shutdown -/

/-- The recorder `r`, which is closed in `w`, is stopped in a later world `v`. -/
structure Stopped (r : Ref Recorder) (w v : World) : Prop where
  closed : (v.recorders.get r).closed = true
  sameUse : (w.recorders.get r).SameUse (v.recorders.get r)
  /-- No span of the recorder has started, and none has come to a processor as started. -/
  entries : ∃ events, v.journal = w.journal ++ events ∧ ∀ e ∈ events, e.isOfOpen r = false
  /-- Whoever asks for a tracer gets the idle one; at most a failure is counted. -/
  asking : ∀ request fault, ∃ failures log, Recorder.getTracer r request fault v =
    .ok .idle { v.withRecorder r fun x => { x with failures } with log }
  /-- A span started with a tracer of any scope does not record, and nothing differs after it. -/
  starting : ∀ scope request, Recorder.startSpan r scope request v =
    .ok (none, ⟨request.name, false⟩) v
  /-- Such a span is nothing but its body. -/
  spanning : ∀ runner scope request body fault,
    Tracer.withSpan runner (.recording r scope) request body fault v =
      (do
        let replies ← Tracer.runBody runner (some ⟨request.name, false⟩) body
        if let some e := fault then throw e
        return ⟨false, false, replies⟩ : Act Tracer.SpanAnswer) v

theorem Changes.stopped {P : Step → Prop} {w v : World} {r : Ref Recorder} (hw : Reachable P w)
    (has : w.recorders.Has r) (closed : (w.recorders.get r).closed = true) (h : Changes P w v) :
    Stopped r w v := by
  have closed' := h.extends.closed r has closed
  obtain ⟨events, since⟩ := h.entersSince hw has
  exact
    { closed := closed'
      sameUse := h.sameUse has closed
      entries := ⟨events, since.journal, since.ofOpen closed⟩
      asking := getTracer_closed closed'
      starting := startSpan_closed closed'
      spanning := fun runner scope request body fault => by
        simp only [Tracer.withSpan, run_bind, startSpan_closed closed' scope request]
        cases fault <;> rfl }

/-- From the moment in which its first shutdown begins a recorder is stopped, whatever happens: in
the hooks that the shutdown runs, after it if it is complete and after it if it is interrupted. -/
theorem shutdown_stops {P : Step → Prop} {w : World} (hw : Reachable P w) {r : Ref Recorder}
    (isOpen : (w.recorders.get r).closed = false) (fuel : Nat) :
    (∀ v, Changes P (w.shuttingDown r) v → Stopped r (w.shuttingDown r) v) ∧
      Changes P (w.shuttingDown r) ((Recorder.shutdown (Script.runWithin fuel) r).after w) ∧
      ∀ runner, Runner.AlikeSince P (Script.runWithin fuel) runner (w.shuttingDown r) →
        Recorder.shutdown runner r w = Recorder.shutdown (Script.runWithin fuel) r w := by
  have begun : Change P w (w.shuttingDown r) := .shuttingDown r isOpen
  have reachable := hw.changes begun.changes
  have has := Recorder.has_of_open isOpen
  have keeps := runWithin_keeps P fuel
  refine ⟨?_, shutdown_after keeps hw.inOrder isOpen, ?_⟩
  · intro v hv
    exact hv.stopped reachable (begun.extends.hasRecorder has) (shuttingDown_closed has)
  · intro runner h
    exact shutdown_congr keeps hw.inOrder isOpen h

/-- The flush of the only pipeline is an interruption; before that it asks for one more tracer and
starts a span with one that is kept no longer. -/
def interruptedProgram : List Step :=
  [.newProvider "p" (some [("max_cached_tracers", .int 1)])
    (some [.make "a" (.str "a") (.scripted
      { flushes := [.raises (.foreign ⟨"KeyboardInterrupt", []⟩)]
        onFlush := [[.getTracer "p" none (.identity { name := .str "c" }) none,
          .span "a" (.str "late") (.str "INTERNAL") .null none none]] })]) none none true,
    .getTracer "p" (some "a") (.identity { name := .str "a" }) none,
    .getTracer "p" (some "b") (.identity { name := .str "b" }) none]

def interruptedWorld : World := (Script.run interruptedProgram {}).2

theorem interruptedWorld_reachable : Reachable (fun _ => True) interruptedWorld := by
  rw [interruptedWorld]
  exact Script.run_reachable_any _

theorem interrupted_shutdown_stops :
    (∀ v, Changes (fun _ => True) (interruptedWorld.shuttingDown ⟨0⟩) v →
        Stopped ⟨0⟩ (interruptedWorld.shuttingDown ⟨0⟩) v) ∧
      Changes (fun _ => True) (interruptedWorld.shuttingDown ⟨0⟩)
        ((Recorder.shutdown (Script.runWithin 2) ⟨0⟩).after interruptedWorld) ∧
      ∀ runner, Runner.AlikeSince (fun _ => True) (Script.runWithin 2) runner
          (interruptedWorld.shuttingDown ⟨0⟩) →
        Recorder.shutdown runner ⟨0⟩ interruptedWorld =
          Recorder.shutdown (Script.runWithin 2) ⟨0⟩ interruptedWorld :=
  shutdown_stops interruptedWorld_reachable (by decide +kernel) 2

end Tracing
