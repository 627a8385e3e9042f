import Tracing.Proofs.LatePipelines

/-!
# Tracing.Proofs.ClosedOnce

The calls that a processor receives through one pipeline, whoever flushes and closes the pipeline.

* `World.callsThrough`  — the calls through a pipeline, in the order in which they began.
* `Change.callsThrough` — a change adds at most one of them, and only while the pipeline is open.
* `Reachable.callsThrough` — flushes, and after them at most one shutdown, by induction on the
  changes.
* `pipeline_closes_once` — the pipeline is closed once and not flushed after that. It fails its caller
  by an interruption of its processor, or for want of a text.
-/

namespace Tracing

open Act

/-! ## Calls through a pipeline -/

def Event.callThrough (p : Ref Pipeline) : Event → Option Call
  | .called _ (some t) call => if t = p then some call else none
  | _ => none

/-- The calls that the processor of a pipeline received through it. -/
def World.callsThrough (w : World) (p : Ref Pipeline) : List Call :=
  w.journal.filterMap (Event.callThrough p)

section

variable {P : Step → Prop} {w w' v : World} {p : Ref Pipeline}

theorem callsThrough_of_others {events : List Event} (hj : w'.journal = w.journal ++ events)
    (h : ∀ e ∈ events, e.callThrough p = none) : w'.callsThrough p = w.callsThrough p := by
  rw [World.callsThrough, hj, List.filterMap_append, List.filterMap_eq_nil_iff.mpr h,
    List.append_nil, World.callsThrough]

theorem callsThrough_entry {e : Event} (hj : w'.journal = w.journal ++ [e]) :
    w'.callsThrough p = w.callsThrough p ++ (e.callThrough p).toList := by
  cases hc : e.callThrough p <;> simp [World.callsThrough, hj, hc]

theorem Event.callThrough_of_isRoutine {e : Event} (h : e.isRoutine = true) :
    e.callThrough p = none := by
  cases e with
  | called q via call => cases via <;> first | rfl | simp [isRoutine] at h
  | _ => rfl

theorem World.SameStanding.callsThrough (h : w.SameStanding w') :
    w'.callsThrough p = w.callsThrough p := by
  obtain ⟨events, hj, hr⟩ := h.entries
  exact callsThrough_of_others hj fun e he => Event.callThrough_of_isRoutine (hr e he)

theorem mem_callsThrough {call : Call} :
    call ∈ w.callsThrough p ↔ ∃ q, .called q (some p) call ∈ w.journal := by
  rw [World.callsThrough, List.mem_filterMap]
  constructor
  · rintro ⟨e, he, hcall⟩
    unfold Event.callThrough at hcall
    split at hcall
    next q t c =>
      simp only [Option.ite_none_right_eq_some, Option.some.injEq] at hcall
      obtain ⟨rfl, rfl⟩ := hcall
      exact ⟨q, he⟩
    · cases hcall
  · rintro ⟨q, hq⟩
    exact ⟨_, hq, by simp [Event.callThrough]⟩

/-- What a change may add to the calls through a pipeline, which must be open for it. -/
inductive World.CallsOn (p : Ref Pipeline) (w w' : World) : Prop where
  | nothing (same : w'.callsThrough p = w.callsThrough p)
  | flush (timeout : Value) (isOpen : (w.pipelines.get p).closed = false)
      (added : w'.callsThrough p = w.callsThrough p ++ [.forceFlush timeout])
  | shutdown (isOpen : (w.pipelines.get p).closed = false)
      (added : w'.callsThrough p = w.callsThrough p ++ [.shutdown])

theorem Change.callsThrough (h : Change P w w') : w.CallsOn p w' := by
  have silent : w'.journal = w.journal → w.CallsOn p w' := fun hj =>
    .nothing (callsThrough_of_others (hj.trans (List.append_nil _).symm) (by simp))
  have single : ∀ e : Event, w'.journal = w.journal ++ [e] → e.callThrough p = none →
      w.CallsOn p w' := fun e hj he => .nothing (callsThrough_of_others hj (by simpa using he))
  cases h with
  | aside => exact silent rfl
  | name => exact silent rfl
  | addProcessor => exact silent rfl
  | addPipeline => exact silent rfl
  | addRecorder => exact silent rfl
  | attach => exact single _ rfl rfl
  | addHook => exact silent rfl
  | takeHook => exact silent rfl
  | ask _ _ r request fault => exact .nothing (ask_after r request fault).callsThrough
  | assign => exact silent rfl
  | startSpan r scope request =>
    exact .nothing (startSpan_after r scope request).toSameStanding.callsThrough
  | endSpan r span failed =>
    exact .nothing (endSpan_after r span failed).toSameStanding.callsThrough
  | flush t timeout isOpen =>
    have added : (Pipeline.flushBegun w t timeout).callsThrough p = w.callsThrough p ++ _ :=
      callsThrough_entry rfl
    by_cases ht : t = p
    · subst ht
      exact .flush timeout isOpen (by simpa [Event.callThrough] using added)
    · exact .nothing (by simpa [Event.callThrough, ht] using added)
  | close t isOpen =>
    have added : (Pipeline.closeBegun w t).callsThrough p = w.callsThrough p ++ _ :=
      callsThrough_entry rfl
    by_cases ht : t = p
    · subst ht
      exact .shutdown isOpen (by simpa [Event.callThrough] using added)
    · exact .nothing (by simpa [Event.callThrough, ht] using added)
  | stop => exact single _ rfl rfl
  | answer => exact single _ rfl rfl
  | shuttingDown => exact single _ rfl rfl
  | shutDown => exact single _ rfl rfl
  | install => exact single _ rfl rfl

/-! ## Runs -/

/-- The processor was flushed through the pipeline, and not shut down. -/
def World.FlushedOnly (w : World) (p : Ref Pipeline) : Prop :=
  ∃ timeouts : List Value, w.callsThrough p = timeouts.map .forceFlush

/-- The processor was shut down through the pipeline once, and flushed before that only. -/
def World.ShutOnce (w : World) (p : Ref Pipeline) : Prop :=
  ∃ timeouts : List Value, w.callsThrough p = timeouts.map .forceFlush ++ [.shutdown]

theorem World.ShutOnce.shutThrough (h : w.ShutOnce p) : w.ShutThrough p := by
  obtain ⟨timeouts, hc⟩ := h
  exact mem_callsThrough.mp (by simp [hc])

theorem Reachable.callsThrough (hw : Reachable P w) (p : Ref Pipeline) :
    w.FlushedOnly p ∨ w.ShutOnce p := by
  refine hw.invariant (I := fun w => w.FlushedOnly p ∨ w.ShutOnce p)
    (fun _ => .inl ⟨[], rfl⟩) ?_
  intro v v' hv change ih
  -- Through an open pipeline there was no shutdown yet.
  have flushed : (v.pipelines.get p).closed = false → v.FlushedOnly p := by
    intro isOpen
    refine ih.resolve_right fun once => ?_
    have closed := ((hv.closedByCalls p).mp once.shutThrough).2
    rw [isOpen] at closed
    cases closed
  cases change.callsThrough (p := p) with
  | nothing same =>
    rw [World.FlushedOnly, World.ShutOnce, same]
    exact ih
  | flush timeout isOpen added =>
    obtain ⟨timeouts, hc⟩ := flushed isOpen
    exact .inl ⟨timeouts ++ [timeout], by simp [added, hc]⟩
  | shutdown isOpen added =>
    obtain ⟨timeouts, hc⟩ := flushed isOpen
    exact .inr ⟨timeouts, by rw [added, hc]⟩

theorem Reachable.flushedOnly (hw : Reachable P w) (isOpen : (w.pipelines.get p).closed = false) :
    w.FlushedOnly p := by
  refine (hw.callsThrough p).resolve_right fun once => ?_
  have closed := ((hw.closedByCalls p).mp once.shutThrough).2
  rw [isOpen] at closed
  cases closed

theorem Reachable.shutOnce (hw : Reachable P w) (has : w.pipelines.Has p)
    (closed : (w.pipelines.get p).closed = true) : w.ShutOnce p := by
  refine (hw.callsThrough p).resolve_left ?_
  rintro ⟨timeouts, hc⟩
  obtain ⟨q, hq⟩ := (hw.closedByCalls p).mpr ⟨has, closed⟩
  have shutdown := mem_callsThrough.mpr ⟨q, hq⟩
  simp [hc] at shutdown

/-- Once a pipeline is closed, nothing more is called through it. -/
theorem Changes.callsThrough_closed (h : Changes P w v) (has : w.pipelines.Has p)
    (closed : (w.pipelines.get p).closed = true) : v.callsThrough p = w.callsThrough p := by
  induction h with
  | refl => rfl
  | @tail v v' h change ih =>
    have still : (v.pipelines.get p).closed = true := (Changes.extends h).shut p has closed
    cases change.callsThrough (p := p) with
    | nothing same => exact same.trans ih
    | flush timeout isOpen =>
      rw [still] at isOpen
      cases isOpen
    | shutdown isOpen =>
      rw [still] at isOpen
      cases isOpen

/-! ## Flushes and shutdowns of pipelines -/

theorem close_ended (runner : Runner) (isOpen : (w.pipelines.get p).closed = false) :
    ∃ log, (Pipeline.close runner p).after w = { Pipeline.closeEnded runner w p with log } := by
  cases he : Pipeline.closeEscape? (w.pipelines.get p).name (Pipeline.closeReaction w p).outcome with
  | some e => exact ⟨_, after_of_error (Pipeline.close_cut isOpen he)⟩
  | none =>
    obtain ⟨log, hrun⟩ := Pipeline.close_open runner isOpen he
    exact ⟨log, after_of_ok hrun⟩

/-- What a shutdown of an open pipeline leaves is what the call of its processor leaves, but for the
log. That call is made once the pipeline counts as closed. -/
theorem close_after (runner : Runner) (isOpen : (w.pipelines.get p).closed = false) :
    ∃ log, (Pipeline.close runner p).after w =
      { (Delivery.shutdown runner (w.pipelines.get p).processor (some p)).after (w.shut p) with
        log } := by
  have call : (Delivery.shutdown runner (w.pipelines.get p).processor (some p)).after (w.shut p) =
      Pipeline.closeEnded runner w p := by
    have hrun := Pipeline.shutdown_run runner w p
    cases ho : (Pipeline.closeReaction w p).outcome with
    | ok v =>
      rw [ho] at hrun
      exact after_of_ok hrun
    | error e =>
      rw [ho] at hrun
      exact after_of_error hrun
  rw [call]
  exact close_ended runner isOpen

theorem close_after_closed {runner : Runner} (hr : runner.Keeps P) (hw : w.InOrder P)
    (p : Ref Pipeline) : (((Pipeline.close runner p).after w).pipelines.get p).closed = true := by
  cases hc : (w.pipelines.get p).closed with
  | true => rw [after_of_ok (Pipeline.close_closed hc), hc]
  | false =>
    obtain ⟨log, hafter⟩ := close_ended runner hc
    rw [hafter]
    exact closeEnded_closed hr hw hc

end

/-- What has been called through the pipeline `p` in `w`, and what flushes and shutdowns of it do. -/
structure ClosesOnce (P : Step → Prop) (p : Ref Pipeline) (w : World) : Prop where
  flushedOnly : (w.pipelines.get p).closed = false → w.FlushedOnly p
  shutOnce : (w.pipelines.get p).closed = true → w.ShutOnce p
  /-- It never opens again, and nothing more is called through it. -/
  final : (w.pipelines.get p).closed = true → ∀ v, Changes P w v →
    (v.pipelines.get p).closed = true ∧ v.callsThrough p = w.callsThrough p
  refusing : (w.pipelines.get p).closed = true → (w.pipelines.get p).name.unwritten? = none →
    ∀ runner timeout, Pipeline.flush runner p timeout w = .ok (w.refusal p) w
  /-- The refusal names the pipeline, and cannot be given if the name has no text. -/
  unnamed : (w.pipelines.get p).closed = true → ∀ e, (w.pipelines.get p).name.unwritten? = some e →
    ∀ runner timeout, Pipeline.flush runner p timeout w = .error e w
  idle : (w.pipelines.get p).closed = true → ∀ runner, Pipeline.close runner p w = .ok () w
  /-- The shutdown of an open pipeline calls the processor, and finds the pipeline closed then. -/
  calling : (w.pipelines.get p).closed = false → ((w.shut p).pipelines.get p).closed = true ∧
    ∀ runner, ∃ log, (Pipeline.close runner p).after w =
      { (Delivery.shutdown runner (w.pipelines.get p).processor (some p)).after (w.shut p) with
        log }
  /-- The pipeline is closed from the beginning of that call on, in the hook of the call as well. -/
  during : (w.pipelines.get p).closed = false → ∀ v, Changes P (Pipeline.closeBegun w p) v →
    (v.pipelines.get p).closed = true ∧ v.ShutOnce p
  /-- It is closed after every shutdown of it, be that interrupted. -/
  afterwards : ∀ fuel v, Changes P ((Pipeline.close (Script.runWithin fuel) p).after w) v →
    (v.pipelines.get p).closed = true ∧ v.ShutOnce p
  /-- What a flush fails with is what escapes from it. -/
  flushFails : ∀ runner timeout e w', Pipeline.flush runner p timeout w = .error e w' ↔
    w.flushEscape? p timeout = some e ∧ w' = w.flushOver runner p timeout
  closeFails : ∀ runner e w', Pipeline.close runner p w = .error e w' ↔
    w.closeEscape? p = some e ∧ w' = w.closeOver runner p
  /-- Where the processor does not interrupt, only a text that is missing escapes. -/
  calm : (w.roleOf p).isCalm = true →
    (∀ timeout e, w.flushEscape? p timeout = some e → e.isInterruption = false) ∧
      ∀ e, w.closeEscape? p = some e → e.isInterruption = false

/-- Whoever flushes and closes a pipeline, its processor is shut down through it at most once, and
exactly once if the pipeline was ever asked to shut down; it is not flushed through it after that. -/
theorem pipeline_closes_once {P : Step → Prop} {w : World} (hw : Reachable P w)
    {p : Ref Pipeline} (has : w.pipelines.Has p) : ClosesOnce P p w := by
  have kept : ∀ {u v}, Changes P w u → (u.pipelines.get p).closed = true → Changes P u v →
      (v.pipelines.get p).closed = true ∧ v.ShutOnce p := by
    intro u v hu closed hv
    have there := hu.extends.hasPipeline has
    have still := hv.extends.shut p there closed
    exact ⟨still, (hw.changes (hu.trans hv)).shutOnce (hv.extends.hasPipeline there) still⟩
  exact
    { flushedOnly := hw.flushedOnly
      shutOnce := hw.shutOnce has
      final := fun closed v hv =>
        ⟨hv.extends.shut p has closed, hv.callsThrough_closed has closed⟩
      refusing := fun closed named runner timeout => Pipeline.flush_closed closed named
      unnamed := fun closed e unnamed runner timeout => Pipeline.flush_unnamed closed unnamed
      idle := fun closed runner => Pipeline.close_closed closed
      calling := fun isOpen =>
        ⟨congrArg Pipeline.closed (w.pipelines.get_modify_self _ has), fun runner =>
          close_after runner isOpen⟩
      during := fun isOpen v hv =>
        kept (Change.close p isOpen).changes (Pipeline.closeBegun_closed isOpen) hv
      afterwards := fun fuel v hv => by
        have keeps := runWithin_keeps P fuel
        exact kept (close_leads keeps hw.inOrder p).after
          (close_after_closed keeps hw.inOrder p) hv
      flushFails := fun runner timeout e w' => flush_error_iff
      closeFails := fun runner e w' => close_error_iff
      calm := fun calm => ⟨fun timeout e => flushEscape?_calm calm, fun e => closeEscape?_calm calm⟩ }

/-- Two recorders share a pipeline whose processor flushes and closes it, and shuts both recorders
down, from inside its own calls. The first shutdown of one of them is interrupted. -/
def sharedProgram : List Step :=
  [.newProvider "p" none
    (some [.make "a" (.str "a") (.scripted
      { shutdowns := [.raises (.foreign ⟨"KeyboardInterrupt", []⟩)]
        onFlush := [[.flushPipeline "a" (.int 1), .shutdown "q", .shutdownPipeline "a"]]
        onShutdown := [[.flushPipeline "a" (.int 2), .shutdownPipeline "a", .shutdown "p"]] })])
    none none true,
    .newProvider "q" none (some [.known "a"]) none none true,
    .shutdown "p",
    .shutdown "q"]

def sharedWorld : World := (Script.run sharedProgram {}).2

theorem sharedWorld_reachable : Reachable (fun _ => True) sharedWorld := by
  rw [sharedWorld]
  exact Script.run_reachable_any _

theorem shared_pipeline_closes_once : ClosesOnce (fun _ => True) ⟨0⟩ sharedWorld :=
  pipeline_closes_once sharedWorld_reachable
    (show 0 < sharedWorld.pipelines.size by decide +kernel)

example : (sharedWorld.callsThrough ⟨0⟩).length = 4 := by decide +kernel

/-- An error without a text escapes from the flush of an open pipeline, though the processor does not
interrupt. -/
theorem unwritable_flush_escapes :
    Reachable (fun _ => True) unwritableWorld ∧ (unwritableWorld.roleOf ⟨0⟩).isCalm = true ∧
      (unwritableWorld.pipelines.get ⟨0⟩).closed = false ∧
      ∃ e w', Pipeline.flush (Script.runWithin 1) ⟨0⟩ (.int 30000) unwritableWorld = .error e w' := by
  have escapes : (unwritableWorld.flushEscape? ⟨0⟩ (.int 30000)).isSome = true := by
    decide +kernel
  obtain ⟨e, he⟩ := Option.isSome_iff_exists.mp escapes
  exact ⟨unwritable_reachable, by decide +kernel, by decide +kernel, e, _,
    flush_error_iff.mpr ⟨he, rfl⟩⟩

end Tracing
