import Tracing.Proofs.Dedicated
import Tracing.Proofs.Flush

/-!
# Tracing.Proofs.Exported

What a pipeline has exported once it was flushed.

* `FlushTurn.Taken.exported` — a turn that is reported as a success leaves no span waiting.
* `ConsistsOf`         — a flush or a shutdown of a recorder consists of turns; `recorderFlush_turns`,
  `recorderShutdown_turns` — they do if they give reports.
* `World.ExportsOnly`  — what is exported at any time; `Reachable.exportsOnly`.
* `exported_exactly`   — after each success all spans are exported that ended until then.
-/

namespace Tracing

open Act

/-! ## Successful turns -/

theorem Processor.flushesAlone_of_exporting {x : Processor} (exporting : x.isExporting = true) :
    x.role.flushesAlone = true := by
  cases hr : x.role with
  | simple => rfl
  | batch => rfl
  | _ => simp [isExporting, hr] at exporting

/-- No span waits after a flush that is a success. One that exports in batches and is closed says
that it did not finish. -/
theorem Processor.onForceFlush_drained {x : Processor} {name timeout : Value}
    (exporting : x.isExporting = true) (simple : x.role = .simple → x.waiting = [])
    (success : (Pipeline.report name timeout x.onForceFlush.outcome).failure = none) :
    x.onForceFlush.processor.waiting = [] := by
  cases hr : x.role with
  | simple => simpa [onForceFlush, hr] using simple hr
  | batch =>
    cases hc : x.closed with
    | false => simp [onForceFlush, hr, hc, drain]
    | true =>
      simp [onForceFlush, hr, hc, Pipeline.report, Pipeline.isTimeout, FlushReport.failed] at success
  | _ => simp [isExporting, hr] at exporting

section

variable {P : Step → Prop} {runner : Runner} {w w' : World} {r : Ref Recorder} {p : Ref Pipeline}
  {q : Ref Processor}

theorem FlushTurn.Taken.exported {t : FlushTurn} (taken : t.Taken runner r)
    (hr : runner.Keeps P) (hw : Reachable P t.before) (d : t.after.Dedicated r t.pipeline q)
    (success : t.report.failure = none) :
    (t.after.processors.get q).exported = endedWhileOpen r t.pipeline t.after.journal := by
  have sound := taken.sound hr hw.inOrder
  have before := d.before hw.inOrder sound.changes.extends
  have isOpen : (t.before.pipelines.get t.pipeline).closed = false := by
    cases hc : (t.before.pipelines.get t.pipeline).closed with
    | false => rfl
    | true =>
      have refused := (sound.refused hc).1
      rw [success] at refused
      cases refused
  have known := Pipeline.has_of_open isOpen
  have wraps := before.wraps known
  have exporting := before.exporting (wraps ▸ hw.inOrder.wraps t.pipeline known)
  have alone : (t.before.roleOf t.pipeline).flushesAlone = true := by
    rw [World.roleOf, wraps]
    exact Processor.flushesAlone_of_exporting exporting
  obtain ⟨-, -, get⟩ := flush_alone alone taken
  obtain ⟨-, hreport, -⟩ := flush_ok taken
  have drained : (t.after.processors.get q).waiting = [] := by
    rw [hreport, World.flushReport, isOpen, Pipeline.flushReaction, wraps] at success
    rw [get, World.flushedProcessor, if_pos ⟨isOpen, wraps.symm⟩]
    exact Processor.onForceFlush_drained exporting (hw.holds before).simple success
  have spans := ((hw.changes sound.changes).holds d).spans
  rwa [drained, List.append_nil] at spans

/-! ## Flushes and shutdowns of recorders -/

/-- A flush or a shutdown of the recorder `r` that begins in `w` and ends in `w'` consists of
turns. -/
structure ConsistsOf (P : Step → Prop) (runner : Runner) (r : Ref Recorder) (w : World)
    (turns : List FlushTurn) (w' : World) : Prop where
  /-- The pipelines attached when it began have their turns in their order, unless there is nothing
  to do. -/
  inOrder : turns = [] ∨ turns.map (·.pipeline) = (w.recorders.get r).pipelines
  each : ∀ t ∈ turns, t.Taken runner r ∧ Changes P w t.before ∧ Changes P t.after w'

theorem TakeTurns.taken {pause : Ref Pipeline → World → World → Prop} {turns : List FlushTurn}
    (h : TakeTurns runner r pause w turns w') : ∀ t ∈ turns, t.Taken runner r := by
  induction turns generalizing w with
  | nil => simp
  | cons t rest ih =>
    obtain ⟨-, taken, v, -, follow⟩ := h
    intro t' ht'
    rcases List.mem_cons.mp ht' with rfl | ht'
    · exact taken
    · exact ih follow t' ht'

theorem ConsistsOf.none : ConsistsOf P runner r w [] w' where
  inOrder := .inl rfl
  each := by simp

theorem TakeTurns.consist {pause : Ref Pipeline → World → World → Prop} {turns : List FlushTurn}
    {u v : World} (follow : TakeTurns runner r pause u turns v) (hr : runner.Keeps P)
    (hpause : ∀ p v v', v.InOrder P → pause p v v' → Changes P v v') (hu : u.InOrder P)
    (hps : turns.map (·.pipeline) = (w.recorders.get r).pipelines) (begun : Changes P w u)
    (done : Changes P v w') : ConsistsOf P runner r w turns w' where
  inOrder := .inr hps
  each t ht := by
    obtain ⟨-, before, after⟩ := (follow.between hr hpause hu).2 t ht
    exact ⟨follow.taken t ht, begun.trans before, after.trans done⟩

theorem recorderFlush_turns (hr : runner.Keeps P) (hw : w.InOrder P) {reports : List FlushReport}
    (h : Recorder.flush runner r w = .ok reports w') :
    ∃ turns, reports = turns.map (·.report) ∧ ConsistsOf P runner r w turns w' := by
  cases issued : (w.recorders.get r).issued with
  | false =>
    rw [recorderFlush_unissued runner issued] at h
    obtain ⟨rfl, -⟩ := EStateM.Result.ok.inj h
    exact ⟨[], rfl, .none⟩
  | true =>
    cases hall : Recorder.flushAll runner r (w.recorders.get r).pipelines w with
    | error e v => simp [recorderFlush_error issued hall] at h
    | ok reports' v =>
      obtain ⟨log, hrun⟩ := recorderFlush_ok issued hall
      rw [hrun] at h
      obtain ⟨rfl, rfl⟩ := EStateM.Result.ok.inj h
      obtain ⟨turns, hreports, hps, follow⟩ := flushAll_turns_of_ok hall
      have pausing : ∀ p v v', v.InOrder P → unpaused p v v' → Changes P v v' :=
        fun _ _ _ _ => unpaused_changes
      exact ⟨turns, hreports, follow.consist hr pausing hw hps .refl (Change.logOnly log).changes⟩

theorem recorderShutdown_turns (hr : runner.Keeps P) (hw : w.InOrder P)
    {reports : List FlushReport} (h : Recorder.shutdown runner r w = .ok reports w') :
    ∃ turns, reports = turns.map (·.report) ∧ ConsistsOf P runner r w turns w' := by
  cases closed : (w.recorders.get r).closed with
  | true =>
    rw [Recorder.shutdown_closed closed] at h
    obtain ⟨rfl, -⟩ := EStateM.Result.ok.inj h
    exact ⟨[], rfl, .none⟩
  | false =>
    have begun : Change P w (w.shuttingDown r) := .shuttingDown r closed
    have hu := begun.inOrder hw
    cases hall : Recorder.closeAll runner r (w.recorders.get r).pipelines (w.shuttingDown r) with
    | error e v => simp [Recorder.shutdown_cut closed hall] at h
    | ok reports' v =>
      cases hu' : (v.recorders.get r).options.serviceName.unwritten? with
      | some e => simp [Recorder.shutdown_unsaid closed hall hu'] at h
      | none =>
        obtain ⟨records, hrun⟩ := Recorder.shutdown_done closed hall hu'
        rw [hrun] at h
        obtain ⟨rfl, rfl⟩ := EStateM.Result.ok.inj h
        obtain ⟨turns, hreports, hps, follow⟩ := closeAll_turns_of_ok hall
        have pausing : ∀ p v v', v.InOrder P → closing runner p v v' → Changes P v v' :=
          fun _ _ _ hv => closing_changes hr hv
        obtain ⟨-, done⟩ := closeAll_done hr hw closed hall
        exact ⟨turns, hreports, follow.consist hr pausing hu hps begun.changes
          (done.changes.tail (.logOnly _))⟩

/-! ## What is exported -/

/-- What the processor `q` has exported for the pipeline `p` of the recorder `r`, at any time. -/
structure World.ExportsOnly (r : Ref Recorder) (p : Ref Pipeline) (q : Ref Processor) (w : World) :
    Prop where
  /-- The first ones of the sampled spans that ended while the pipeline was attached and open. -/
  inOrder : (w.processors.get q).exported <+: endedWhileOpen r p w.journal
  sampled : ∀ record ∈ (w.processors.get q).exported, record.span.sampled = true
  /-- They had started before the first shutdown of the recorder began. -/
  early : ∀ before ps after, w.journal = before ++ .shuttingDown r ps :: after →
    ∀ record ∈ (w.processors.get q).exported, .started r record.span ∈ before

theorem Reachable.exportsOnly (hw : Reachable P w) (d : w.Dedicated r p q) :
    w.ExportsOnly r p q := by
  have held : (w.processors.get q).exported <+: endedWhileOpen r p w.journal :=
    (hw.holds d).spans ▸ List.prefix_append _ _
  exact
    { inOrder := held
      sampled := fun record hrecord => (mem_endedWhileOpen (held.subset hrecord)).2
      early := fun before ps after h record hrecord => by
        have ended := (mem_endedWhileOpen (held.subset hrecord)).1
        have started := hw.started_of_ended ended
        rw [h] at started
        rcases List.mem_append.mp started with started | started
        · exact started
        · have opening := hw.begun_split h (.started r record.span) (by simpa using started)
          simp [Event.isOfOpen] at opening }

/-- If a flush or a shutdown of a recorder reports a success of a pipeline with a processor of its
own that exports, this processor has exported right after its flush exactly the sampled spans of the
recorder that ended while the pipeline was attached and open, in the order in which they ended.
Other spans are not exported at any time. -/
theorem exported_exactly (hw : Reachable P w) (dedicated : w.Dedicated r p q) :
    w.ExportsOnly r p q ∧
      ∀ fuel reports w', (Recorder.flush (Script.runWithin fuel) r w = .ok reports w' ∨
          Recorder.shutdown (Script.runWithin fuel) r w = .ok reports w') →
        w'.Dedicated r p q →
        ∃ turns, reports = turns.map (·.report) ∧
          ConsistsOf P (Script.runWithin fuel) r w turns w' ∧
          ∀ t ∈ turns, t.pipeline = p → t.report.ok = true →
            (t.after.processors.get q).exported = endedWhileOpen r p t.after.journal := by
  refine ⟨hw.exportsOnly dedicated, ?_⟩
  intro fuel reports w' run dedicated'
  have keeps := runWithin_keeps P fuel
  have consists : ∃ turns, reports = turns.map (·.report) ∧
      ConsistsOf P (Script.runWithin fuel) r w turns w' := by
    rcases run with run | run
    · exact recorderFlush_turns keeps hw.inOrder run
    · exact recorderShutdown_turns keeps hw.inOrder run
  obtain ⟨turns, hreports, consists⟩ := consists
  refine ⟨turns, hreports, consists, ?_⟩
  rintro t ht rfl success
  obtain ⟨taken, before, after⟩ := consists.each t ht
  have hbefore := hw.changes before
  have changes := (taken.sound keeps hbefore.inOrder).changes
  have hafter := hbefore.changes changes
  exact taken.exported keeps hbefore (dedicated'.before hafter.inOrder after.extends)
    (Option.isNone_iff_eq_none.mp success)

end

/-! ## Spans that end before and in a flush -/

/-- Two spans have ended, of which only the first one is sampled. A third one ends in a hook that the
flush runs before it comes to the batches. -/
def exportingProgram : List Step :=
  [.newProvider "p" none
    (some [
      .make "a" (.str "a") (.scripted
        { onFlush := [[.span "t" (.str "third") (.str "INTERNAL") .null none none]] }),
      .make "b" (.str "b") .batch])
    (some { sampler := .scripted [.sample, .record, .sample] none "" }) none true,
    .getTracer "p" (some "t") (.identity { name := .str "lib" }) none,
    .span "t" (.str "first") (.str "INTERNAL") .null none none,
    .span "t" (.str "second") (.str "INTERNAL") .null none none]

def exportingWorld : World := (Script.run exportingProgram {}).2

theorem exportingWorld_reachable : Reachable (fun _ => True) exportingWorld := by
  rw [exportingWorld]
  exact Script.run_reachable_any _

theorem exportingWorld_flushed :
    ∃ reports w', Recorder.flush (Script.runWithin 2) ⟨0⟩ exportingWorld = .ok reports w' ∧
      w'.Dedicated ⟨0⟩ ⟨1⟩ ⟨1⟩ := by
  have quiet : (Recorder.flush (Script.runWithin 2) ⟨0⟩).failure? exportingWorld = none := by
    decide +kernel
  have dedicated : ((Recorder.flush (Script.runWithin 2) ⟨0⟩).after exportingWorld).Dedicated
      ⟨0⟩ ⟨1⟩ ⟨1⟩ := by
    decide +kernel
  obtain ⟨reports, hrun⟩ := ok_of_failure? quiet
  exact ⟨reports, _, hrun, dedicated⟩

theorem flushed_spans_exported :
    exportingWorld.ExportsOnly ⟨0⟩ ⟨1⟩ ⟨1⟩ ∧
      ∃ reports w' turns,
        Recorder.flush (Script.runWithin 2) ⟨0⟩ exportingWorld = .ok reports w' ∧
        reports = turns.map (·.report) ∧
        ConsistsOf (fun _ => True) (Script.runWithin 2) ⟨0⟩ exportingWorld turns w' ∧
        ∀ t ∈ turns, t.pipeline = ⟨1⟩ → t.report.ok = true →
          (t.after.processors.get ⟨1⟩).exported = endedWhileOpen ⟨0⟩ ⟨1⟩ t.after.journal := by
  obtain ⟨exports, flushes⟩ := exported_exactly (r := ⟨0⟩) (p := ⟨1⟩) (q := ⟨1⟩)
    exportingWorld_reachable (by decide +kernel)
  obtain ⟨reports, w', run, dedicated⟩ := exportingWorld_flushed
  obtain ⟨turns, hreports, consists, exported⟩ := flushes 2 reports w' (.inl run) dedicated
  exact ⟨exports, reports, w', turns, run, hreports, consists, exported⟩

end Tracing
