import Tracing.Proofs.Shutdown

/-!
# Tracing.Proofs.LatePipelines

Pipelines that are attached to a recorder once its first shutdown has begun. That shutdown goes
through the pipelines that were there at its beginning and leaves the later ones open.

* `attachedIn`       — the pipelines that the entries of a journal attach to a recorder.
* `World.Recounts`   — the journal tells which pipelines a recorder has, and which of them its first
  shutdown went through. `Change.recounts` — every change keeps that so.
* `closed_iff_late_closed` — after a shutdown all pipelines are closed if those attached late are.
-/

namespace Tracing

open Act

def Event.pipelineAttached (r : Ref Recorder) : Event → Option (Ref Pipeline)
  | .attached source p => if source = r then some p else none
  | _ => none

/-- The pipelines that the entries of a journal attach to a recorder, in order. -/
def attachedIn (r : Ref Recorder) (events : List Event) : List (Ref Pipeline) :=
  events.filterMap (Event.pipelineAttached r)

theorem attachedIn_append (r : Ref Recorder) (a b : List Event) :
    attachedIn r (a ++ b) = attachedIn r a ++ attachedIn r b :=
  List.filterMap_append

theorem attachedIn_cons (r : Ref Recorder) (e : Event) (events : List Event) :
    attachedIn r (e :: events) = (e.pipelineAttached r).toList ++ attachedIn r events := by
  cases h : e.pipelineAttached r <;> simp [attachedIn, h]

theorem attachedIn_cons_shuttingDown (r t : Ref Recorder) (ps : List (Ref Pipeline))
    (events : List Event) :
    attachedIn r (.shuttingDown t ps :: events) = attachedIn r events := rfl

/-- Events that neither attach a pipeline nor belong to the shutdown of a recorder. -/
def Event.isNeutral : Event → Bool
  | .attached _ _ => false
  | .shuttingDown _ _ => false
  | .shutDown _ => false
  | _ => true

theorem Event.isNeutral_of_isRoutine {e : Event} (h : e.isRoutine = true) :
    e.isNeutral = true := by
  cases e <;> first | rfl | cases h

theorem attachedIn_neutral (r : Ref Recorder) {events : List Event}
    (h : ∀ e ∈ events, e.isNeutral = true) : attachedIn r events = [] := by
  rw [attachedIn, List.filterMap_eq_nil_iff]
  intro e he
  have hn := h e he
  cases e <;> first | rfl | cases hn

namespace World

/-- What the journal tells of the pipelines of recorders and of their first shutdowns. -/
structure Recounts (w : World) : Prop where
  pipelines : ∀ r, (w.recorders.get r).pipelines = attachedIn r w.journal
  begun : ∀ r ps, .shuttingDown r ps ∈ w.journal →
    ∃ before after, w.journal = before ++ .shuttingDown r ps :: after ∧ ps = attachedIn r before
  complete : ∀ r, .shutDown r ∈ w.journal →
    ∃ ps, .shuttingDown r ps ∈ w.journal ∧ ∀ p ∈ ps, (w.pipelines.get p).closed = true

end World

section

variable {P : Step → Prop} {w w' : World}

theorem World.Recounts.hasPipeline (h : w.Recounts) (hw : w.InOrder P) {r : Ref Recorder}
    {ps : List (Ref Pipeline)} (hb : .shuttingDown r ps ∈ w.journal) :
    ∀ p ∈ ps, w.pipelines.Has p := by
  obtain ⟨before, after, hj, rfl⟩ := h.begun r ps hb
  intro p hp
  apply hw.owns r
  rw [h.pipelines r, hj, attachedIn_append]
  exact List.mem_append_left _ hp

theorem World.Recounts.of_events (h : w.Recounts) (hw : w.InOrder P) (he : w.Extends w')
    (events : List Event) (hj : w'.journal = w.journal ++ events)
    (hp : ∀ r, (w'.recorders.get r).pipelines =
      (w.recorders.get r).pipelines ++ attachedIn r events)
    (hb : ∀ r ps, .shuttingDown r ps ∈ events →
      events = [.shuttingDown r ps] ∧ ps = attachedIn r w.journal)
    (hc : ∀ r, .shutDown r ∈ events →
      ∃ ps, .shuttingDown r ps ∈ w.journal ∧ ∀ p ∈ ps, (w.pipelines.get p).closed = true) :
    w'.Recounts where
  pipelines r := by rw [hp, h.pipelines, hj, attachedIn_append]
  begun r ps hmem := by
    rw [hj] at hmem ⊢
    rcases List.mem_append.mp hmem with hmem | hmem
    · obtain ⟨before, after, hj', hps⟩ := h.begun r ps hmem
      exact ⟨before, after ++ events, by rw [hj']; simp, hps⟩
    · obtain ⟨rfl, hps⟩ := hb r ps hmem
      exact ⟨w.journal, [], rfl, hps⟩
  complete r hmem := by
    have kept : (∃ ps, .shuttingDown r ps ∈ w.journal ∧
        ∀ p ∈ ps, (w.pipelines.get p).closed = true) := by
      rw [hj] at hmem
      rcases List.mem_append.mp hmem with hmem | hmem
      · exact h.complete r hmem
      · exact hc r hmem
    obtain ⟨ps, hps, hclosed⟩ := kept
    exact ⟨ps, he.journal.subset hps, fun p hp' =>
      he.shut p (h.hasPipeline hw hps p hp') (hclosed p hp')⟩

theorem World.Recounts.of_neutral (h : w.Recounts) (hw : w.InOrder P) (he : w.Extends w')
    (events : List Event) (hj : w'.journal = w.journal ++ events)
    (hn : ∀ e ∈ events, e.isNeutral = true)
    (hp : ∀ r, (w'.recorders.get r).pipelines = (w.recorders.get r).pipelines) : w'.Recounts := by
  refine h.of_events hw he events hj ?_ ?_ ?_
  · intro r
    rw [hp, attachedIn_neutral r hn, List.append_nil]
  · intro r ps hmem
    cases hn _ hmem
  · intro r hmem
    cases hn _ hmem

theorem Change.recounts (hc : Change P w w') (hw : w.InOrder P) (h : w.Recounts) :
    w'.Recounts := by
  have he := hc.extends
  have silent : w'.journal = w.journal →
      (∀ r, (w'.recorders.get r).pipelines = (w.recorders.get r).pipelines) → w'.Recounts :=
    fun hj => h.of_neutral hw he [] (by simpa using hj) (by simp)
  have single : ∀ e : Event, w'.journal = w.journal ++ [e] → e.isNeutral = true →
      (∀ r, (w'.recorders.get r).pipelines = (w.recorders.get r).pipelines) → w'.Recounts :=
    fun e hj hn => h.of_neutral hw he [e] hj (by simpa using hn)
  have standing : w.SameStanding w' → w'.Recounts := by
    intro hs
    obtain ⟨events, hj, hr⟩ := hs.entries
    exact h.of_neutral hw he events hj (fun e he => Event.isNeutral_of_isRoutine (hr e he)) hs.owned
  cases hc with
  | aside => exact silent rfl fun _ => rfl
  | name => exact silent rfl fun _ => rfl
  | addProcessor => exact silent rfl fun _ => rfl
  | addPipeline => exact silent rfl fun _ => rfl
  | addRecorder className options sampler asked resource =>
    refine silent rfl ?_
    intro r
    by_cases hr : r = w.recorders.next
    · -- Nothing can be attached to a recorder that is not there yet.
      subst hr
      have hn : ¬ w.recorders.Has w.recorders.next := Nat.lt_irrefl _
      rw [w.recorders.get_add_self, Store.get_of_not_has hn]
      rfl
    · rw [w.recorders.get_add_of_ne _ hr]
  | attach r p has known =>
    refine h.of_events hw he [.attached r p] rfl ?_ (by simp) (by simp)
    intro t
    by_cases ht : t = r
    · subst ht
      have hget : (w.attachedTo t p).recorders.get t = _ := w.recorders.get_modify_self _ has
      rw [hget]
      simp [Recorder.attaching, attachedIn, Event.pipelineAttached]
    · have hget : (w.attachedTo r p).recorders.get t = _ := w.recorders.get_modify_ne _ ht
      have hne : r ≠ t := fun h => ht h.symm
      rw [hget]
      simp [attachedIn, Event.pipelineAttached, hne]
  | addHook => exact silent rfl fun _ => rfl
  | takeHook => exact silent rfl fun _ => rfl
  | ask _ _ r request fault => exact standing (ask_after r request fault)
  | assign _ field v _ r => exact standing (assign_standing r field v)
  | startSpan r scope request => exact standing (startSpan_after r scope request).toSameStanding
  | endSpan r span failed => exact standing (endSpan_after r span failed).toSameStanding
  | flush p timeout => exact single _ rfl rfl fun _ => rfl
  | close p => exact single _ rfl rfl fun _ => rfl
  | stop q => exact single _ rfl rfl fun _ => rfl
  | answer => exact single _ rfl rfl fun _ => rfl
  | shuttingDown r isOpen =>
    have hs := shuttingDown_shape (w := w) r
    refine h.of_events hw he [.shuttingDown r (w.recorders.get r).pipelines] rfl ?_ ?_ (by simp)
    · intro t
      rw [hs.owned t]
      exact (List.append_nil _).symm
    · intro t ps hmem
      obtain ⟨⟩ := List.mem_singleton.mp hmem
      exact ⟨rfl, h.pipelines r⟩
  | shutDown r ps begun closed =>
    refine h.of_events hw he [.shutDown r] rfl (fun _ => (List.append_nil _).symm) (by simp) ?_
    intro t hmem
    obtain ⟨⟩ := List.mem_singleton.mp hmem
    exact ⟨ps, begun, closed⟩
  | install p => exact single _ rfl rfl fun _ => rfl

theorem Reachable.recounts (h : Reachable P w) : w.Recounts := by
  refine h.invariant (fun _ => ?_) fun hv change => change.recounts hv.inOrder
  exact
    { pipelines := fun r => rfl
      begun := nofun
      complete := nofun }

/-! ## Flushes after a shutdown -/

/-- What escapes when closed pipelines are reported: the first of their names that has no text. -/
def World.unnamed? (w : World) (ps : List (Ref Pipeline)) : Option Failure :=
  ps.findSome? fun p => (w.pipelines.get p).name.unwritten?

theorem flushAll_closed (runner : Runner) (r : Ref Recorder) {ps : List (Ref Pipeline)}
    (h : ∀ p ∈ ps, (w.pipelines.get p).closed = true) :
    Recorder.flushAll runner r ps w =
      match w.unnamed? ps with
      | none => .ok (ps.map w.refusal) w
      | some e => .error e w := by
  induction ps with
  | nil => rfl
  | cons p rest ih =>
    have closed := h p List.mem_cons_self
    have hrest := ih fun q hq => h q (List.mem_cons_of_mem p hq)
    simp only [Recorder.flushAll, run_bind, run_get, World.unnamed?, List.findSome?_cons]
    cases hu : (w.pipelines.get p).name.unwritten? with
    | some e => simp only [Pipeline.flush_unnamed closed hu]
    | none =>
      simp only [Pipeline.flush_closed closed hu, hrest]
      rw [World.unnamed?]
      cases rest.findSome? fun p => (w.pipelines.get p).name.unwritten? with
      | none => rfl
      | some e => rfl

/-- The first call that a flush makes goes to an open pipeline, if it comes to one. The report of a
closed one before that may fail. -/
theorem flushAll_calls {runner : Runner} (hr : runner.Keeps P) (hw : w.InOrder P)
    (r : Ref Recorder) {ps : List (Ref Pipeline)}
    (h : ∃ p ∈ ps, (w.pipelines.get p).closed = false) :
    (∃ p ∈ ps, (w.pipelines.get p).closed = false ∧
      w.journal ++ [.called (w.pipelines.get p).processor (some p) (.forceFlush (w.timeoutOf r))] <+:
        ((Recorder.flushAll runner r ps).after w).journal) ∨
      ∃ p ∈ ps, (w.pipelines.get p).closed = true ∧
        ∃ e, (w.pipelines.get p).name.unwritten? = some e ∧
          Recorder.flushAll runner r ps w = .error e w := by
  induction ps with
  | nil => simp at h
  | cons p rest ih =>
    simp only [Recorder.flushAll]
    cases hc : (w.pipelines.get p).closed with
    | true =>
      cases hu : (w.pipelines.get p).name.unwritten? with
      | some e =>
        refine .inr ⟨p, List.mem_cons_self, hc, e, hu, ?_⟩
        simp only [run_bind, run_get, Pipeline.flush_unnamed hc hu]
      | none =>
        have hrest : ∃ q ∈ rest, (w.pipelines.get q).closed = false := by
          obtain ⟨q, hq, hopen⟩ := h
          rcases List.mem_cons.mp hq with rfl | hq
          · rw [hc] at hopen
            cases hopen
          · exact ⟨q, hq, hopen⟩
        rw [after_bind_ok (run_get w), after_bind_ok (Pipeline.flush_closed hc hu), after_bind_pure]
        rcases ih hrest with ⟨q, hq, hopen, hj⟩ | ⟨q, hq, closed, e, unnamed, hrun⟩
        · exact .inl ⟨q, List.mem_cons_of_mem p hq, hopen, hj⟩
        · refine .inr ⟨q, List.mem_cons_of_mem p hq, closed, e, unnamed, ?_⟩
          simp only [run_bind, run_get, Pipeline.flush_closed hc hu, hrun]
    | false =>
      refine .inl ⟨p, List.mem_cons_self, hc, ?_⟩
      have hooked := (flushHooked_changes hr hw (w.timeoutOf r) hc).extends.journal
      have ended : w.flushOver runner p (w.timeoutOf r) =
          Pipeline.flushEnded runner w p (w.timeoutOf r) := by
        simp [World.flushOver, hc]
      rw [after_bind_ok (run_get w)]
      cases hf : Pipeline.flush runner p (w.recorders.get r).options.flushTimeout w with
      | error e w₁ =>
        obtain ⟨-, rfl⟩ := flush_error_iff.mp hf
        rw [after_bind_error hf]
        exact ended ▸ hooked
      | ok report w₁ =>
        have flushed := ((flush_leads hr hw p _).of_eq hf).1
        obtain ⟨-, -, log, rfl⟩ := flush_ok hf
        rw [← ended] at hooked
        rw [after_bind_ok hf, after_bind_pure]
        exact hooked.trans (flushAll_leads hr (flushed.inOrder hw) r rest).after.extends.journal

/-- A flush that gives reports has come to the text of every name in them. -/
theorem flushAll_written {runner : Runner} {r : Ref Recorder} {ps : List (Ref Pipeline)}
    {reports : List FlushReport} (h : Recorder.flushAll runner r ps w = .ok reports w') :
    ∀ report ∈ reports, report.pipeline.unwritten? = none := by
  induction ps generalizing w reports with
  | nil =>
    obtain ⟨rfl, -⟩ := EStateM.Result.ok.inj h
    simp
  | cons p rest ih =>
    simp only [Recorder.flushAll, run_bind, run_get] at h
    cases hf : Pipeline.flush runner p (w.recorders.get r).options.flushTimeout w with
    | error e v => simp [hf] at h
    | ok report v =>
      simp only [hf] at h
      cases hrest : Recorder.flushAll runner r rest v with
      | error e u => simp [hrest] at h
      | ok others u =>
        simp only [hrest, run_pure] at h
        obtain ⟨rfl, rfl⟩ := EStateM.Result.ok.inj h
        intro report' hmem
        rcases List.mem_cons.mp hmem with rfl | hmem
        · exact flush_ok_written hf
        · exact ih hrest report' hmem

theorem recorderFlush_unissued (runner : Runner) {r : Ref Recorder}
    (h : (w.recorders.get r).issued = false) : Recorder.flush runner r w = .ok [] w := by
  simp [Recorder.flush, run_bind, h]

theorem recorderFlush_ok {runner : Runner} {r : Ref Recorder} {reports : List FlushReport}
    (hi : (w.recorders.get r).issued = true)
    (h : Recorder.flushAll runner r (w.recorders.get r).pipelines w = .ok reports w') :
    ∃ log, Recorder.flush runner r w = .ok reports { w' with log } := by
  by_cases hf : FlushReport.failedNames reports = []
  · exact ⟨w'.log, by simp [Recorder.flush, run_bind, hi, h, hf]⟩
  · have written : (FlushReport.failedNames reports).findSome? Value.unwritten? = none := by
      rw [List.findSome?_eq_none_iff]
      intro name hn
      obtain ⟨report, hmem, rfl⟩ := List.mem_map.mp hn
      exact flushAll_written h report (List.mem_filter.mp hmem).1
    simp [Recorder.flush, run_bind, run_map, hi, h, hf, run_say, Value.listWording, written]

theorem recorderFlush_error {runner : Runner} {r : Ref Recorder} {e : Failure}
    (hi : (w.recorders.get r).issued = true)
    (h : Recorder.flushAll runner r (w.recorders.get r).pipelines w = .error e w') :
    Recorder.flush runner r w = .error e w' := by
  simp [Recorder.flush, run_bind, hi, h]

theorem recorderFlush_journal (runner : Runner) {r : Ref Recorder}
    (hi : (w.recorders.get r).issued = true) :
    ((Recorder.flush runner r).after w).journal =
      ((Recorder.flushAll runner r (w.recorders.get r).pipelines).after w).journal := by
  cases h : Recorder.flushAll runner r (w.recorders.get r).pipelines w with
  | ok reports w' =>
    obtain ⟨log, hrun⟩ := recorderFlush_ok hi h
    rw [after_of_ok hrun, after_of_ok h]
  | error e w' => rw [after_of_error (recorderFlush_error hi h), after_of_error h]

end

/-! ## What a shutdown leaves open -/

/-- What the first shutdown of a recorder leaves behind, the journal being `before` when it began and
having grown by `after` since. -/
structure ShutdownAftermath (runner : Runner) (r : Ref Recorder) (w : World)
    (before after : List Event) : Prop where
  journal : w.journal = before ++ .shuttingDown r (attachedIn r before) :: after
  pipelines : (w.recorders.get r).pipelines = attachedIn r before ++ attachedIn r after
  /-- The pipelines that it began with are closed. -/
  early : ∀ p ∈ attachedIn r before, (w.pipelines.get p).closed = true
  unissued : (w.recorders.get r).issued = false → Recorder.flush runner r w = .ok [] w
  /-- So all are closed if those that came later are, and then they refuse every flush. -/
  refusing : (w.recorders.get r).issued = true →
    (∀ p ∈ attachedIn r after, (w.pipelines.get p).closed = true) →
    w.unnamed? (w.recorders.get r).pipelines = none →
    ∃ log, Recorder.flush runner r w =
      .ok ((w.recorders.get r).pipelines.map w.refusal) { w with log }
  /-- Where one of them has a name without a text, the flush fails and calls no processor. -/
  unnamed : (w.recorders.get r).issued = true →
    (∀ p ∈ attachedIn r after, (w.pipelines.get p).closed = true) →
    ∀ e, w.unnamed? (w.recorders.get r).pipelines = some e → Recorder.flush runner r w = .error e w
  /-- If some that came later are open, a flush calls the processor of one of them, unless it fails
  before that at a closed one with such a name. -/
  calling : (w.recorders.get r).issued = true →
    (∃ p ∈ attachedIn r after, (w.pipelines.get p).closed = false) →
    (∃ p ∈ attachedIn r after, (w.pipelines.get p).closed = false ∧
      w.journal ++ [.called (w.pipelines.get p).processor (some p) (.forceFlush (w.timeoutOf r))] <+:
        ((Recorder.flush runner r).after w).journal) ∨
      ∃ p ∈ (w.recorders.get r).pipelines, (w.pipelines.get p).closed = true ∧
        ∃ e, (w.pipelines.get p).name.unwritten? = some e ∧ Recorder.flush runner r w = .error e w

/-- After the first shutdown of a recorder all its pipelines are closed exactly if those are that
were attached since it began. -/
theorem closed_iff_late_closed {P : Step → Prop} {w : World} (hw : Reachable P w) {r : Ref Recorder}
    (complete : .shutDown r ∈ w.journal) (fuel : Nat) :
    ∃ before after, ShutdownAftermath (Script.runWithin fuel) r w before after ∧
      ((∀ p ∈ (w.recorders.get r).pipelines, (w.pipelines.get p).closed = true) ↔
        ∀ p ∈ attachedIn r after, (w.pipelines.get p).closed = true) := by
  have recounts := hw.recounts
  obtain ⟨ps, begun, closed⟩ := recounts.complete r complete
  obtain ⟨before, after, hj, rfl⟩ := recounts.begun r ps begun
  have pipelines : (w.recorders.get r).pipelines = attachedIn r before ++ attachedIn r after := by
    rw [recounts.pipelines, hj, attachedIn_append, attachedIn_cons_shuttingDown]
  have all : (∀ p ∈ (w.recorders.get r).pipelines, (w.pipelines.get p).closed = true) ↔
      ∀ p ∈ attachedIn r after, (w.pipelines.get p).closed = true := by
    rw [pipelines]
    constructor
    · exact fun h p hp => h p (List.mem_append_right _ hp)
    · intro h p hp
      rcases List.mem_append.mp hp with hp | hp
      · exact closed p hp
      · exact h p hp
  refine ⟨before, after, ?_, all⟩
  exact
    { journal := hj
      pipelines := pipelines
      early := closed
      unissued := recorderFlush_unissued _
      refusing := fun hi h named => by
        have hrun := flushAll_closed (Script.runWithin fuel) r (all.mpr h)
        rw [named] at hrun
        exact recorderFlush_ok hi hrun
      unnamed := fun hi h e unnamed => by
        have hrun := flushAll_closed (Script.runWithin fuel) r (all.mpr h)
        rw [unnamed] at hrun
        exact recorderFlush_error hi hrun
      calling := by
        rintro hi ⟨p, hp, hopen⟩
        have hmem : p ∈ (w.recorders.get r).pipelines :=
          pipelines ▸ List.mem_append_right _ hp
        rcases flushAll_calls (runWithin_keeps P fuel) hw.inOrder r ⟨p, hmem, hopen⟩ with
          ⟨q, hq, hqopen, hcall⟩ | ⟨q, hq, hqclosed, e, unnamed, hrun⟩
        case inr => exact .inr ⟨q, hq, hqclosed, e, unnamed, recorderFlush_error hi hrun⟩
        rw [recorderFlush_journal _ hi]
        refine .inl ⟨q, ?_, hqopen, hcall⟩
        rw [pipelines] at hq
        rcases List.mem_append.mp hq with hq | hq
        · rw [closed q hq] at hqopen
          cases hqopen
        · exact hq }

/-- The flush of the only pipeline attaches another one while the recorder shuts down. -/
def lateProgram : List Step :=
  [.newProvider "p" none
    (some [.make "a" (.str "a") (.scripted
      { onFlush := [[.addProcessor "p" "b" (.str "b") (.scripted {})]] })]) none none true,
    .getTracer "p" none (.identity { name := .str "lib" }) none,
    .shutdown "p"]

def lateWorld : World := (Script.run lateProgram {}).2

theorem lateWorld_reachable : Reachable (fun _ => True) lateWorld := by
  rw [lateWorld]
  exact Script.run_reachable_any _

def Event.isShutDown (r : Ref Recorder) : Event → Bool
  | .shutDown t => t = r
  | _ => false

theorem Event.eq_shutDown {r : Ref Recorder} {e : Event} (h : e.isShutDown r = true) :
    e = .shutDown r := by
  cases e <;> simp [isShutDown] at h
  rw [h]

theorem mem_of_any_isShutDown {r : Ref Recorder} {events : List Event}
    (h : events.any (Event.isShutDown r) = true) : .shutDown r ∈ events := by
  obtain ⟨e, he, hr⟩ := List.any_eq_true.mp h
  exact Event.eq_shutDown hr ▸ he

theorem late_pipelines_aftermath :
    ∃ before after, ShutdownAftermath (Script.runWithin 1) ⟨0⟩ lateWorld before after ∧
      ((∀ p ∈ (lateWorld.recorders.get ⟨0⟩).pipelines,
          (lateWorld.pipelines.get p).closed = true) ↔
        ∀ p ∈ attachedIn ⟨0⟩ after, (lateWorld.pipelines.get p).closed = true) :=
  closed_iff_late_closed lateWorld_reachable (mem_of_any_isShutDown (by decide +kernel)) 1

theorem late_pipeline_open :
    Reachable (fun _ => True) lateWorld ∧ .shutDown ⟨0⟩ ∈ lateWorld.journal ∧
      ¬ ∀ p ∈ (lateWorld.recorders.get ⟨0⟩).pipelines,
        (lateWorld.pipelines.get p).closed = true :=
  ⟨lateWorld_reachable, mem_of_any_isShutDown (by decide +kernel), by decide +kernel⟩

end Tracing
