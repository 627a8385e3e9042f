import Tracing.Proofs.Shutdown

/-!
# Tracing.Proofs.CutShort

A first shutdown that fails, above all by an interruption.

* `CutShort`           — it ends in the turn of a pipeline, and what it leaves behind for good.
* `Unrecorded`         — it fails when all is done, as the service has a name without a text.
* `shutdown_cut_short` — no later shutdown goes on with it: the pipelines that it did not come to
  stay open until they are shut down in another way.
-/

namespace Tracing

open Act

section

variable {P : Step → Prop} {runner : Runner} {r : Ref Recorder} {w w' : World} {e : Failure}

/-- The first shutdown of the recorder `r`, which began in `w`, was cut short by `e` in `w'`. It had
come to the pipelines `before`, was in the turn of `p`, and did not come to `rest`. -/
structure CutShort (P : Step → Prop) (runner : Runner) (r : Ref Recorder) (w w' : World)
    (e : Failure) (before : List (Ref Pipeline)) (p : Ref Pipeline) (rest : List (Ref Pipeline)) :
    Prop where
  pipelines : (w.recorders.get r).pipelines = before ++ p :: rest
  changes : Changes P (w.shuttingDown r) w'
  /-- The pipeline of the turn is closed for good if `e` escaped from its own shutdown. An
  interruption is what its processor raised. -/
  cause : (∃ v, Changes P (w.shuttingDown r) v ∧ FlushCut runner p (v.timeoutOf r) e v w') ∨
    (∃ v, Changes P (w.shuttingDown r) v ∧ CloseCut runner p e v w') ∧
      ∀ v, Changes P w' v → (v.pipelines.get p).closed = true
  /-- Whatever happens later, no shutdown of the recorder does anything. -/
  idle : ∀ v, Changes P w' v → (v.recorders.get r).closed = true ∧
    ∀ runner, Recorder.shutdown runner r v = .ok [] v
  done : ∀ v, Changes P w' v → ∀ q ∈ before, (v.pipelines.get q).closed = true
  /-- So all are closed when the others have been shut down, each through itself. -/
  finished : ∀ v, Changes P w' v →
    ((∀ q ∈ (w.recorders.get r).pipelines, (v.pipelines.get q).closed = true) ↔
      ∀ q ∈ p :: rest, v.ShutThrough q)

/-- The first shutdown of the recorder `r`, which began in `w`, failed by `e` in `w'` when it had
closed all pipelines. -/
structure Unrecorded (P : Step → Prop) (r : Ref Recorder) (w w' : World) (e : Failure) : Prop where
  uninterrupted : e.isInterruption = false
  changes : Changes P (w.shuttingDown r) w'
  service : (w'.recorders.get r).options.serviceName.unwritten? = some e
  closed : ∀ v, Changes P w' v → ∀ q ∈ (w.recorders.get r).pipelines,
    (v.pipelines.get q).closed = true
  idle : ∀ v, Changes P w' v → (v.recorders.get r).closed = true ∧
    ∀ runner, Recorder.shutdown runner r v = .ok [] v

theorem TurnsTaken.unrecorded {turns : List Turn} {v : World} (hw : w.InOrder P)
    (isOpen : (w.recorders.get r).closed = false)
    (taken : TurnsTaken P runner r (w.shuttingDown r) turns v)
    (all : (w.recorders.get r).pipelines = turns.map (·.pipeline))
    (escapes : (v.recorders.get r).options.serviceName.unwritten? = some e) :
    Unrecorded P r w (v.shutDown r) e := by
  have completed : Changes P v (v.shutDown r) := (taken.completes hw all).changes
  have changes : Changes P (w.shuttingDown r) (v.shutDown r) := taken.changes.trans completed
  have has := shutdown_has hw (all.trans (List.append_nil _).symm)
  exact
    { uninterrupted := Value.unwritten?_calm escapes
      changes := changes
      service := escapes
      closed := fun u hu q hq => by
        rw [all] at hq
        obtain ⟨t, ht, rfl⟩ := List.mem_map.mp hq
        exact taken.closed has (completed.trans hu) t ht
      idle := fun u hu => shutdown_once (Recorder.has_of_open isOpen) (changes.trans hu) }

theorem TurnsTaken.cutShort {turns : List Turn} {v : World} {p : Ref Pipeline}
    {rest : List (Ref Pipeline)} (hr : runner.Keeps P) (hw : Reachable P w)
    (isOpen : (w.recorders.get r).closed = false)
    (taken : TurnsTaken P runner r (w.shuttingDown r) turns v)
    (hps : (w.recorders.get r).pipelines = turns.map (·.pipeline) ++ p :: rest)
    (cut : TurnCut P runner r p e v w') :
    CutShort P runner r w w' e (turns.map (·.pipeline)) p rest := by
  have reachable := hw.changes (Change.shuttingDown r isOpen).changes
  have hv := taken.changes.inOrder reachable.inOrder
  have cutting := cut.changes hr hv
  have changes : Changes P (w.shuttingDown r) w' := taken.changes.trans cutting
  have owned : ∀ q ∈ turns.map (·.pipeline) ++ p :: rest, (w.shuttingDown r).pipelines.Has q :=
    fun q hq => hw.inOrder.owns r q (hps ▸ hq)
  have done : ∀ u, Changes P w' u → ∀ q ∈ turns.map (·.pipeline),
      (u.pipelines.get q).closed = true := fun u hu q hq => by
    obtain ⟨t, ht, rfl⟩ := List.mem_map.mp hq
    exact taken.closed (shutdown_has hw.inOrder hps) (cutting.trans hu) t ht
  exact
    { pipelines := hps
      changes := changes
      cause := by
        cases cut with
        | flushing cut => exact .inl ⟨v, taken.changes, cut⟩
        | closing flushed toFlushed _ _ cut =>
          have closed := cut.closed hr (toFlushed.inOrder hv)
          have there := changes.extends.hasPipeline (owned p (by simp))
          exact .inr ⟨⟨flushed, taken.changes.trans toFlushed, cut⟩,
            fun u hu => hu.extends.shut p there closed⟩
      idle := fun u hu => shutdown_once (Recorder.has_of_open isOpen) (changes.trans hu)
      done := done
      finished := fun u hu => by
        have later := changes.trans hu
        have shut : ∀ q ∈ turns.map (·.pipeline) ++ p :: rest,
            (u.ShutThrough q ↔ (u.pipelines.get q).closed = true) := fun q hq => by
          rw [(reachable.changes later).closedByCalls q]
          exact and_iff_right ((Changes.extends later).hasPipeline (owned q hq))
        rw [hps]
        constructor
        · intro all q hq
          have hmem := List.mem_append_right (turns.map (·.pipeline)) hq
          exact (shut q hmem).mpr (all q hmem)
        · intro others q hq
          rcases List.mem_append.mp hq with hb | ho
          · exact done u hu q hb
          · exact (shut q hq).mp (others q ho) }

end

/-- A shutdown that fails is the first one of its recorder. Unless it has closed all pipelines by
then, it was cut short in the turn of one of them, as by an interruption. Later shutdowns do nothing,
so they never make it complete. -/
theorem shutdown_cut_short {P : Step → Prop} {w w' : World} (hw : Reachable P w) {r : Ref Recorder}
    {fuel : Nat} {e : Failure} (h : Recorder.shutdown (Script.runWithin fuel) r w = .error e w') :
    (∃ before p rest, CutShort P (Script.runWithin fuel) r w w' e before p rest) ∨
      Unrecorded P r w w' e := by
  cases hc : (w.recorders.get r).closed with
  | true =>
    rw [Recorder.shutdown_closed hc] at h
    cases h
  | false =>
    have keeps := runWithin_keeps P fuel
    obtain ⟨turns, rest, v, hps, taken, ends⟩ := shutdown_turns keeps hw hc
    rw [h] at ends
    cases ends with
    | unrecorded escapes =>
      exact .inr (taken.unrecorded hw.inOrder hc (hps.trans (List.append_nil _)) escapes)
    | cut cut => exact .inl ⟨_, _, _, taken.cutShort keeps hw hc hps cut⟩

/-- The flush of the first of two pipelines is an interruption. -/
def cutShortProgram : List Step :=
  [.newProvider "p" none
    (some [
      .make "a" (.str "a") (.scripted { flushes := [.raises (.foreign ⟨"KeyboardInterrupt", []⟩)] }),
      .make "b" (.str "b") (.scripted {})]) none none true]

def cutShortWorld : World := (Script.run cutShortProgram {}).2

theorem cutShortWorld_reachable : Reachable (fun _ => True) cutShortWorld := by
  rw [cutShortWorld]
  exact Script.run_reachable_any _

/-- The world that the shutdown of that recorder leaves. -/
def cutShortAfter : World := (Recorder.shutdown (Script.runWithin 1) ⟨0⟩).after cutShortWorld

theorem cutShortAfter_interrupted : ∃ e,
    Recorder.shutdown (Script.runWithin 1) ⟨0⟩ cutShortWorld = .error e cutShortAfter ∧
      e.isInterruption = true :=
  error_of_failure? (by decide +kernel)

theorem interrupted_shutdown_cut_short :
    ∃ e before p rest,
      CutShort (fun _ => True) (Script.runWithin 1) ⟨0⟩ cutShortWorld cutShortAfter e before p
        rest := by
  obtain ⟨e, h, interruption⟩ := cutShortAfter_interrupted
  rcases shutdown_cut_short cutShortWorld_reachable h with cut | unrecorded
  · exact ⟨e, cut⟩
  · rw [unrecorded.uninterrupted] at interruption
    cases interruption

/-- The shutdown after the interrupted one gives no failure, and both pipelines are open still. -/
theorem interrupted_shutdown_not_completed :
    Reachable (fun _ => True) cutShortWorld ∧
      (∃ e, Recorder.shutdown (Script.runWithin 1) ⟨0⟩ cutShortWorld = .error e cutShortAfter ∧
        e.isInterruption = true) ∧
      Recorder.shutdown (Script.runWithin 1) ⟨0⟩ cutShortAfter = .ok [] cutShortAfter ∧
      ¬ ∀ p ∈ (cutShortWorld.recorders.get ⟨0⟩).pipelines,
        (cutShortAfter.pipelines.get p).closed = true :=
  ⟨cutShortWorld_reachable, cutShortAfter_interrupted,
    Recorder.shutdown_closed (by decide +kernel), by decide +kernel⟩

end Tracing
