import Tracing.Proofs.Turns

/-!
# Tracing.Proofs.Shutdown

The first shutdown of a recorder.

* `Role.isCalm`        — no call of a processor in the role ends in an interruption.
* `shutdown_turns`     — how the first shutdown of a recorder goes, turn by turn up to its last record.
* `CompleteShutdown`   — all pipelines have their turn, and no other shutdown does anything.
* `UnfinishedShutdown` — a turn is cut, or the last record, by a text that is missing.
* `shutdown_complete`  — where no processor interrupts, it is one of the two.
-/

namespace Tracing

open Act

section

variable {P : Step → Prop} {w w' : World}

/-! ## Processors that do not interrupt -/

def Outcome.interrupts : Outcome → Bool
  | .returns _ => false
  | .raises e => e.isInterruption

/-- Whether no call of a processor in this role ends in an interruption. -/
def Role.isCalm : Role → Bool
  | .scripted script => (script.flushes ++ script.shutdowns).all (!·.interrupts)
  | _ => true

theorem script_calm {script : ProcessorScript Step} (h : (Role.scripted script).isCalm = true)
    {outcome : Outcome} (ho : outcome ∈ script.flushes ++ script.shutdowns) :
    outcome.interrupts = false := by
  simp only [Role.isCalm, List.all_eq_true, Bool.not_eq_true'] at h
  exact h outcome ho

theorem entryFor_mem {α : Type} {entries : List α} {n : Nat} {a : α}
    (h : entryFor entries n = some a) : a ∈ entries := by
  unfold entryFor at h
  cases hn : entries[n]? with
  | some b =>
    rw [hn] at h
    cases h
    exact List.mem_of_getElem? hn
  | none =>
    rw [hn] at h
    exact List.mem_of_getLast? h

theorem conclude_calm {outcomes : List Outcome} {n : Nat} {e : Failure}
    (hc : ∀ outcome ∈ outcomes, outcome.interrupts = false)
    (h : Outcome.conclude (entryFor outcomes n) = .error e) : e.isInterruption = false := by
  cases ho : entryFor outcomes n with
  | none =>
    rw [ho] at h
    cases h
    rfl
  | some outcome =>
    rw [ho] at h
    cases outcome with
    | returns v => cases h
    | raises e' =>
      cases h
      exact hc _ (entryFor_mem ho)

theorem Processor.onForceFlush_calm {x : Processor} (hx : x.role.isCalm = true) {e : Failure}
    (h : x.onForceFlush.outcome = .error e) : e.isInterruption = false := by
  unfold onForceFlush at h
  split at h
  next script hr =>
    exact conclude_calm (fun o ho => script_calm (hr ▸ hx) (List.mem_append_left _ ho)) h
  all_goals cases h
  rfl

theorem Processor.onShutdown_calm {x : Processor} (hx : x.role.isCalm = true) {e : Failure}
    (h : x.onShutdown.outcome = .error e) : e.isInterruption = false := by
  unfold onShutdown at h
  split at h
  next script hr =>
    exact conclude_calm (fun o ho => script_calm (hr ▸ hx) (List.mem_append_right _ ho)) h
  all_goals cases h
  rfl

/-- Where the processor of a pipeline does not interrupt, nothing that escapes is an interruption. -/
theorem flushEscape?_calm {p : Ref Pipeline} {timeout : Value} {e : Failure}
    (calm : (w.roleOf p).isCalm = true) (h : w.flushEscape? p timeout = some e) :
    e.isInterruption = false := by
  by_contra hi
  rw [Bool.not_eq_false] at hi
  have raised := (World.flushEscape?_interruption h hi).2
  rw [Processor.onForceFlush_calm calm raised] at hi
  cases hi

theorem closeEscape?_calm {p : Ref Pipeline} {e : Failure} (calm : (w.roleOf p).isCalm = true)
    (h : w.closeEscape? p = some e) : e.isInterruption = false := by
  by_contra hi
  rw [Bool.not_eq_false] at hi
  have raised := World.closeEscape?_interruption h hi
  rw [Processor.onShutdown_calm calm raised] at hi
  cases hi

theorem TurnCut.calm {runner : Runner} {r : Ref Recorder} {p : Ref Pipeline} {e : Failure}
    (h : TurnCut P runner r p e w w') (hw : w.InOrder P) (hp : w.pipelines.Has p)
    (calm : (w.roleOf p).isCalm = true) : e.isInterruption = false := by
  cases h with
  | flushing cut => exact flushEscape?_calm calm cut.escapes
  | closing flushed changes _ _ cut =>
    rw [← changes.extends.roleOf hw hp] at calm
    exact closeEscape?_calm calm cut.escapes

end

/-! ## The first shutdown -/

/-- From the beginning of the first shutdown on, every other one is without effect. -/
theorem shutdown_once {P : Step → Prop} {w v : World} {r : Ref Recorder}
    (hr : w.recorders.Has r) (h : Changes P (w.shuttingDown r) v) :
    (v.recorders.get r).closed = true ∧ ∀ runner, Recorder.shutdown runner r v = .ok [] v := by
  have has : (w.shuttingDown r).recorders.Has r :=
    (shuttingDown_shape r).extends.hasRecorder hr
  have closed := h.extends.closed r has (shuttingDown_closed hr)
  exact ⟨closed, fun runner => Recorder.shutdown_closed closed⟩

/-- How the shutdown of an open recorder ends when `turns` have led to `v` and the pipelines `rest`
are left. -/
inductive ShutdownEnd (P : Step → Prop) (runner : Runner) (r : Ref Recorder) (turns : List Turn)
    (v : World) : List (Ref Pipeline) → EStateM.Result Failure World (List FlushReport) → Prop where
  | complete (log : List LogRecord)
      (unescaped : (v.recorders.get r).options.serviceName.unwritten? = none) :
      ShutdownEnd P runner r turns v [] (.ok (turns.map (·.report)) { v.shutDown r with log })
  /-- The last record names the service. -/
  | unrecorded {e : Failure}
      (escapes : (v.recorders.get r).options.serviceName.unwritten? = some e) :
      ShutdownEnd P runner r turns v [] (.error e (v.shutDown r))
  | cut {p : Ref Pipeline} {more : List (Ref Pipeline)} {e : Failure} {w' : World}
      (cut : TurnCut P runner r p e v w') :
      ShutdownEnd P runner r turns v (p :: more) (.error e w')

section

variable {P : Step → Prop} {runner : Runner} {w : World} {r : Ref Recorder}

theorem shutdown_turns (hr : runner.Keeps P) (hw : Reachable P w)
    (isOpen : (w.recorders.get r).closed = false) :
    ∃ turns rest v, (w.recorders.get r).pipelines = turns.map (·.pipeline) ++ rest ∧
      TurnsTaken P runner r (w.shuttingDown r) turns v ∧
      ShutdownEnd P runner r turns v rest (Recorder.shutdown runner r w) := by
  have begun : Change P w (w.shuttingDown r) := .shuttingDown r isOpen
  obtain ⟨turns, rest, v, hps, taken, ends⟩ :=
    closeAll_turns hr (hw.changes begun.changes) r (w.recorders.get r).pipelines
  refine ⟨turns, rest, v, hps, taken, ?_⟩
  rcases ends with ⟨rfl, hrun⟩ | ⟨p, more, e, w', rfl, hrun, cut⟩
  · cases hu : (v.recorders.get r).options.serviceName.unwritten? with
    | none =>
      obtain ⟨records, hrun'⟩ := Recorder.shutdown_done isOpen hrun hu
      rw [hrun']
      exact .complete _ hu
    | some e =>
      rw [Recorder.shutdown_unsaid isOpen hrun hu]
      exact .unrecorded hu
  · rw [Recorder.shutdown_cut isOpen hrun]
    exact .cut cut

/-- The pipelines of the turns of a shutdown are there when it begins. -/
theorem shutdown_has (hw : w.InOrder P) {turns : List Turn} {rest : List (Ref Pipeline)}
    (h : (w.recorders.get r).pipelines = turns.map (·.pipeline) ++ rest) :
    ∀ t ∈ turns, (w.shuttingDown r).pipelines.Has t.pipeline := fun t ht =>
  hw.owns r t.pipeline (h ▸ List.mem_append_left rest (List.mem_map_of_mem ht))

/-- Once all pipelines had their turn, the shutdown counts as complete. -/
theorem TurnsTaken.completes {turns : List Turn} {v : World} (hw : w.InOrder P)
    (h : TurnsTaken P runner r (w.shuttingDown r) turns v)
    (all : (w.recorders.get r).pipelines = turns.map (·.pipeline)) :
    Change P v (v.shutDown r) := by
  have has := shutdown_has hw (all.trans (List.append_nil _).symm)
  have entry : .shuttingDown r (w.recorders.get r).pipelines ∈ v.journal :=
    h.changes.extends.journal.subset (List.mem_append_right _ List.mem_cons_self)
  refine .shutDown r _ entry ?_
  intro p hp
  rw [all] at hp
  obtain ⟨t, ht, rfl⟩ := List.mem_map.mp hp
  exact h.closed has .refl t ht

end

/-- What the turns of the first shutdown of the recorder `r` come to. It began in `w`, and `w'` is
what it leaves. -/
structure ShutdownTurns (P : Step → Prop) (runner : Runner) (r : Ref Recorder) (w w' : World)
    (turns : List Turn) : Prop where
  sound : ∀ t ∈ turns, t.Sound P runner r
  named : turns.map (·.report.pipeline) =
    (turns.map (·.pipeline)).map fun p => (w.pipelines.get p).name
  /-- A pipeline that had a turn before is found closed. -/
  repeated : turns.Pairwise fun a b => a.pipeline = b.pipeline →
    (b.before.pipelines.get b.pipeline).closed = true
  closed : ∀ t ∈ turns, (w'.pipelines.get t.pipeline).closed = true
  changes : Changes P (w.shuttingDown r) w'
  /-- From its beginning on, and whatever happens later, no shutdown of `r` does anything else. -/
  once : ∀ v, Changes P (w.shuttingDown r) v → (v.recorders.get r).closed = true ∧
    ∀ runner, Recorder.shutdown runner r v = .ok [] v

/-- The shutdown is complete in `w'`: the pipelines attached when it began have had their turns in
their order. -/
structure CompleteShutdown (P : Step → Prop) (runner : Runner) (r : Ref Recorder) (w w' : World)
    (turns : List Turn) : Prop extends ShutdownTurns P runner r w w' turns where
  inOrder : turns.map (·.pipeline) = (w.recorders.get r).pipelines
  follow : ∃ v log, Follow (w.shuttingDown r) turns v ∧ w' = { v.shutDown r with log := log }
  allClosed : ∀ p ∈ (w.recorders.get r).pipelines, (w'.pipelines.get p).closed = true

/-- The shutdown has failed by `e` in `w'`, though no processor interrupted it: a text was missing
that it was about to put into a record or into a report. -/
structure UnfinishedShutdown (P : Step → Prop) (runner : Runner) (r : Ref Recorder) (w w' : World)
    (e : Failure) (turns : List Turn) : Prop extends ShutdownTurns P runner r w w' turns where
  uninterrupted : e.isInterruption = false
  /-- It was in the turn of a pipeline, and those after that have had none. Or all have had theirs,
  and the service has a name without a text. -/
  cause : ∃ v, Follow (w.shuttingDown r) turns v ∧
    ((∃ p rest, (w.recorders.get r).pipelines = turns.map (·.pipeline) ++ p :: rest ∧
        TurnCut P runner r p e v w') ∨
      (w.recorders.get r).pipelines = turns.map (·.pipeline) ∧ w' = v.shutDown r ∧
        (v.recorders.get r).options.serviceName.unwritten? = some e)

theorem TurnsTaken.shutdownTurns {P : Step → Prop} {runner : Runner} {r : Ref Recorder}
    {w v w' : World} {turns : List Turn} {rest : List (Ref Pipeline)} (hw : w.InOrder P)
    (isOpen : (w.recorders.get r).closed = false)
    (h : TurnsTaken P runner r (w.shuttingDown r) turns v)
    (hps : (w.recorders.get r).pipelines = turns.map (·.pipeline) ++ rest)
    (later : Changes P v w') : ShutdownTurns P runner r w w' turns := by
  have has := shutdown_has hw hps
  exact
    { sound := fun t ht => (h.each t ht).1
      named := h.named has
      repeated := h.repeated has
      closed := h.closed has later
      changes := h.changes.trans later
      once := fun v => shutdown_once (Recorder.has_of_open isOpen) }

/-- Where no processor interrupts it, the first shutdown of a recorder gives the reports of its turns,
whatever the processors answer and whatever their hooks do, unless a text is missing: then it fails
there. -/
theorem shutdown_complete {P : Step → Prop} {w : World} (hw : Reachable P w) {r : Ref Recorder}
    (isOpen : (w.recorders.get r).closed = false)
    (calm : ∀ p ∈ (w.recorders.get r).pipelines, (w.roleOf p).isCalm = true) (fuel : Nat) :
    ∃ turns w', (Recorder.shutdown (Script.runWithin fuel) r w = .ok (turns.map (·.report)) w' ∧
        CompleteShutdown P (Script.runWithin fuel) r w w' turns) ∨
      ∃ e, Recorder.shutdown (Script.runWithin fuel) r w = .error e w' ∧
        UnfinishedShutdown P (Script.runWithin fuel) r w w' e turns := by
  have keeps := runWithin_keeps P fuel
  obtain ⟨turns, rest, v, hps, taken, ends⟩ := shutdown_turns keeps hw isOpen
  generalize Recorder.shutdown (Script.runWithin fuel) r w = result at ends ⊢
  cases ends with
  | complete log unescaped =>
    have all := hps.trans (List.append_nil _)
    have completed : Changes P v { v.shutDown r with log } :=
      (taken.completes hw.inOrder all).changes.tail (.logOnly log)
    have whole := taken.shutdownTurns hw.inOrder isOpen hps completed
    refine ⟨turns, _, .inl ⟨rfl, ?_⟩⟩
    exact
      { whole with
        inOrder := all.symm
        follow := ⟨v, log, taken.follow, rfl⟩
        allClosed := fun p hp => by
          rw [all] at hp
          obtain ⟨t, ht, rfl⟩ := List.mem_map.mp hp
          exact whole.closed t ht }
  | @unrecorded e escapes =>
    have all := hps.trans (List.append_nil _)
    have whole := taken.shutdownTurns hw.inOrder isOpen hps
      (taken.completes hw.inOrder all).changes
    refine ⟨turns, _, .inr ⟨e, rfl, ?_⟩⟩
    exact
      { whole with
        uninterrupted := Value.unwritten?_calm escapes
        cause := ⟨v, taken.follow, .inr ⟨all, rfl, escapes⟩⟩ }
  | @cut p more e w' cut =>
    have hmem : p ∈ (w.recorders.get r).pipelines := by simp [hps]
    have hv := taken.changes.inOrder (hw.changes (Change.shuttingDown r isOpen).changes).inOrder
    have there : (w.shuttingDown r).pipelines.Has p := hw.inOrder.owns r p hmem
    have calm' : (v.roleOf p).isCalm = true := by
      rw [taken.changes.extends.roleOf
        (hw.changes (Change.shuttingDown r isOpen).changes).inOrder there]
      exact calm p hmem
    have whole := taken.shutdownTurns hw.inOrder isOpen hps (cut.changes keeps hv)
    refine ⟨turns, w', .inr ⟨e, rfl, ?_⟩⟩
    exact
      { whole with
        uninterrupted := cut.calm hv (taken.changes.extends.hasPipeline there) calm'
        cause := ⟨v, taken.follow, .inl ⟨p, more, hps, cut⟩⟩ }

/-- A recorder with a pipeline that is attached twice and one that the flush of the first closes;
that flush also asks for the shutdown that is under way, and fails. -/
def entangledProgram : List Step :=
  [.newProvider "p" none
    (some [
      .make "a" (.str "a") (.scripted
        { flushes := [.raises .missingName]
          onFlush := [[.shutdown "p", .shutdownPipeline "b"]] }),
      .make "b" (.str "b") .base,
      .known "a"]) none none true]

def entangledWorld : World := (Script.run entangledProgram {}).2

theorem entangled_reachable : Reachable (fun _ => True) entangledWorld := by
  rw [entangledWorld]
  exact Script.run_reachable_any _

/-- Nothing escapes from that shutdown. -/
theorem entangled_shutdown_complete :
    ∃ turns w', Recorder.shutdown (Script.runWithin 2) ⟨0⟩ entangledWorld =
        .ok (turns.map (·.report)) w' ∧
      CompleteShutdown (fun _ => True) (Script.runWithin 2) ⟨0⟩ entangledWorld w' turns := by
  have quiet : (Recorder.shutdown (Script.runWithin 2) ⟨0⟩).failure? entangledWorld = none := by
    decide +kernel
  obtain ⟨turns, w', done | ⟨e, failed, -⟩⟩ := shutdown_complete (r := ⟨0⟩) entangled_reachable
    (by decide +kernel) (by decide +kernel) 2
  · exact ⟨turns, w', done⟩
  · rw [failure?_of_error failed] at quiet
    cases quiet

/-- The flush of the first of two pipelines fails with an error that has no text. -/
def unwritableProgram : List Step :=
  [.newProvider "p" none
    (some [
      .make "a" (.str "a") (.scripted
        { flushes := [.raises (.foreign ⟨"UnicodeEncodeError",
            [.str "utf-8", .str "abc", .int (-1), .int 0, .str "r"]⟩)] }),
      .make "b" (.str "b") (.scripted {})]) none none true,
    .getTracer "p" none (.identity { name := .str "lib" }) none]

def unwritableWorld : World := (Script.run unwritableProgram {}).2

theorem unwritable_reachable : Reachable (fun _ => True) unwritableWorld := by
  rw [unwritableWorld]
  exact Script.run_reachable_any _

/-- The world that the shutdown of that recorder leaves. -/
def unwritableAfter : World := (Recorder.shutdown (Script.runWithin 1) ⟨0⟩).after unwritableWorld

/-- The shutdown fails, though no processor interrupts it, and leaves both pipelines open. -/
theorem unwritable_shutdown_unfinished :
    Reachable (fun _ => True) unwritableWorld ∧
      (unwritableWorld.recorders.get ⟨0⟩).closed = false ∧
      (∀ p ∈ (unwritableWorld.recorders.get ⟨0⟩).pipelines,
        (unwritableWorld.roleOf p).isCalm = true) ∧
      (∃ e, Recorder.shutdown (Script.runWithin 1) ⟨0⟩ unwritableWorld =
        .error e unwritableAfter ∧ e.isInterruption = false) ∧
      (unwritableWorld.recorders.get ⟨0⟩).pipelines = [⟨0⟩, ⟨1⟩] ∧
      ∀ p ∈ (unwritableWorld.recorders.get ⟨0⟩).pipelines,
        (unwritableAfter.pipelines.get p).closed = false := by
  have fails : ((Recorder.shutdown (Script.runWithin 1) ⟨0⟩).failure? unwritableWorld).any
      (!·.isInterruption) = true := by
    decide +kernel
  obtain ⟨e, failed, calm⟩ := error_of_failure? fails
  exact ⟨unwritable_reachable, by decide +kernel, by decide +kernel,
    ⟨e, failed, by simpa using calm⟩, by decide +kernel, by decide +kernel⟩

end Tracing
