import Tracing.Proofs.LatePipelines

/-!
# Tracing.Proofs.Flush

The flush of a recorder, pipeline by pipeline.

* `FlushTurn`, `FlushTurn.Sound` — what a flush does with one pipeline, and what it reports.
* `TakeTurns`       — turns that follow each other; `closeAll_turns_of_ok` — shutdowns that give reports
  consist of them.
* `flushAll_turns`  — a flush takes turns until it comes to the end of the list or something escapes
  from one, by induction on the list.
* `AlikeOutside`    — two worlds that differ in some processors only; `flushAll_isolated` — pipelines
  of other processors are reported alike in both.
* `CompleteFlush`, `UnfinishedFlush` — all pipelines are reported, or a text is missing.
* `flush_complete`  — where no processor interrupts, it is one of the two.
-/

namespace Tracing

open Act

/-! ## Turns -/

/-- What a flush does with one pipeline: the worlds before and after it, and the report made. -/
structure FlushTurn where
  pipeline : Ref Pipeline
  before : World
  after : World
  report : FlushReport

namespace FlushTurn

/-- The pipeline is flushed with the timeout that the options of the recorder hold then. -/
def Taken (runner : Runner) (r : Ref Recorder) (t : FlushTurn) : Prop :=
  Pipeline.flush runner t.pipeline (t.before.timeoutOf r) t.before = .ok t.report t.after

/-- The turn of an open pipeline calls the processor once, and reports how that call ends. -/
structure Asked (runner : Runner) (r : Ref Recorder) (t : FlushTurn) : Prop where
  /-- The call is entered, and then what the hook of the call does. -/
  called : t.after.journal =
    (Pipeline.flushEnded runner t.before t.pipeline (t.before.timeoutOf r)).journal
  raised : ∀ e, (Pipeline.flushReaction t.before t.pipeline).outcome = .error e →
    t.report.failure = some (.exportFailed t.report.pipeline e)
  timedOut : (Pipeline.flushReaction t.before t.pipeline).outcome = .ok (.bool false) →
    t.report.failure = some (.exportTimedOut t.report.pipeline (t.before.timeoutOf r))
  /-- Whatever else the processor answers, it is a success. -/
  succeeded : ∀ v, (Pipeline.flushReaction t.before t.pipeline).outcome = .ok v → v ≠ .bool false →
    t.report.failure = none

structure Sound (P : Step → Prop) (runner : Runner) (r : Ref Recorder) (t : FlushTurn) : Prop where
  changes : Changes P t.before t.after
  named : t.report.pipeline = (t.before.pipelines.get t.pipeline).name
  /-- Nothing is done with a closed pipeline. -/
  refused : (t.before.pipelines.get t.pipeline).closed = true →
    t.report.failure = some (.pipelineClosed t.report.pipeline) ∧ t.after = t.before
  asked : (t.before.pipelines.get t.pipeline).closed = false → t.Asked runner r

end FlushTurn

/-- Turns follow each other from one world to another. Between a turn and the next one `pause` may
happen with the pipeline of the turn. -/
def TakeTurns (runner : Runner) (r : Ref Recorder)
    (pause : Ref Pipeline → World → World → Prop) : World → List FlushTurn → World → Prop
  | w, [], w' => w' = w
  | w, t :: rest, w' => t.before = w ∧ t.Taken runner r ∧
    ∃ v, pause t.pipeline t.after v ∧ TakeTurns runner r pause v rest w'

/-- The turns of a flush. -/
def unpaused : Ref Pipeline → World → World → Prop := fun _ w w' => w' = w

/-- The turns of a shutdown, which closes each pipeline after its turn. -/
def closing (runner : Runner) : Ref Pipeline → World → World → Prop := fun p w w' =>
  Pipeline.close runner p w = .ok () w'

section

variable {P : Step → Prop} {runner : Runner} {r : Ref Recorder} {w w' : World}

theorem Pipeline.isTimeout_of_ne {v : Value} (h : v ≠ .bool false) : isTimeout v = false := by
  cases v with
  | bool b =>
    cases b with
    | false => exact absurd rfl h
    | true => rfl
  | _ => rfl

theorem FlushTurn.Taken.sound {t : FlushTurn} (hr : runner.Keeps P) (hw : t.before.InOrder P)
    (h : t.Taken runner r) : t.Sound P runner r := by
  have changes := ((flush_leads hr hw t.pipeline _).of_eq h).1
  obtain ⟨unescaped, hreport, log, hafter⟩ := flush_ok h
  rw [FlushTurn.Taken] at h
  cases hc : (t.before.pipelines.get t.pipeline).closed with
  | true =>
    simp only [World.flushEscape?, hc, if_true] at unescaped
    rw [Pipeline.flush_closed hc unescaped] at h
    obtain ⟨hreport, hafter⟩ := EStateM.Result.ok.inj h
    exact
      { changes := changes
        named := by rw [← hreport]; rfl
        refused := fun _ => ⟨by rw [← hreport]; rfl, hafter.symm⟩
        asked := fun h => by
          rw [hc] at h
          cases h }
  | false =>
    have named : t.report.pipeline = (t.before.pipelines.get t.pipeline).name :=
      hreport ▸ World.flushReport_pipeline ..
    simp only [World.flushReport, hc, Bool.false_eq_true, if_false] at hreport
    simp only [World.flushOver, hc, Bool.false_eq_true, if_false] at hafter
    exact
      { changes := changes
        named := named
        refused := fun h => by
          rw [hc] at h
          cases h
        asked := fun _ =>
          { called := by rw [hafter]
            raised := fun e ho => by
              rw [named, hreport, ho]
              rfl
            timedOut := fun ho => by
              rw [named, hreport, ho]
              rfl
            succeeded := fun v ho hv => by
              rw [hreport, ho, Pipeline.report, Pipeline.isTimeout_of_ne hv]
              rfl } }

/-! ## Flushes and shutdowns consist of turns -/

/-- Turns are taken until none is left or something escapes from one. -/
theorem flushAll_turns (runner : Runner) (r : Ref Recorder) (ps : List (Ref Pipeline)) (w : World) :
    ∃ turns rest v, ps = turns.map (·.pipeline) ++ rest ∧ TakeTurns runner r unpaused w turns v ∧
      ((rest = [] ∧ Recorder.flushAll runner r ps w = .ok (turns.map (·.report)) v) ∨
        ∃ p more e w', rest = p :: more ∧ Recorder.flushAll runner r ps w = .error e w' ∧
          FlushCut runner p (v.timeoutOf r) e v w') := by
  induction ps generalizing w with
  | nil => exact ⟨[], [], w, rfl, rfl, .inl ⟨rfl, rfl⟩⟩
  | cons p rest ih =>
    simp only [Recorder.flushAll, run_bind, run_get]
    cases hf : Pipeline.flush runner p (w.recorders.get r).options.flushTimeout w with
    | error e w' => exact ⟨[], p :: rest, w, rfl, rfl, .inr ⟨p, rest, e, w', rfl, rfl, flush_error hf⟩⟩
    | ok report after =>
      dsimp only
      obtain ⟨turns, more, v, rfl, follow, ends⟩ := ih after
      refine ⟨⟨p, w, after, report⟩ :: turns, more, v, rfl, ⟨rfl, hf, after, rfl, follow⟩, ?_⟩
      rcases ends with ⟨rfl, hrun⟩ | ⟨q, more, e, w', rfl, hrun, cut⟩
      · exact .inl ⟨rfl, by rw [hrun]; rfl⟩
      · exact .inr ⟨q, more, e, w', rfl, by rw [hrun], cut⟩

theorem flushAll_turns_of_ok {ps : List (Ref Pipeline)} {reports : List FlushReport}
    (h : Recorder.flushAll runner r ps w = .ok reports w') :
    ∃ turns, reports = turns.map (·.report) ∧ turns.map (·.pipeline) = ps ∧
      TakeTurns runner r unpaused w turns w' := by
  obtain ⟨turns, rest, v, rfl, follow, ends⟩ := flushAll_turns runner r ps w
  rw [h] at ends
  rcases ends with ⟨rfl, hrun⟩ | ⟨p, more, e, w', -, hrun, -⟩
  · obtain ⟨rfl, rfl⟩ := EStateM.Result.ok.inj hrun
    exact ⟨turns, rfl, (List.append_nil _).symm, follow⟩
  · cases hrun

theorem closeAll_turns_of_ok {ps : List (Ref Pipeline)} {reports : List FlushReport}
    (h : Recorder.closeAll runner r ps w = .ok reports w') :
    ∃ turns, reports = turns.map (·.report) ∧ turns.map (·.pipeline) = ps ∧
      TakeTurns runner r (closing runner) w turns w' := by
  induction ps generalizing w reports with
  | nil =>
    obtain ⟨rfl, rfl⟩ := EStateM.Result.ok.inj h
    exact ⟨[], rfl, rfl, rfl⟩
  | cons p rest ih =>
    simp only [Recorder.closeAll, run_bind, run_get] at h
    cases hf : Pipeline.flush runner p (w.recorders.get r).options.flushTimeout w with
    | error e v => simp [hf] at h
    | ok report v =>
      simp only [hf] at h
      cases hclose : Pipeline.close runner p v with
      | error e u => simp [hclose] at h
      | ok _ u =>
        simp only [hclose] at h
        cases hrest : Recorder.closeAll runner r rest u with
        | error e u' => simp [hrest] at h
        | ok others u' =>
          simp only [hrest, run_pure] at h
          obtain ⟨rfl, rfl⟩ := EStateM.Result.ok.inj h
          obtain ⟨turns, rfl, rfl, follow⟩ := ih hrest
          exact ⟨⟨p, w, v, report⟩ :: turns, rfl, rfl, rfl, hf, u, hclose, follow⟩

/-! ## The turns of a flush -/

theorem unpaused_changes {p : Ref Pipeline} (h : unpaused p w w') : Changes P w w' := by
  rw [unpaused] at h
  exact h ▸ .refl

theorem closing_changes (hr : runner.Keeps P) (hw : w.InOrder P) {p : Ref Pipeline}
    (h : closing runner p w w') : Changes P w w' :=
  ((close_leads hr hw p).of_eq h).1

/-- All turns lie between the first world and the last one. -/
theorem TakeTurns.between (hr : runner.Keeps P) {pause : Ref Pipeline → World → World → Prop}
    (hpause : ∀ p v v', v.InOrder P → pause p v v' → Changes P v v') {turns : List FlushTurn}
    (hw : w.InOrder P) (h : TakeTurns runner r pause w turns w') :
    Changes P w w' ∧ ∀ t ∈ turns, t.Sound P runner r ∧ Changes P w t.before ∧
      Changes P t.after w' := by
  induction turns generalizing w with
  | nil =>
    rw [TakeTurns] at h
    exact ⟨h ▸ .refl, by simp⟩
  | cons t rest ih =>
    obtain ⟨rfl, taken, v, paused, follow⟩ := h
    have sound := taken.sound hr hw
    have pausing := hpause _ _ _ (sound.changes.inOrder hw) paused
    have taking := sound.changes.trans pausing
    obtain ⟨later, each⟩ := ih (Changes.inOrder taking hw) follow
    refine ⟨taking.trans later, fun t' ht' => ?_⟩
    rcases List.mem_cons.mp ht' with rfl | ht'
    · exact ⟨sound, .refl, pausing.trans later⟩
    · obtain ⟨sound', before, after⟩ := each t' ht'
      exact ⟨sound', taking.trans before, after⟩

/-! ## Isolation -/

/-- Whether a flush of a processor in this role runs no steps and does not interrupt. -/
def Role.flushesAlone (role : Role) : Bool :=
  role.isCalm && match role with
    | .scripted script => script.onFlush.isEmpty
    | _ => true

theorem Processor.onForceFlush_alone {x : Processor} (h : x.role.flushesAlone = true) :
    x.onForceFlush.hook = none := by
  unfold onForceFlush
  split
  next script hr =>
    rw [hr] at h
    have none : script.onFlush = [] := by
      simpa [Role.flushesAlone] using (Bool.and_eq_true_iff.mp h).2
    simp [none]
  all_goals rfl

namespace World

/-- Every processor as it is after a flush of a pipeline that runs no hook. -/
def flushedProcessor (w : World) (p : Ref Pipeline) (q : Ref Processor) : Processor :=
  if (w.pipelines.get p).closed = false ∧ q = (w.pipelines.get p).processor then
    (w.processors.get q).onForceFlush.processor
  else w.processors.get q

end World

/-- A flush that runs no hook changes nothing but the processor that it calls. -/
theorem flush_alone {p : Ref Pipeline} {timeout : Value} {report : FlushReport}
    (alone : (w.roleOf p).flushesAlone = true)
    (h : Pipeline.flush runner p timeout w = .ok report w') :
    w'.pipelines = w.pipelines ∧ w'.recorders = w.recorders ∧
      ∀ q, w'.processors.get q = w.flushedProcessor p q := by
  obtain ⟨-, -, log, rfl⟩ := flush_ok h
  unfold World.flushOver
  cases hc : (w.pipelines.get p).closed with
  | true => exact ⟨rfl, rfl, fun q => by simp [World.flushedProcessor, hc]⟩
  | false =>
    have unhooked : (Pipeline.flushReaction w p).hook = none := Processor.onForceFlush_alone alone
    rw [Pipeline.flushEnded, unhooked]
    refine ⟨rfl, rfl, fun q => ?_⟩
    by_cases hq : q = (w.pipelines.get p).processor
    · subst hq
      have taken : (Pipeline.flushBegun w p timeout).processors.get (w.pipelines.get p).processor =
          (w.processors.get (w.pipelines.get p).processor).onForceFlush.processor :=
        w.processors.get_modify_const _ (f := (·.onForceFlush.processor)) rfl
      exact taken.trans (by simp [World.flushedProcessor, hc])
    · have kept : (Pipeline.flushBegun w p timeout).processors.get q = w.processors.get q :=
        w.processors.get_modify_ne _ hq
      exact kept.trans (by simp [World.flushedProcessor, hq])

theorem World.flushedProcessor_role (p : Ref Pipeline) (q : Ref Processor) :
    (w.flushedProcessor p q).role = (w.processors.get q).role := by
  unfold World.flushedProcessor
  split
  · exact Processor.onForceFlush_role _
  · rfl

/-- For the pipelines `ps` of the recorder `r` two worlds are the same, but for the processors in
`S` and for what is logged. No flush of a pipeline runs steps or is interrupted in either. -/
structure AlikeOutside (S : Ref Processor → Prop) (r : Ref Recorder) (ps : List (Ref Pipeline))
    (w v : World) : Prop where
  timeout : v.timeoutOf r = w.timeoutOf r
  pipelines : ∀ p ∈ ps, v.pipelines.get p = w.pipelines.get p
  processors : ∀ q, ¬ S q → v.processors.get q = w.processors.get q
  alone : ∀ p ∈ ps, (w.roleOf p).flushesAlone = true
  alone' : ∀ p ∈ ps, (v.roleOf p).flushesAlone = true

namespace AlikeOutside

variable {S : Ref Processor → Prop} {p : Ref Pipeline} {ps : List (Ref Pipeline)} {v v' : World}

theorem flushReport (h : AlikeOutside S r (p :: ps) w v) (hp : ¬ S (w.pipelines.get p).processor)
    (timeout : Value) : v.flushReport p timeout = w.flushReport p timeout := by
  simp only [World.flushReport, World.refusal, Pipeline.flushReaction,
    h.pipelines p List.mem_cons_self, h.processors _ hp]

theorem flushEscape? (h : AlikeOutside S r (p :: ps) w v)
    (hp : ¬ S (w.pipelines.get p).processor) (timeout : Value) :
    v.flushEscape? p timeout = w.flushEscape? p timeout := by
  simp only [World.flushEscape?, Pipeline.flushReaction, h.pipelines p List.mem_cons_self,
    h.processors _ hp]

/-- The turn of a pipeline keeps two worlds alike. -/
theorem turn (h : AlikeOutside S r (p :: ps) w v)
    (hwp : w'.pipelines = w.pipelines) (hwr : w'.recorders = w.recorders)
    (hwq : ∀ q, w'.processors.get q = w.flushedProcessor p q)
    (hvp : v'.pipelines = v.pipelines) (hvr : v'.recorders = v.recorders)
    (hvq : ∀ q, v'.processors.get q = v.flushedProcessor p q) : AlikeOutside S r ps w' v' where
  timeout := by
    rw [World.timeoutOf, World.timeoutOf, hvr, hwr]
    exact h.timeout
  pipelines t ht := by
    rw [hvp, hwp]
    exact h.pipelines t (List.mem_cons_of_mem p ht)
  processors q hq := by
    simp only [hvq, hwq, World.flushedProcessor, h.processors q hq,
      h.pipelines p List.mem_cons_self]
  alone t ht := by
    rw [World.roleOf, hwp, hwq, World.flushedProcessor_role]
    exact h.alone t (List.mem_cons_of_mem p ht)
  alone' t ht := by
    rw [World.roleOf, hvp, hvq, World.flushedProcessor_role]
    exact h.alone' t (List.mem_cons_of_mem p ht)

end AlikeOutside

/-- What a flush reports of a pipeline does not depend on the processors of other pipelines. Where it
gives reports in one world, only from a pipeline of a processor that differs something may escape in
the other one. -/
theorem flushAll_isolated (runner : Runner) {S : Ref Processor → Prop} {ps : List (Ref Pipeline)}
    {v : World} (h : AlikeOutside S r ps w v) {reports : List FlushReport}
    (hrun : Recorder.flushAll runner r ps w = .ok reports w') :
    (∃ reports' v', Recorder.flushAll runner r ps v = .ok reports' v' ∧
      ∀ (i : Nat) p, ps[i]? = some p → ¬ S (w.pipelines.get p).processor →
        reports'[i]? = reports[i]?) ∨
      ∃ p ∈ ps, S (w.pipelines.get p).processor ∧ ∃ e u v',
        Recorder.flushAll runner r ps v = .error e v' ∧ e.isInterruption = false ∧
          FlushCut runner p (u.timeoutOf r) e u v' := by
  induction ps generalizing w v reports with
  | nil =>
    obtain ⟨rfl, -⟩ := EStateM.Result.ok.inj hrun
    exact .inl ⟨[], v, rfl, by simp⟩
  | cons p rest ih =>
    simp only [Recorder.flushAll, run_bind, run_get] at hrun ⊢
    cases hw : Pipeline.flush runner p (w.recorders.get r).options.flushTimeout w with
    | error e w₁ => simp [hw] at hrun
    | ok report w₁ =>
      simp only [hw] at hrun
      cases hrest : Recorder.flushAll runner r rest w₁ with
      | error e w₂ => simp [hrest] at hrun
      | ok others w₂ =>
        simp only [hrest, run_pure] at hrun
        obtain ⟨rfl, rfl⟩ := EStateM.Result.ok.inj hrun
        obtain ⟨unescaped, hreport, -⟩ := flush_ok hw
        obtain ⟨hwp, hwr, hwq⟩ := flush_alone (h.alone p List.mem_cons_self) hw
        have timeout := h.timeout
        simp only [World.timeoutOf] at timeout
        cases hv : Pipeline.flush runner p (v.recorders.get r).options.flushTimeout v with
        | error e v₁ =>
          have cut := flush_error hv
          have differs : S (w.pipelines.get p).processor := by
            by_contra same
            have escapes := cut.escapes
            rw [timeout, h.flushEscape? same, unescaped] at escapes
            cases escapes
          have calm : (v.roleOf p).isCalm = true :=
            (Bool.and_eq_true_iff.mp (h.alone' p List.mem_cons_self)).1
          exact .inr ⟨p, List.mem_cons_self, differs, e, v, v₁, rfl,
            flushEscape?_calm calm cut.escapes, cut⟩
        | ok report' v₁ =>
          obtain ⟨-, hreport', -⟩ := flush_ok hv
          obtain ⟨hvp, hvr, hvq⟩ := flush_alone (h.alone' p List.mem_cons_self) hv
          dsimp only
          rcases ih (h.turn hwp hwr hwq hvp hvr hvq) hrest with
            ⟨others', v₂, hrest', same⟩ | ⟨q, hq, hS, e, u, v₂, hrest', cut⟩
          · refine .inl ⟨report' :: others', v₂, by rw [hrest']; rfl, ?_⟩
            intro i t ht hS
            cases i with
            | zero =>
              obtain rfl : p = t := by simpa using ht
              simp [hreport, hreport', timeout, h.flushReport hS]
            | succ i =>
              rw [← hwp] at hS
              exact same i t ht hS
          · refine .inr ⟨q, List.mem_cons_of_mem p hq, ?_, e, u, v₂, by rw [hrest'], cut⟩
            rw [← hwp]
            exact hS

end

/-! ## Flushes of recorders -/

/-- What the turns of a flush of the recorder `r` come to that begins in `w` and leaves `w'`. -/
structure FlushTurns (P : Step → Prop) (runner : Runner) (r : Ref Recorder) (w w' : World)
    (turns : List FlushTurn) : Prop where
  sound : ∀ t ∈ turns, t.Sound P runner r
  named : turns.map (·.report.pipeline) =
    (turns.map (·.pipeline)).map fun p => (w.pipelines.get p).name
  changes : Changes P w w'

/-- The flush gives the reports of its turns: the pipelines attached when it began, and no others,
have had their turns in their order. -/
structure CompleteFlush (P : Step → Prop) (runner : Runner) (r : Ref Recorder) (w w' : World)
    (turns : List FlushTurn) : Prop extends FlushTurns P runner r w w' turns where
  inOrder : turns.map (·.pipeline) = (w.recorders.get r).pipelines
  follow : ∃ v log, TakeTurns runner r unpaused w turns v ∧ w' = { v with log }

/-- The flush has failed by `e`, though no processor interrupted it: a text was missing in the turn of
a pipeline, and the pipelines after that have had none. -/
structure UnfinishedFlush (P : Step → Prop) (runner : Runner) (r : Ref Recorder) (w w' : World)
    (e : Failure) (turns : List FlushTurn) : Prop extends FlushTurns P runner r w w' turns where
  uninterrupted : e.isInterruption = false
  cause : ∃ p rest v, (w.recorders.get r).pipelines = turns.map (·.pipeline) ++ p :: rest ∧
    TakeTurns runner r unpaused w turns v ∧ FlushCut runner p (v.timeoutOf r) e v w'

theorem TakeTurns.flushTurns {P : Step → Prop} {runner : Runner} {r : Ref Recorder} {w v w' : World}
    {turns : List FlushTurn} {rest : List (Ref Pipeline)} (hr : runner.Keeps P) (hw : w.InOrder P)
    (h : TakeTurns runner r unpaused w turns v)
    (hps : (w.recorders.get r).pipelines = turns.map (·.pipeline) ++ rest)
    (later : Changes P v w') : FlushTurns P runner r w w' turns := by
  obtain ⟨changes, each⟩ := h.between hr (fun _ _ _ _ => unpaused_changes) hw
  exact
    { sound := fun t ht => (each t ht).1
      named := by
        rw [List.map_map]
        refine List.map_congr_left ?_
        intro t ht
        obtain ⟨sound, before, -⟩ := each t ht
        have known := hw.owns r t.pipeline
          (hps ▸ List.mem_append_left rest (List.mem_map_of_mem ht))
        exact sound.named.trans (before.extends.name _ known)
      changes := changes.trans later }

/-- Where no processor interrupts it, a flush of a recorder that has issued a tracer gives the reports
of its turns, whatever the processors answer and whatever their hooks do, unless a text is missing:
then it fails there. Where flushes run no hooks, what is reported of a pipeline depends on its own
processor alone. -/
theorem flush_complete {P : Step → Prop} {w : World} (hw : Reachable P w) {r : Ref Recorder}
    (issued : (w.recorders.get r).issued = true)
    (calm : ∀ p ∈ (w.recorders.get r).pipelines, (w.roleOf p).isCalm = true) (fuel : Nat) :
    ∃ turns w', (Recorder.flush (Script.runWithin fuel) r w = .ok (turns.map (·.report)) w' ∧
        CompleteFlush P (Script.runWithin fuel) r w w' turns ∧
        ∀ S v, AlikeOutside S r (w.recorders.get r).pipelines w v →
          (v.recorders.get r).issued = true →
          (v.recorders.get r).pipelines = (w.recorders.get r).pipelines →
          (∃ reports v', Recorder.flush (Script.runWithin fuel) r v = .ok reports v' ∧
            ∀ (i : Nat) p, (w.recorders.get r).pipelines[i]? = some p →
              ¬ S (w.pipelines.get p).processor → reports[i]? = (turns.map (·.report))[i]?) ∨
          ∃ p ∈ (w.recorders.get r).pipelines, S (w.pipelines.get p).processor ∧ ∃ e u v',
            Recorder.flush (Script.runWithin fuel) r v = .error e v' ∧ e.isInterruption = false ∧
              FlushCut (Script.runWithin fuel) p (u.timeoutOf r) e u v') ∨
      ∃ e, Recorder.flush (Script.runWithin fuel) r w = .error e w' ∧
        UnfinishedFlush P (Script.runWithin fuel) r w w' e turns := by
  have keeps := runWithin_keeps P fuel
  obtain ⟨turns, rest, u, hps, follow, ends⟩ :=
    flushAll_turns (Script.runWithin fuel) r (w.recorders.get r).pipelines w
  obtain ⟨changes, -⟩ := follow.between keeps (fun _ _ _ _ => unpaused_changes) hw.inOrder
  rcases ends with ⟨rfl, hall⟩ | ⟨p, more, e, w', rfl, hall, cut⟩
  · obtain ⟨log, hrun⟩ := recorderFlush_ok issued hall
    have whole := follow.flushTurns keeps hw.inOrder hps (Change.logOnly log).changes
    refine ⟨turns, _, .inl ⟨hrun, ?_, ?_⟩⟩
    · exact
        { whole with
          inOrder := (hps.trans (List.append_nil _)).symm
          follow := ⟨u, log, follow, rfl⟩ }
    · intro S v alike issued' same
      rcases flushAll_isolated (Script.runWithin fuel) alike hall with
        ⟨reports, v', hall', agree⟩ | ⟨p, hp, hS, e, u', v', hall', calm', cut⟩
      · rw [← same] at hall'
        obtain ⟨log', hrun'⟩ := recorderFlush_ok issued' hall'
        exact .inl ⟨reports, _, hrun', agree⟩
      · rw [← same] at hall'
        exact .inr ⟨p, hp, hS, e, u', v', recorderFlush_error issued' hall', calm', cut⟩
  · have hmem : p ∈ (w.recorders.get r).pipelines := by simp [hps]
    have hu := changes.inOrder hw.inOrder
    have calm' : (u.roleOf p).isCalm = true := by
      rw [changes.extends.roleOf hw.inOrder (hw.inOrder.owns r p hmem)]
      exact calm p hmem
    have whole := follow.flushTurns keeps hw.inOrder hps (cut.changes keeps hu)
    refine ⟨turns, w', .inr ⟨e, recorderFlush_error issued hall, ?_⟩⟩
    exact
      { whole with
        uninterrupted := flushEscape?_calm calm' cut.escapes
        cause := ⟨p, more, u, hps, follow, cut⟩ }

/-- The flush of the first pipeline fails; before that it attaches another one, closes the second one
and asks for a flush of its own. The third pipeline does not finish in time. -/
def troubledProgram : List Step :=
  [.newProvider "p" none
    (some [
      .make "a" (.str "a") (.scripted
        { flushes := [.raises .missingName]
          onFlush := [[.addProcessor "p" "d" (.str "d") .base, .shutdownPipeline "b",
            .forceFlush "p"]] }),
      .make "b" (.str "b") .base,
      .make "c" (.str "c") (.scripted { flushes := [.returns (.bool false)] }),
      .known "a"]) none none true,
    .getTracer "p" none (.identity { name := .str "lib" }) none]

def troubledWorld : World := (Script.run troubledProgram {}).2

theorem troubledWorld_reachable : Reachable (fun _ => True) troubledWorld := by
  rw [troubledWorld]
  exact Script.run_reachable_any _

/-- Nothing escapes from that flush. -/
theorem troubled_flush_complete :
    ∃ turns w', Recorder.flush (Script.runWithin 2) ⟨0⟩ troubledWorld =
        .ok (turns.map (·.report)) w' ∧
      CompleteFlush (fun _ => True) (Script.runWithin 2) ⟨0⟩ troubledWorld w' turns := by
  have quiet : (Recorder.flush (Script.runWithin 2) ⟨0⟩).failure? troubledWorld = none := by
    decide +kernel
  obtain ⟨turns, w', ⟨done, complete, -⟩ | ⟨e, failed, -⟩⟩ := flush_complete (r := ⟨0⟩)
    troubledWorld_reachable (by decide +kernel) (by decide +kernel) 2
  · exact ⟨turns, w', done, complete⟩
  · rw [failure?_of_error failed] at quiet
    cases quiet

/-- The flush of a recorder fails at the first of two pipelines, though no processor interrupts it, and
the processor of the second one is not called. -/
theorem unwritable_flush_unfinished :
    Reachable (fun _ => True) unwritableWorld ∧
      (unwritableWorld.recorders.get ⟨0⟩).issued = true ∧
      (∀ p ∈ (unwritableWorld.recorders.get ⟨0⟩).pipelines,
        (unwritableWorld.roleOf p).isCalm = true) ∧
      (∃ e, Recorder.flush (Script.runWithin 1) ⟨0⟩ unwritableWorld =
        .error e ((Recorder.flush (Script.runWithin 1) ⟨0⟩).after unwritableWorld) ∧
        e.isInterruption = false) ∧
      ((Recorder.flush (Script.runWithin 1) ⟨0⟩).after unwritableWorld).calls.length = 1 := by
  have fails : ((Recorder.flush (Script.runWithin 1) ⟨0⟩).failure? unwritableWorld).any
      (!·.isInterruption) = true := by
    decide +kernel
  obtain ⟨e, failed, calm⟩ := error_of_failure? fails
  exact ⟨unwritable_reachable, by decide +kernel, by decide +kernel,
    ⟨e, failed, by simpa using calm⟩, by decide +kernel⟩

end Tracing
