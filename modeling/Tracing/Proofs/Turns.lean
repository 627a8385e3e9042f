import Tracing.Proofs.Run

/-!
# Tracing.Proofs.Turns

What a shutdown of a recorder does with its pipelines, one after the other.

* `Reachable.closedByCalls` — a pipeline is closed once its processor was shut down through it, and
  not before.
* `Turn`, `Turn.Sound`   — what a shutdown does with one pipeline: flush it, report, close it.
* `TurnCut`              — something escapes from one of these, and the shutdown goes no further.
* `TurnsTaken`           — turns that follow each other, whatever hooks do.
* `closeAll_turns`       — a shutdown takes turns until it comes to the end of the list or one of them
  is cut, by induction on the list.
-/

namespace Tracing

open Act

/-! ## Closed pipelines -/

namespace World

def ShutThrough (w : World) (p : Ref Pipeline) : Prop :=
  ∃ q, .called q (some p) .shutdown ∈ w.journal

/-- The pipelines that are closed are those whose processors were shut down through them. -/
def ClosedByCalls (w : World) : Prop :=
  ∀ p, w.ShutThrough p ↔ w.pipelines.Has p ∧ (w.pipelines.get p).closed = true

end World

section

variable {P : Step → Prop} {w w' : World}

/-- Entries that are no shutdown through a pipeline make no difference. -/
theorem shutThrough_append {events : List Event} (hj : w'.journal = w.journal ++ events)
    {p : Ref Pipeline} (h : ∀ q, .called q (some p) .shutdown ∉ events) :
    w'.ShutThrough p ↔ w.ShutThrough p := by
  unfold World.ShutThrough
  rw [hj]
  constructor
  · rintro ⟨q, hq⟩
    rcases List.mem_append.mp hq with hq | hq
    · exact ⟨q, hq⟩
    · exact absurd hq (h q)
  · rintro ⟨q, hq⟩
    exact ⟨q, List.mem_append_left events hq⟩

theorem World.ClosedByCalls.of_events (hw : w.ClosedByCalls) (events : List Event)
    (hj : w'.journal = w.journal ++ events)
    (h : ∀ q p, .called q (some p) .shutdown ∉ events) (hp : w'.pipelines = w.pipelines) :
    w'.ClosedByCalls := by
  intro p
  rw [shutThrough_append hj fun q => h q p, hp]
  exact hw p

theorem World.ClosedByCalls.of_entry (hw : w.ClosedByCalls) {e : Event}
    (hj : w'.journal = w.journal ++ [e]) (h : ∀ q p, .called q (some p) .shutdown ≠ e)
    (hp : w'.pipelines = w.pipelines) : w'.ClosedByCalls :=
  hw.of_events _ hj (fun q p hmem => h q p (List.mem_singleton.mp hmem)) hp

theorem World.ClosedByCalls.of_same (hw : w.ClosedByCalls) (hj : w'.journal = w.journal)
    (hp : w'.pipelines = w.pipelines) : w'.ClosedByCalls :=
  hw.of_events [] (by simpa using hj) (by simp) hp

theorem World.ClosedByCalls.of_standing (hw : w.ClosedByCalls) (h : w.SameStanding w') :
    w'.ClosedByCalls := by
  obtain ⟨events, hj, hr⟩ := h.entries
  refine hw.of_events events hj ?_ h.samePipelines
  intro q p hmem
  have hr := hr _ hmem
  cases hr

theorem closeBegun_closedByCalls (hw : w.ClosedByCalls) {p : Ref Pipeline}
    (hp : w.pipelines.Has p) : (Pipeline.closeBegun w p).ClosedByCalls := by
  have hshape := closeBegun_shape (w := w) p
  intro t
  have has : (Pipeline.closeBegun w p).pipelines.Has t ↔ w.pipelines.Has t := by
    rw [Store.Has, Store.Has, hshape.pipelines]
  have calls : (Pipeline.closeBegun w p).ShutThrough t ↔ t = p ∨ w.ShutThrough t := by
    constructor
    · rintro ⟨q, hq⟩
      rcases List.mem_append.mp hq with hq | hq
      · exact .inr ⟨q, hq⟩
      · obtain ⟨⟩ := List.mem_singleton.mp hq
        exact .inl rfl
    · rintro (rfl | ⟨q, hq⟩)
      · exact ⟨_, List.mem_append_right _ List.mem_cons_self⟩
      · exact ⟨q, List.mem_append_left _ hq⟩
  rw [has, calls, hw t]
  by_cases ht : t = p
  · subst ht
    have hc : ((Pipeline.closeBegun w t).pipelines.get t).closed = true :=
      congrArg Pipeline.closed (w.pipelines.get_modify_self _ hp)
    simp [hp, hc]
  · have hc : (Pipeline.closeBegun w p).pipelines.get t = w.pipelines.get t :=
      w.pipelines.get_modify_ne _ ht
    simp [ht, hc]

theorem Change.closedByCalls (h : Change P w w') (hw : w.ClosedByCalls) : w'.ClosedByCalls := by
  cases h with
  | aside => exact hw.of_same rfl rfl
  | name => exact hw.of_same rfl rfl
  | addProcessor => exact hw.of_same rfl rfl
  | addPipeline q name =>
    intro p
    by_cases hn : p = w.pipelines.next
    · subst hn
      -- A pipeline that is not there yet has not been closed.
      have hnot : ¬ w.ShutThrough w.pipelines.next := fun h =>
        Nat.lt_irrefl _ ((hw _).mp h).1
      constructor
      · exact fun h => absurd h hnot
      · rintro ⟨-, hc⟩
        rw [w.pipelines.get_add_self] at hc
        cases hc
    · have has := Store.has_add_iff (a := { processor := q, name }) hn
      rw [has, w.pipelines.get_add_of_ne _ hn]
      exact hw p
  | addRecorder => exact hw.of_same rfl rfl
  | attach r p => exact hw.of_entry rfl nofun rfl
  | addHook => exact hw.of_same rfl rfl
  | takeHook => exact hw.of_same rfl rfl
  | ask _ _ r request fault => exact hw.of_standing (ask_after r request fault)
  | assign _ field v _ r => exact hw.of_standing (assign_standing r field v)
  | startSpan r scope request =>
    exact hw.of_standing (startSpan_after r scope request).toSameStanding
  | endSpan r span failed => exact hw.of_standing (endSpan_after r span failed).toSameStanding
  | flush p timeout => exact hw.of_entry rfl (by simp) rfl
  | close p isOpen => exact closeBegun_closedByCalls hw (Pipeline.has_of_open isOpen)
  | stop q => exact hw.of_entry rfl nofun rfl
  | answer number replies => exact hw.of_entry rfl nofun rfl
  | shuttingDown r => exact hw.of_entry rfl nofun rfl
  | shutDown r => exact hw.of_entry rfl nofun rfl
  | install p => exact hw.of_entry rfl nofun rfl

theorem Reachable.closedByCalls (h : Reachable P w) : w.ClosedByCalls :=
  h.invariant (fun _ p => by simp [World.ShutThrough, Store.Has, Store.size])
    fun _ change => change.closedByCalls

namespace World

def roleOf (w : World) (p : Ref Pipeline) : Role :=
  (w.processors.get (w.pipelines.get p).processor).role

theorem Extends.roleOf (h : w.Extends w') (hw : w.InOrder P) {p : Ref Pipeline}
    (hp : w.pipelines.Has p) : w'.roleOf p = w.roleOf p := by
  rw [World.roleOf, h.processor p hp, h.role _ (hw.wraps p hp), World.roleOf]

end World

/-! ## Turns -/

/-- What the shutdown of a recorder does with one pipeline: the worlds before its flush, between
its flush and its closing, and after that, and the report made. -/
structure Turn where
  pipeline : Ref Pipeline
  before : World
  flushed : World
  after : World
  report : FlushReport

def World.timeoutOf (w : World) (r : Ref Recorder) : Value :=
  (w.recorders.get r).options.flushTimeout

structure Turn.Sound (P : Step → Prop) (runner : Runner) (r : Ref Recorder) (t : Turn) : Prop where
  toFlushed : Changes P t.before t.flushed
  toAfter : Changes P t.flushed t.after
  named : t.report.pipeline = (t.before.pipelines.get t.pipeline).name
  /-- The report says that the pipeline is closed exactly if it is when its turn comes. -/
  refused : (∃ name, t.report.failure = some (.pipelineClosed name)) ↔
    (t.before.pipelines.get t.pipeline).closed = true
  /-- Nothing is done with a closed pipeline. -/
  skipped : (t.before.pipelines.get t.pipeline).closed = true →
    t.flushed = t.before ∧ t.after = t.before
  /-- The processor of an open pipeline was never shut down through it; it is flushed once, and how
  that call ends is what the report says. -/
  asked : (t.before.pipelines.get t.pipeline).closed = false →
    ¬ t.before.ShutThrough t.pipeline ∧
    t.flushed.journal =
      (Pipeline.flushEnded runner t.before t.pipeline (t.before.timeoutOf r)).journal ∧
    t.report = Pipeline.report (t.before.pipelines.get t.pipeline).name (t.before.timeoutOf r)
      (Pipeline.flushReaction t.before t.pipeline).outcome
  /-- Unless a hook of the flush closed the pipeline, its processor is shut down after that. -/
  closing : (t.flushed.pipelines.get t.pipeline).closed = false →
    t.after.journal = (Pipeline.closeEnded runner t.flushed t.pipeline).journal
  closed : (t.after.pipelines.get t.pipeline).closed = true
  /-- Nothing escapes from it. -/
  unescaped : t.before.flushEscape? t.pipeline (t.before.timeoutOf r) = none ∧
    t.flushed.closeEscape? t.pipeline = none

theorem Turn.Sound.changes {runner : Runner} {r : Ref Recorder} {t : Turn}
    (h : t.Sound P runner r) : Changes P t.before t.after :=
  h.toFlushed.trans h.toAfter

def Follow : World → List Turn → World → Prop
  | w, [], w' => w' = w
  | w, t :: rest, w' => t.before = w ∧ Follow t.after rest w'

theorem Turn.sound {runner : Runner} (hr : runner.Keeps P) (hw : Reachable P w) {r : Ref Recorder}
    {p : Ref Pipeline} {report : FlushReport} {flushed after : World}
    (hflush : Pipeline.flush runner p (w.timeoutOf r) w = .ok report flushed)
    (hclose : Pipeline.close runner p flushed = .ok () after) :
    Turn.Sound P runner r ⟨p, w, flushed, after, report⟩ := by
  have toFlushed := ((flush_leads hr hw.inOrder p _).of_eq hflush).1
  obtain ⟨toAfter, closed⟩ := (close_leads hr (hw.changes toFlushed).inOrder p).of_eq hclose
  obtain ⟨unescaped, hreport, log, hflushed⟩ := flush_ok hflush
  obtain ⟨unescaped', log', hafter⟩ := close_ok hclose
  cases hc : (w.pipelines.get p).closed with
  | true =>
    simp only [World.flushEscape?, hc, if_true] at unescaped
    rw [Pipeline.flush_closed hc unescaped] at hflush
    obtain ⟨rfl, rfl⟩ := EStateM.Result.ok.inj hflush
    rw [Pipeline.close_closed hc] at hclose
    obtain ⟨-, rfl⟩ := EStateM.Result.ok.inj hclose
    exact
      { toFlushed := toFlushed
        toAfter := toAfter
        named := rfl
        refused := iff_of_true ⟨_, rfl⟩ hc
        skipped := fun _ => ⟨rfl, rfl⟩
        asked := fun h => absurd hc (by simpa using h)
        closing := fun h => absurd hc (by simpa using h)
        closed := closed
        unescaped := ⟨by simpa only [World.flushEscape?, hc, if_true] using unescaped, unescaped'⟩ }
  | false =>
    simp only [World.flushReport, hc, Bool.false_eq_true, if_false] at hreport
    simp only [World.flushOver, hc, Bool.false_eq_true, if_false] at hflushed
    exact
      { toFlushed := toFlushed
        toAfter := toAfter
        named := hreport ▸ Pipeline.report_pipeline ..
        refused := by
          refine iff_of_false ?_ (by simpa using hc)
          rintro ⟨n, hn⟩
          rw [hreport] at hn
          exact Pipeline.report_not_closed _ _ _ _ hn
        skipped := fun h => absurd hc (by simpa using h)
        asked := fun _ => ⟨fun h => by simp [((hw.closedByCalls p).mp h).2] at hc,
          by rw [hflushed], hreport⟩
        closing := fun h => by
          rw [hafter, World.closeOver, h]
          rfl
        closed := closed
        unescaped := ⟨unescaped, unescaped'⟩ }

/-! ## Turns that are not completed -/

/-- In the flush of the pipeline `p` that begins in `w` the failure `e` escapes. It leaves `w'`. -/
structure FlushCut (runner : Runner) (p : Ref Pipeline) (timeout : Value) (e : Failure)
    (w w' : World) : Prop where
  escapes : w.flushEscape? p timeout = some e
  ended : w' = w.flushOver runner p timeout
  /-- An interruption comes from the processor of an open pipeline. -/
  raised : e.isInterruption = true → (w.pipelines.get p).closed = false ∧
    (Pipeline.flushReaction w p).outcome = .error e

/-- The same of the shutdown of a pipeline, which closes it first. -/
structure CloseCut (runner : Runner) (p : Ref Pipeline) (e : Failure) (w w' : World) : Prop where
  escapes : w.closeEscape? p = some e
  isOpen : (w.pipelines.get p).closed = false
  ended : w' = Pipeline.closeEnded runner w p
  raised : e.isInterruption = true → (Pipeline.closeReaction w p).outcome = .error e

/-- The turn of the pipeline `p` that begins in `w` is not completed: `e` escapes from its flush, or
from closing it after that. -/
inductive TurnCut (P : Step → Prop) (runner : Runner) (r : Ref Recorder) (p : Ref Pipeline)
    (e : Failure) (w w' : World) : Prop where
  | flushing (cut : FlushCut runner p (w.timeoutOf r) e w w')
  | closing (flushed : World) (changes : Changes P w flushed)
      (unescaped : w.flushEscape? p (w.timeoutOf r) = none)
      (taken : ∃ log, flushed = { w.flushOver runner p (w.timeoutOf r) with log })
      (cut : CloseCut runner p e flushed w')

theorem flush_error {runner : Runner} {p : Ref Pipeline} {timeout : Value} {e : Failure}
    (h : Pipeline.flush runner p timeout w = .error e w') : FlushCut runner p timeout e w w' := by
  obtain ⟨escapes, ended⟩ := flush_error_iff.mp h
  exact ⟨escapes, ended, World.flushEscape?_interruption escapes⟩

theorem close_error {runner : Runner} {p : Ref Pipeline} {e : Failure}
    (h : Pipeline.close runner p w = .error e w') : CloseCut runner p e w w' := by
  obtain ⟨escapes, ended⟩ := close_error_iff.mp h
  have isOpen := World.closeEscape?_open escapes
  refine ⟨escapes, isOpen, ?_, World.closeEscape?_interruption escapes⟩
  rw [ended, World.closeOver, isOpen]
  rfl

theorem FlushCut.changes {runner : Runner} (hr : runner.Keeps P) (hw : w.InOrder P)
    {p : Ref Pipeline} {timeout : Value} {e : Failure} (h : FlushCut runner p timeout e w w') :
    Changes P w w' := by
  have changes := (flush_leads hr hw p timeout).after
  rwa [after_of_error (flush_error_iff.mpr ⟨h.escapes, h.ended⟩)] at changes

theorem CloseCut.changes {runner : Runner} (hr : runner.Keeps P) (hw : w.InOrder P)
    {p : Ref Pipeline} {e : Failure} (h : CloseCut runner p e w w') : Changes P w w' := by
  rw [h.ended]
  exact closeEnded_changes hr hw h.isOpen

theorem CloseCut.closed {runner : Runner} (hr : runner.Keeps P) (hw : w.InOrder P)
    {p : Ref Pipeline} {e : Failure} (h : CloseCut runner p e w w') :
    (w'.pipelines.get p).closed = true := by
  rw [h.ended]
  exact closeEnded_closed hr hw h.isOpen

theorem TurnCut.changes {runner : Runner} (hr : runner.Keeps P) (hw : w.InOrder P)
    {r : Ref Recorder} {p : Ref Pipeline} {e : Failure} (h : TurnCut P runner r p e w w') :
    Changes P w w' := by
  cases h with
  | flushing cut => exact cut.changes hr hw
  | closing flushed changes _ _ cut => exact changes.trans (cut.changes hr (changes.inOrder hw))

/-! ## Turns that follow each other -/

/-- Turns lead from `w` to `v`. -/
structure TurnsTaken (P : Step → Prop) (runner : Runner) (r : Ref Recorder) (w : World)
    (turns : List Turn) (v : World) : Prop where
  follow : Follow w turns v
  changes : Changes P w v
  each : ∀ t ∈ turns, t.Sound P runner r ∧ Changes P w t.before ∧ Changes P t.after v
  ordered : turns.Pairwise fun a b => Changes P a.after b.before

namespace TurnsTaken

variable {runner : Runner} {r : Ref Recorder} {turns : List Turn} {v : World}

theorem nil : TurnsTaken P runner r w [] w where
  follow := rfl
  changes := .refl
  each := by simp
  ordered := .nil

theorem cons {t : Turn} (ht : t.Sound P runner r) (h : TurnsTaken P runner r t.after turns v) :
    TurnsTaken P runner r t.before (t :: turns) v where
  follow := ⟨rfl, h.follow⟩
  changes := ht.changes.trans h.changes
  each t' ht' := by
    rcases List.mem_cons.mp ht' with rfl | ht'
    · exact ⟨ht, .refl, h.changes⟩
    · obtain ⟨sound, before, after⟩ := h.each t' ht'
      exact ⟨sound, ht.changes.trans before, after⟩
  ordered := .cons (fun t' ht' => (h.each t' ht').2.1) h.ordered

variable (h : TurnsTaken P runner r w turns v) (has : ∀ t ∈ turns, w.pipelines.Has t.pipeline)

include h has

/-- The pipelines of the turns are closed for good. -/
theorem closed {w' : World} (later : Changes P v w') :
    ∀ t ∈ turns, (w'.pipelines.get t.pipeline).closed = true := by
  intro t ht
  obtain ⟨sound, before, after⟩ := h.each t ht
  have taken : Changes P w t.after := before.trans sound.changes
  have toEnd : Changes P t.after w' := after.trans later
  exact toEnd.extends.shut _ (taken.extends.hasPipeline (has t ht)) sound.closed

theorem named : turns.map (·.report.pipeline) =
    (turns.map (·.pipeline)).map fun p => (w.pipelines.get p).name := by
  rw [List.map_map]
  refine List.map_congr_left ?_
  intro t ht
  obtain ⟨sound, before, -⟩ := h.each t ht
  exact sound.named.trans (before.extends.name _ (has t ht))

/-- A pipeline that had a turn before is found closed. -/
theorem repeated : turns.Pairwise fun a b => a.pipeline = b.pipeline →
    (b.before.pipelines.get b.pipeline).closed = true :=
  h.ordered.imp_of_mem fun {a b} ha _ hab same => by
    obtain ⟨sound, before, -⟩ := h.each a ha
    have taken : Changes P w a.after := before.trans sound.changes
    rw [← same]
    exact hab.extends.shut _ (taken.extends.hasPipeline (has a ha)) sound.closed

end TurnsTaken

/-- Turns are taken until none is left or one is cut. -/
theorem closeAll_turns {runner : Runner} (hr : runner.Keeps P) (hw : Reachable P w)
    (r : Ref Recorder) (ps : List (Ref Pipeline)) :
    ∃ turns rest v, ps = turns.map (·.pipeline) ++ rest ∧ TurnsTaken P runner r w turns v ∧
      ((rest = [] ∧ Recorder.closeAll runner r ps w = .ok (turns.map (·.report)) v) ∨
        ∃ p more e w', rest = p :: more ∧ Recorder.closeAll runner r ps w = .error e w' ∧
          TurnCut P runner r p e v w') := by
  induction ps generalizing w with
  | nil => exact ⟨[], [], w, rfl, .nil, .inl ⟨rfl, rfl⟩⟩
  | cons p rest ih =>
    simp only [Recorder.closeAll, run_bind, run_get]
    cases hflush : Pipeline.flush runner p (w.recorders.get r).options.flushTimeout w with
    | error e w' =>
      exact ⟨[], p :: rest, w, rfl, .nil, .inr ⟨p, rest, e, w', rfl, rfl,
        .flushing (flush_error hflush)⟩⟩
    | ok report flushed =>
      have toFlushed := ((flush_leads hr hw.inOrder p _).of_eq hflush).1
      obtain ⟨unescaped, -, given⟩ := flush_ok hflush
      dsimp only
      cases hclose : Pipeline.close runner p flushed with
      | error e w' =>
        exact ⟨[], p :: rest, w, rfl, .nil, .inr ⟨p, rest, e, w', rfl, rfl,
          .closing flushed toFlushed unescaped given (close_error hclose)⟩⟩
      | ok _ after =>
        dsimp only
        have sound := Turn.sound (r := r) hr hw hflush hclose
        obtain ⟨turns, more, v, rfl, taken, ends⟩ := ih (hw.changes sound.changes)
        refine ⟨⟨p, w, flushed, after, report⟩ :: turns, more, v, rfl, .cons sound taken, ?_⟩
        dsimp only at ends
        rcases ends with ⟨rfl, hrun⟩ | ⟨q, more, e, w', rfl, hrun, cut⟩
        · exact .inl ⟨rfl, by rw [hrun]; rfl⟩
        · exact .inr ⟨q, more, e, w', rfl, by rw [hrun], cut⟩

end

end Tracing
