import Tracing.Proofs.Order

/-!
# Tracing.Proofs.Hooks

Operations that run hooks lead along whatever relation of worlds their hooks lead along.

* `World.SameExits` — no exit hook comes or goes, and no shutdown is completed.
* `AllowsCalls P R` — worlds may follow each other along `R` by calls of processors and by whole
  shutdowns of recorders. Changes are such a relation.
* `Runner.Follows P R` — the steps of hooks and bodies lead along `R`, if they satisfy `P`.
* `flush_leads`, `close_leads`, `stop_leads` — calls of processors.
* `Recorder.shutdown_closed`, `Recorder.shutdown_open` — what a shutdown of a recorder comes to.
  `shutdown_done`, `shutdown_unsaid`, `shutdown_cut` — the latter by cases.
* `recorderFlush_leads`, `closeAll_leads`, `shutdown_leads` — operations on recorders.
-/

namespace Tracing

open Act

/-- The recorder whose first shutdown an entry says is complete. -/
def Event.completes : Event → Option (Ref Recorder)
  | .shutDown r => some r
  | _ => none

namespace World

/-- The recorders whose first shutdown is complete, in the order in which it was. -/
def completed (w : World) : List (Ref Recorder) := w.journal.filterMap Event.completes

structure SameExits (w w' : World) : Prop where
  exitHooks : w'.exitHooks = w.exitHooks
  completed : w'.completed = w.completed

namespace SameExits

variable {w w' : World}

theorem of_entries {events : List Event} (hooks : w'.exitHooks = w.exitHooks)
    (hj : w'.journal = w.journal ++ events) (he : ∀ e ∈ events, e.completes = none) :
    w.SameExits w' where
  exitHooks := hooks
  completed := by
    have none : events.filterMap Event.completes = [] := List.filterMap_eq_nil_iff.mpr he
    rw [World.completed, hj, List.filterMap_append, none, List.append_nil, World.completed]

theorem of_entry {e : Event} (hooks : w'.exitHooks = w.exitHooks)
    (hj : w'.journal = w.journal ++ [e]) (he : e.completes = none) : w.SameExits w' := by
  refine of_entries hooks hj ?_
  intro t ht
  rw [List.mem_singleton.mp ht, he]

/-- Tracers and spans complete no shutdown. -/
theorem of_standing (h : w.SameStanding w') : w.SameExits w' := by
  obtain ⟨events, hj, routine⟩ := h.entries
  refine of_entries h.exitHooks hj ?_
  intro e he
  have hr := routine e he
  cases e <;> first | rfl | cases hr

end SameExits

end World

instance (P : Step → Prop) : IsPreorder World (Changes P) where
  refl _ := .refl
  trans _ _ _ := .trans

/-- A way in which worlds may follow each other, by changes, in which calls of processors and whole
shutdowns are allowed. A shutdown is completed only as the last part of one that began, and all this
leaves the catalog as it is. -/
class AllowsCalls (P : outParam (Step → Prop)) (R : World → World → Prop) : Prop extends
    IsPreorder World R where
  changes : ∀ {w w'}, w.InOrder P → R w w' → Changes P w w'
  change : ∀ {w w'}, Change P w w' → w.SameExits w' → w'.catalog = w.catalog → R w w'
  complete : ∀ {w w' r}, w.InOrder P → (w.recorders.get r).closed = false →
    R (w.shuttingDown r) w' →
    (∀ p ∈ (w.recorders.get r).pipelines, (w'.pipelines.get p).closed = true) →
    R w (w'.shutDown r)

/-- From a world in order, steps that satisfy `P` lead along `R`. -/
def Runner.Follows (P : Step → Prop) (R : World → World → Prop) (runner : Runner) : Prop :=
  ∀ steps w, w.InOrder P → Step.EveryIn P steps → R w (runner steps w).2

/-- From a world in order, steps that satisfy `P` lead along changes. -/
def Runner.Keeps (P : Step → Prop) (runner : Runner) : Prop :=
  ∀ steps w, w.InOrder P → Step.EveryIn P steps → Changes P w (runner steps w).2

namespace Act.Leads

variable {α : Type} {R : World → World → Prop} {Q : α → World → Prop} {w : World}

theorem of_after {x : Act α} (h : R w (x.after w)) (hq : ∀ a w', x w = .ok a w' → Q a w') :
    Leads R Q x w := by
  cases hx : x w with
  | ok a w' =>
    rw [after_of_ok hx] at h
    exact of_ok hx h (hq a w' hx)
  | error e w' =>
    rw [after_of_error hx] at h
    exact of_error hx h

end Act.Leads

section

variable {P : Step → Prop} {R : World → World → Prop} {runner : Runner} {w w' : World}

theorem Change.changes (h : Change P w w') : Changes P w w' := .single h

/-- The beginning of a shutdown is entered with the pipelines that it is to close. -/
theorem shuttingDown_completes {r : Ref Recorder}
    (changes : Changes P (w.shuttingDown r) w')
    (closed : ∀ p ∈ (w.recorders.get r).pipelines, (w'.pipelines.get p).closed = true) :
    Change P w' (w'.shutDown r) := by
  have entry : .shuttingDown r (w.recorders.get r).pipelines ∈ (w.shuttingDown r).journal := by
    simp [World.shuttingDown, World.entered]
  exact .shutDown r _ (changes.extends.journal.subset entry) closed

instance : AllowsCalls P (Changes P) where
  changes _ h := h
  change h _ _ := .single h
  complete _ isOpen h closed :=
    ((Change.shuttingDown _ isOpen).changes.trans h).tail (shuttingDown_completes h closed)

theorem World.InOrder.along [AllowsCalls P R] (hw : w.InOrder P) (h : R w w') : w'.InOrder P :=
  (AllowsCalls.changes hw h).inOrder hw

theorem World.InOrder.extends [AllowsCalls P R] (hw : w.InOrder P) (h : R w w') : w.Extends w' :=
  (AllowsCalls.changes hw h).extends

theorem Change.allowed [AllowsCalls P R] (h : Change P w w') (same : w.SameExits w')
    (catalog : w'.catalog = w.catalog := by rfl) : R w w' :=
  AllowsCalls.change h same catalog

theorem Change.allowed_standing [AllowsCalls P R] (h : Change P w w')
    (standing : w.SameStanding w') : R w w' :=
  h.allowed (.of_standing standing) standing.catalog

theorem Change.logOnly (log : List LogRecord) : Change P w { w with log } :=
  .aside log w.current w.catalog w.idles

theorem logged_allowed [AllowsCalls P R] (log : List LogRecord) : R w { w with log } :=
  (Change.logOnly log).allowed ⟨rfl, rfl⟩

theorem say_leads [AllowsCalls P R] (level : Level) (logger : String) (message : Wording) :
    Leads R Any (say level logger message) w := by
  have hrun := run_say (m := message) (w := w) level logger
  cases hf : message.fault? with
  | none =>
    rw [hf] at hrun
    exact Leads.of_ok hrun (logged_allowed (P := P) _) trivial
  | some e =>
    rw [hf] at hrun
    exact Leads.of_error hrun (refl_of R w)

theorem flushBegun_allowed [AllowsCalls P R] {p : Ref Pipeline} (timeout : Value)
    (hc : (w.pipelines.get p).closed = false) : R w (Pipeline.flushBegun w p timeout) :=
  (Change.flush p timeout hc).allowed (.of_entry rfl rfl rfl)

theorem closeBegun_allowed [AllowsCalls P R] {p : Ref Pipeline}
    (hc : (w.pipelines.get p).closed = false) : R w (Pipeline.closeBegun w p) :=
  (Change.close p hc).allowed (.of_entry rfl rfl rfl)

theorem shuttingDown_allowed [AllowsCalls P R] {r : Ref Recorder}
    (hc : (w.recorders.get r).closed = false) : R w (w.shuttingDown r) :=
  (Change.shuttingDown r hc).allowed (.of_entry rfl rfl rfl)

variable [AllowsCalls P R]

/-! ## Hooks -/

theorem hooked_changes (hr : runner.Follows P R) (hw : w.InOrder P) (number : Nat)
    {hook : Option (List Step)} (hh : ∀ steps, hook = some steps → Step.EveryIn P steps) :
    R w (World.hooked runner number hook w) := by
  cases hook with
  | none => exact refl_of R w
  | some steps =>
    have answered : Change P (runner steps w).2 _ := .answer number (runner steps w).1
    exact trans_of R (hr steps w hw (hh steps rfl))
      (answered.allowed (.of_entry rfl rfl rfl))

theorem flushHooked_changes (hr : runner.Follows P R) (hw : w.InOrder P) {p : Ref Pipeline}
    (timeout : Value) (hc : (w.pipelines.get p).closed = false) :
    R (Pipeline.flushBegun w p timeout) (Pipeline.flushEnded runner w p timeout) := by
  have begun : R w (Pipeline.flushBegun w p timeout) := flushBegun_allowed timeout hc
  exact hooked_changes hr (hw.along begun) _ fun _ hs =>
    Processor.onForceFlush_hook (hw.hooks _) hs

theorem flushEnded_changes (hr : runner.Follows P R) (hw : w.InOrder P) {p : Ref Pipeline}
    (timeout : Value) (hc : (w.pipelines.get p).closed = false) :
    R w (Pipeline.flushEnded runner w p timeout) :=
  trans_of R (flushBegun_allowed timeout hc) (flushHooked_changes hr hw timeout hc)

theorem closeHooked_changes (hr : runner.Follows P R) (hw : w.InOrder P) {p : Ref Pipeline}
    (hc : (w.pipelines.get p).closed = false) :
    R (Pipeline.closeBegun w p) (Pipeline.closeEnded runner w p) := by
  have begun : R w (Pipeline.closeBegun w p) := closeBegun_allowed hc
  exact hooked_changes hr (hw.along begun) _ fun _ hs =>
    Processor.onShutdown_hook (hw.hooks _) hs

theorem closeEnded_changes (hr : runner.Follows P R) (hw : w.InOrder P) {p : Ref Pipeline}
    (hc : (w.pipelines.get p).closed = false) : R w (Pipeline.closeEnded runner w p) :=
  trans_of R (closeBegun_allowed hc) (closeHooked_changes hr hw hc)

/-! ## Pipelines -/

theorem flush_leads (hr : runner.Follows P R) (hw : w.InOrder P) (p : Ref Pipeline)
    (timeout : Value) : Leads R Any (Pipeline.flush runner p timeout) w := by
  cases hc : (w.pipelines.get p).closed with
  | true =>
    cases hu : (w.pipelines.get p).name.unwritten? with
    | none => exact Leads.of_ok (Pipeline.flush_closed hc hu) (refl_of R w) trivial
    | some e => exact Leads.of_error (Pipeline.flush_unnamed hc hu) (refl_of R w)
  | false =>
    have ended := flushEnded_changes hr hw timeout hc
    cases he : Pipeline.flushEscape? (w.pipelines.get p).name timeout
        (Pipeline.flushReaction w p).outcome with
    | some e => exact Leads.of_error (Pipeline.flush_cut hc he) ended
    | none =>
      obtain ⟨log, hrun⟩ := Pipeline.flush_open runner timeout hc he
      exact Leads.of_ok hrun (trans_of R ended (logged_allowed log)) trivial

/-- Once the call is over, the pipeline is closed. -/
theorem closeEnded_closed (hr : runner.Follows P R) (hw : w.InOrder P) {p : Ref Pipeline}
    (hc : (w.pipelines.get p).closed = false) :
    ((Pipeline.closeEnded runner w p).pipelines.get p).closed = true := by
  have begun : R w (Pipeline.closeBegun w p) := closeBegun_allowed hc
  have hooked := (hw.along begun).extends (closeHooked_changes hr hw hc)
  exact hooked.shut p ((hw.extends begun).hasPipeline (Pipeline.has_of_open hc))
    (Pipeline.closeBegun_closed hc)

theorem close_leads (hr : runner.Follows P R) (hw : w.InOrder P) (p : Ref Pipeline) :
    Leads R (fun _ w' => (w'.pipelines.get p).closed = true) (Pipeline.close runner p) w := by
  cases hc : (w.pipelines.get p).closed with
  | true => exact Leads.of_ok (Pipeline.close_closed hc) (refl_of R w) hc
  | false =>
    have ended := closeEnded_changes hr hw hc
    cases he : Pipeline.closeEscape? (w.pipelines.get p).name
        (Pipeline.closeReaction w p).outcome with
    | some e => exact Leads.of_error (Pipeline.close_cut hc he) ended
    | none =>
      obtain ⟨log, hrun⟩ := Pipeline.close_open runner hc he
      exact Leads.of_ok hrun (trans_of R ended (logged_allowed log))
        (closeEnded_closed hr hw hc)

theorem stop_leads (hr : runner.Follows P R) (hw : w.InOrder P) (q : Ref Processor) :
    Leads R Any (Delivery.shutdown runner q none) w := by
  have begun : R w (w.called q none .shutdown (w.processors.get q).onShutdown.processor) :=
    (Change.stop q).allowed (.of_entry rfl rfl rfl)
  have ended := trans_of R begun (hooked_changes hr (hw.along begun) w.calls.length
    fun _ hs => Processor.onShutdown_hook (hw.hooks q) hs)
  have hrun := Delivery.call_run runner q none .shutdown Processor.onShutdown w
  cases ho : (w.processors.get q).onShutdown.outcome with
  | ok v =>
    rw [ho] at hrun
    exact Leads.of_ok hrun ended trivial
  | error e =>
    rw [ho] at hrun
    exact Leads.of_error hrun ended

/-! ## Recorders -/

theorem flushAll_leads (hr : runner.Follows P R) (hw : w.InOrder P) (r : Ref Recorder)
    (ps : List (Ref Pipeline)) : Leads R Any (Recorder.flushAll runner r ps) w := by
  induction ps generalizing w with
  | nil => exact Leads.pure trivial
  | cons p rest ih =>
    refine Leads.get ((flush_leads hr hw p _).bind fun report w' h _ => ?_)
    exact (ih (hw.along h)).bind fun _ _ _ _ => Leads.pure trivial

theorem recorderFlush_leads (hr : runner.Follows P R) (hw : w.InOrder P) (r : Ref Recorder) :
    Leads R Any (Recorder.flush runner r) w := by
  refine Leads.get ?_
  dsimp only
  split
  · exact Leads.pure trivial
  · refine (flushAll_leads hr hw r _).bind ?_
    intro reports _ _ _
    split
    · exact (say_leads ..).bind fun _ _ _ _ => Leads.pure trivial
    · exact Leads.pure trivial

/-- Every pipeline of the list is closed in the end. -/
theorem closeAll_leads (hr : runner.Follows P R) (hw : w.InOrder P) (r : Ref Recorder)
    {ps : List (Ref Pipeline)} (hp : ∀ p ∈ ps, w.pipelines.Has p) :
    Leads R (fun _ w' => ∀ p ∈ ps, (w'.pipelines.get p).closed = true)
      (Recorder.closeAll runner r ps) w := by
  induction ps generalizing w with
  | nil => exact Leads.pure (by simp)
  | cons p rest ih =>
    refine Leads.get ((flush_leads hr hw p _).bind fun report w₁ h₁ _ => ?_)
    have hw₁ := hw.along h₁
    refine (close_leads hr hw₁ p).bind ?_
    intro _ w₂ h₂ hc
    have hw₂ := hw₁.along h₂
    have has₂ : ∀ t ∈ p :: rest, w₂.pipelines.Has t := fun t ht =>
      (hw.extends (trans_of R h₁ h₂)).hasPipeline (hp t ht)
    have rest_leads := ih hw₂ fun t ht => has₂ t (List.mem_cons_of_mem p ht)
    refine rest_leads.bind fun _ w₃ h₃ hall => Leads.pure ?_
    intro t ht
    cases ht with
    | head => exact (hw₂.extends h₃).shut p (has₂ p List.mem_cons_self) hc
    | tail _ ht => exact hall t ht

theorem Recorder.shutdown_closed {r : Ref Recorder} (h : (w.recorders.get r).closed = true) :
    Recorder.shutdown runner r w = .ok [] w := by
  simp [Recorder.shutdown, run_bind, h]

theorem Recorder.shutdown_open (runner : Runner) {r : Ref Recorder}
    (h : (w.recorders.get r).closed = false) :
    Recorder.shutdown runner r w =
      match Recorder.closeAll runner r (w.recorders.get r).pipelines (w.shuttingDown r) with
      | .ok reports w' =>
        match (w'.recorders.get r).options.serviceName.unwritten? with
        | none => .ok reports ((w'.shutDown r).logged
            [⟨.info, Recorder.logger, "SdkTracerProvider for service " ++
              (w'.recorders.get r).options.serviceName.text ++
              s!" shut down ({(w.recorders.get r).pipelines.length} pipeline(s))"⟩])
        | some e => .error e (w'.shutDown r)
      | .error e w' => .error e w' := by
  cases hx : Recorder.closeAll runner r (w.recorders.get r).pipelines (w.shuttingDown r) with
  | ok reports w' =>
    rw [World.shuttingDown, World.withRecorder, World.entered] at hx
    cases hu : (w'.recorders.get r).options.serviceName.unwritten? <;>
      simp [Recorder.shutdown, run_bind, run_map, h, modifyRecorder, note, hx, run_say,
        Value.wording, hu, World.shutDown, World.entered, World.logged]
  | error e w' =>
    rw [World.shuttingDown, World.withRecorder, World.entered] at hx
    simp [Recorder.shutdown, run_bind, h, modifyRecorder, note, hx]

section

variable {r : Ref Recorder} {reports : List FlushReport} {e : Failure}

/-- All pipelines have been flushed and closed, and the record of it is written. -/
theorem Recorder.shutdown_done (h : (w.recorders.get r).closed = false)
    (hx : Recorder.closeAll runner r (w.recorders.get r).pipelines (w.shuttingDown r) =
      .ok reports w')
    (hu : (w'.recorders.get r).options.serviceName.unwritten? = none) :
    ∃ records, Recorder.shutdown runner r w = .ok reports ((w'.shutDown r).logged records) := by
  have hrun := Recorder.shutdown_open runner h
  rw [hx] at hrun
  dsimp only at hrun
  rw [hu] at hrun
  exact ⟨_, hrun⟩

/-- The record cannot be written, when everything else has been done. -/
theorem Recorder.shutdown_unsaid (h : (w.recorders.get r).closed = false)
    (hx : Recorder.closeAll runner r (w.recorders.get r).pipelines (w.shuttingDown r) =
      .ok reports w')
    (hu : (w'.recorders.get r).options.serviceName.unwritten? = some e) :
    Recorder.shutdown runner r w = .error e (w'.shutDown r) := by
  have hrun := Recorder.shutdown_open runner h
  rw [hx] at hrun
  dsimp only at hrun
  rw [hrun, hu]

/-- Something escapes from a pipeline. -/
theorem Recorder.shutdown_cut (h : (w.recorders.get r).closed = false)
    (hx : Recorder.closeAll runner r (w.recorders.get r).pipelines (w.shuttingDown r) =
      .error e w') : Recorder.shutdown runner r w = .error e w' := by
  rw [Recorder.shutdown_open runner h, hx]

end

/-- From its beginning on a shutdown closes the pipelines that the recorder has then. -/
theorem closing_leads (hr : runner.Follows P R) (hw : w.InOrder P) {r : Ref Recorder}
    (hc : (w.recorders.get r).closed = false) :
    Leads R (fun _ w' => ∀ p ∈ (w.recorders.get r).pipelines, (w'.pipelines.get p).closed = true)
      (Recorder.closeAll runner r (w.recorders.get r).pipelines) (w.shuttingDown r) := by
  have begun : R w (w.shuttingDown r) := shuttingDown_allowed hc
  exact closeAll_leads hr (hw.along begun) r (hw.owns r)

theorem shutdown_leads (hr : runner.Follows P R) (hw : w.InOrder P) (r : Ref Recorder) :
    Leads R Any (Recorder.shutdown runner r) w := by
  cases hc : (w.recorders.get r).closed with
  | true => exact Leads.of_ok (Recorder.shutdown_closed hc) (refl_of R w) trivial
  | false =>
    have closing := closing_leads hr hw hc
    cases hx : Recorder.closeAll runner r (w.recorders.get r).pipelines (w.shuttingDown r) with
    | ok reports w' =>
      obtain ⟨closing, closed⟩ := closing.of_eq hx
      have complete := AllowsCalls.complete hw hc closing closed
      cases hu : (w'.recorders.get r).options.serviceName.unwritten? with
      | none =>
        obtain ⟨records, hrun⟩ := Recorder.shutdown_done hc hx hu
        exact Leads.of_ok hrun (trans_of R complete (logged_allowed _)) trivial
      | some e => exact Leads.of_error (Recorder.shutdown_unsaid hc hx hu) complete
    | error e w' =>
      have closing := closing.after
      rw [after_of_error hx] at closing
      exact Leads.of_error (Recorder.shutdown_cut hc hx)
        (trans_of R (shuttingDown_allowed hc) closing)

end

section

variable {P : Step → Prop} {runner : Runner} {w : World} {r : Ref Recorder}

/-- Once all pipelines have been closed the shutdown is complete. -/
theorem closeAll_done (hr : runner.Keeps P) (hw : w.InOrder P)
    (hc : (w.recorders.get r).closed = false) {reports : List FlushReport} {w' : World}
    (h : Recorder.closeAll runner r (w.recorders.get r).pipelines (w.shuttingDown r) =
      .ok reports w') : Changes P (w.shuttingDown r) w' ∧ Change P w' (w'.shutDown r) := by
  obtain ⟨changes, closed⟩ := (closing_leads hr hw hc).of_eq h
  exact ⟨changes, shuttingDown_completes changes closed⟩

/-- Where a shutdown that does something leaves off, be it cut short, comes after its beginning. -/
theorem shutdown_after (hr : runner.Keeps P) (hw : w.InOrder P)
    (hc : (w.recorders.get r).closed = false) :
    Changes P (w.shuttingDown r) ((Recorder.shutdown runner r).after w) := by
  have closing := (closing_leads hr hw hc).after
  cases hx : Recorder.closeAll runner r (w.recorders.get r).pipelines (w.shuttingDown r) with
  | ok reports w' =>
    obtain ⟨changes, done⟩ := closeAll_done hr hw hc hx
    cases hu : (w'.recorders.get r).options.serviceName.unwritten? with
    | none =>
      obtain ⟨records, hrun⟩ := Recorder.shutdown_done hc hx hu
      rw [after_of_ok hrun]
      exact (changes.tail done).tail (.logOnly _)
    | some e =>
      rw [after_of_error (Recorder.shutdown_unsaid hc hx hu)]
      exact changes.tail done
  | error e w' =>
    rw [after_of_error hx] at closing
    rw [after_of_error (Recorder.shutdown_cut hc hx)]
    exact closing

end

end Tracing
