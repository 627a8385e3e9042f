import Tracing.Proofs.Run

/-!
# Tracing.Proofs.ExitHooks

The exit hooks follow the recorders that are not shut down yet.

* `Deed P`     — a change in which recorders are made as a whole, and exit hooks are taken by the
  steps that run them alone. `Deeds P` — any number of them, `Attained P` from the start.
* `Script.run_attained` — whatever a program does, it stays among the attained worlds.
* `Deed.exits_cases` — what one deed does to the exit hooks.
* `World.ExitsInOrder`, `Attained.exitsInOrder` — no hook stands twice, or for a recorder that has
  been shut down.
* `Spares P r` — changes by which a shutdown of `r` that began earlier is not completed.
* `exits_tracked` — before exit a hook stands for each recorder that was made with one and whose
  first shutdown is not complete, and for no other.
-/

namespace Tracing

open Act

/-! ## Making and creating -/

/-- Where a plan was carried out a recorder is there, and its hook if the plan says so. A call that
cannot write the record of this fails all the same. -/
theorem make_exits (plan : Recorder.Plan) (w : World) :
    (∃ e, Recorder.make plan w = .error e w) ∨
      ∃ w', Recorder.make plan w = (match plan.options.serviceName.unwritten? with
          | none => .ok w.recorders.next w'
          | some e => .error e w') ∧
        w'.recorders.Has w.recorders.next ∧ w'.completed = w.completed ∧
        w'.exitHooks = if plan.onExit then w.exitHooks ++ [w.recorders.next] else w.exitHooks := by
  rcases make_cases plan w with failed | ⟨resource, ps, processors, pipelines, log, -, -, hrun⟩
  · exact .inl failed
  · right
    have has : (w.recorders.add (plan.recorder resource ps { w with processors, pipelines, log })).Has
        w.recorders.next := by simp [Store.Has, Store.next]
    have none : ps.filterMap (Event.completes ∘ Event.attached w.recorders.next) = [] :=
      List.filterMap_eq_nil_iff.mpr fun _ _ => rfl
    have completed : (plan.placed resource ps { w with processors, pipelines, log }).completed =
        w.completed := by
      rw [World.completed, World.completed, Recorder.Plan.placed, List.filterMap_append,
        List.filterMap_map, none, List.append_nil]
    cases hu : plan.options.serviceName.unwritten? with
    | none =>
      rw [hu] at hrun
      exact ⟨_, hrun, has, completed, rfl⟩
    | some e =>
      rw [hu] at hrun
      exact ⟨_, hrun, has, completed, rfl⟩

/-- The making of a recorder by a plan has left it there, whether the call returned or failed. -/
structure Recorder.Plan.Leaves (plan : Plan) (r : Ref Recorder) (w w' : World) : Prop where
  after : w' = (Recorder.make plan).after w
  new : r = w.recorders.next
  has : w'.recorders.Has r

/-- The hook of a recorder comes with it, if the plan says so. -/
theorem Recorder.Plan.Leaves.exits {plan : Plan} {r : Ref Recorder} {w w' : World}
    (h : plan.Leaves r w w') : w'.completed = w.completed ∧
      w'.exitHooks = if plan.onExit then w.exitHooks ++ [r] else w.exitHooks := by
  obtain ⟨after, new, has⟩ := h
  subst new
  rcases make_exits plan w with ⟨e, hrun⟩ | ⟨v, hrun, -, exits⟩
  · rw [after, after_of_error hrun] at has
    exact absurd has (Nat.lt_irrefl _)
  · have same : w' = v := by
      rw [after]
      split at hrun
      · exact after_of_ok hrun
      · exact after_of_error hrun
    exact same ▸ exits

/-- A plan leaves nothing, or it leaves a recorder. -/
theorem make_leaves (plan : Recorder.Plan) (w : World) :
    (Recorder.make plan).after w = w ∨
      plan.Leaves w.recorders.next w ((Recorder.make plan).after w) := by
  rcases make_exits plan w with ⟨e, hrun⟩ | ⟨v, hrun, has, -⟩
  · exact .inl (after_of_error hrun)
  · have same : (Recorder.make plan).after w = v := by
      split at hrun
      · exact after_of_ok hrun
      · exact after_of_error hrun
    exact .inr { after := rfl, new := rfl, has := same ▸ has }

theorem Recorder.Plan.Leaves.of_ok {plan : Plan} {r : Ref Recorder} {w w' : World}
    (h : Recorder.make plan w = .ok r w') : plan.Leaves r w w' where
  after := (after_of_ok h).symm
  new := by
    obtain ⟨_, _, _, _, _, -, -, rfl, -⟩ := make_ok h
    rfl
  has := make_has h

/-- Beside `hooks` there is a hook for the recorder that was created by options, if one was. The
failure to write a record of it may come after that. -/
def HooksCreated (o : Options) (hooks : List (Ref Recorder)) :
    EStateM.Result Failure World Provider → Prop
  | .ok (.recorder r) w => w.exitHooks = hooks ++ [r]
  | .ok (.idle _) w => w.exitHooks = hooks
  | .error e w => w.exitHooks = hooks ∨
      (o.serviceName.unwritten? = some e ∨ o.provider.unwritten? = some e) ∧
        ∃ r, w.exitHooks = hooks ++ [r]

theorem instantiate_exits (o : Options) (c : ProviderClass) (w : World) :
    HooksCreated o w.exitHooks (c.instantiate o w) := by
  have made : ∀ plan : Recorder.Plan, plan.onExit = true → plan.options = o →
      HooksCreated o w.exitHooks ((Provider.recorder <$> Recorder.make plan) w) := by
    rintro plan onExit rfl
    rw [run_map]
    rcases make_exits plan w with ⟨e, hrun⟩ | ⟨w', hrun, -, -, hooks⟩
    · rw [hrun]
      exact .inl rfl
    · rw [onExit] at hooks
      rw [hrun]
      cases hu : plan.options.serviceName.unwritten? with
      | none => exact hooks
      | some e => exact .inr ⟨.inl hu, _, hooks⟩
  obtain ⟨_, _, instances, _⟩ := c
  cases instances with
  | recorder => exact made _ rfl rfl
  | noop => exact rfl
  | minimal => exact rfl
  | interface => exact .inl rfl
  | exploding => exact .inl rfl

/-- Creation through the catalog adds a hook for a recorder, and for nothing else. -/
theorem create_exits (o : Options) (w : World) :
    HooksCreated o w.exitHooks (Provider.create o w) := by
  cases he : o.enabled.isTruthy with
  | false =>
    rw [create_disabled he]
    exact rfl
  | true =>
    have selected : Leads (fun _ v => v.exitHooks = w.exitHooks) Any
        (Act.catalog (Catalog.select o.provider)) w := by
      unfold Leads Act.catalog
      cases Catalog.select o.provider (w.catalog, []) with
      | error e s => exact rfl
      | ok c s => exact ⟨rfl, trivial⟩
    rw [create_enabled he, run_bind]
    cases hs : Act.catalog (Catalog.select o.provider) w with
    | error e v =>
      have kept := selected.after
      rw [after_of_error hs] at kept
      exact .inl kept
    | ok c v =>
      have exits := instantiate_exits o c v
      rw [(selected.of_eq hs).1] at exits
      dsimp only
      rw [run_bind]
      cases hi : c.instantiate o v with
      | error e w' =>
        rw [hi] at exits
        exact exits
      | ok p w' =>
        rw [hi] at exits
        dsimp only
        rw [run_bind, run_say]
        cases hu : o.provider.unwritten? with
        | none => cases p <;> simpa [Value.wording, hu, HooksCreated] using exits
        | some e =>
          cases p with
          | recorder r => simpa [Value.wording, hu, HooksCreated] using .inr ⟨r, exits⟩
          | idle i => simpa [Value.wording, hu, HooksCreated] using .inl exits

/-! ## Deeds -/

inductive Deed (P : Step → Prop) (w : World) : World → Prop where
  | other {w' : World} (change : Change P w w') (same : w.SameExits w') : Deed P w w'
  | make (plan : Recorder.Plan) (known : ∀ p ∈ plan.pipelines.getD [], w.pipelines.Has p) :
      Deed P w ((Recorder.make plan).after w)
  | takeHook (allowed : P .runExitHooks) : Deed P w { w with exitHooks := w.exitHooks.dropLast }
  | shutDown (r : Ref Recorder) (change : Change P w (w.shutDown r)) (has : w.recorders.Has r)
      (closed : (w.recorders.get r).closed = true) : Deed P w (w.shutDown r)

abbrev Deeds (P : Step → Prop) : World → World → Prop := Relation.ReflTransGen (Deed P)

/-- A world that comes about by deeds from one without objects. -/
def Attained (P : Step → Prop) (w : World) : Prop := ∃ telemetryOff, Deeds P { telemetryOff } w

section

variable {P : Step → Prop} {w w' v : World} {r : Ref Recorder}

theorem Deed.changes (h : Deed P w w') (hw : w.InOrder P) : Changes P w w' := by
  cases h with
  | other change => exact change.changes
  | make plan known => exact (make_changes hw known).after
  | takeHook => exact Change.takeHook.changes
  | shutDown r change => exact change.changes

theorem Deeds.changes (h : Deeds P w w') (hw : w.InOrder P) : Changes P w w' := by
  induction h with
  | refl => exact .refl
  | tail _ deed ih => exact ih.trans (deed.changes (ih.inOrder hw))

instance : IsPreorder World (Deeds P) where
  refl _ := .refl
  trans _ _ _ := .trans

instance : AllowsSteps P (Deeds P) where
  changes hw h := Deeds.changes h hw
  change h same _ := .single (.other h same)
  complete {w w' r} hw isOpen h closed := by
    have started : Deeds P w (w.shuttingDown r) :=
      .single (.other (.shuttingDown r isOpen) (.of_entry rfl rfl rfl))
    have begun : Change P w (w.shuttingDown r) := .shuttingDown r isOpen
    have changes := Deeds.changes h (begun.inOrder hw)
    have has := Recorder.has_of_open isOpen
    have has' := begun.extends.hasRecorder has
    exact (started.trans h).tail (.shutDown r (shuttingDown_completes changes closed)
      (changes.extends.hasRecorder has')
      (changes.extends.closed r has' (shuttingDown_closed has)))
  make _ known := .single (.make _ known)
  takeHook allowed := .single (.takeHook allowed)
  use log _ := .single (.other (.aside log _ _ _) ⟨rfl, rfl⟩)

theorem Attained.reachable (h : Attained P w) : Reachable P w := by
  obtain ⟨telemetryOff, h⟩ := h
  exact ⟨telemetryOff, h.changes (World.inOrder_initial telemetryOff)⟩

theorem Attained.inOrder (h : Attained P w) : w.InOrder P := h.reachable.inOrder

theorem Attained.deeds (h : Attained P w) (h' : Deeds P w w') : Attained P w' := by
  obtain ⟨telemetryOff, h⟩ := h
  exact ⟨telemetryOff, h.trans h'⟩

/-- A program whose steps satisfy `P` leads to an attained world. -/
theorem Script.run_attained {program : List Step} (hp : Step.EveryIn P program)
    (telemetryOff : Bool) : Attained P (Script.run program { telemetryOff }).2 :=
  ⟨telemetryOff, runWithin_follows _ program _ (World.inOrder_initial telemetryOff) hp⟩

/-! ## What deeds do to the exit hooks -/

theorem completed_shutDown (w : World) (r : Ref Recorder) :
    (w.shutDown r).completed = w.completed ++ [r] := by
  simp [World.completed, World.shutDown, World.entered, Event.completes]

/-- Before exit hooks come with recorders that are made, and go when a shutdown is complete. -/
theorem Deed.exits_cases (h : Deed P w w') (before : ¬ P .runExitHooks) :
    (w'.exitHooks = w.exitHooks ∧ w'.completed = w.completed) ∨
      (∃ plan r, (∀ p ∈ plan.pipelines.getD [], w.pipelines.Has p) ∧
        Recorder.Plan.Leaves plan r w w' ∧ ¬ w.recorders.Has r ∧
        w'.exitHooks = w.exitHooks ++ [r] ∧ w'.completed = w.completed) ∨
      ∃ r, w.recorders.Has r ∧ (w.recorders.get r).closed = true ∧
        w'.exitHooks = w.exitHooks.filter (· ≠ r) ∧ w'.completed = w.completed ++ [r] := by
  cases h with
  | other change same => exact .inl ⟨same.exitHooks, same.completed⟩
  | make plan known =>
    rcases make_leaves plan w with same | leaves
    · rw [same]
      exact .inl ⟨rfl, rfl⟩
    · obtain ⟨completed, hooks⟩ := leaves.exits
      cases hx : plan.onExit with
      | false =>
        rw [hx] at hooks
        exact .inl ⟨hooks, completed⟩
      | true =>
        rw [hx] at hooks
        exact .inr (.inl ⟨plan, _, known, leaves, Nat.lt_irrefl _, hooks, completed⟩)
  | takeHook allowed => exact absurd allowed before
  | shutDown r change has closed =>
    exact .inr (.inr ⟨r, has, closed, rfl, completed_shutDown w r⟩)

/-- No hook stands twice, and none for a recorder whose first shutdown is complete. -/
structure World.ExitsInOrder (w : World) : Prop where
  nodup : w.exitHooks.Nodup
  pending : ∀ r ∈ w.exitHooks, r ∉ w.completed
  closed : ∀ r ∈ w.completed, w.recorders.Has r ∧ (w.recorders.get r).closed = true

theorem Deed.exitsInOrder (h : Deed P w w') (before : ¬ P .runExitHooks) (hw : w.InOrder P)
    (he : w.ExitsInOrder) : w'.ExitsInOrder := by
  have extends' := (h.changes hw).extends
  have still : ∀ r, w.recorders.Has r ∧ (w.recorders.get r).closed = true →
      w'.recorders.Has r ∧ (w'.recorders.get r).closed = true := fun r hr =>
    ⟨extends'.hasRecorder hr.1, extends'.closed r hr.1 hr.2⟩
  rcases h.exits_cases before with ⟨hooks, completed⟩ | ⟨plan, r, -, -, new, hooks, completed⟩ |
    ⟨r, has, closed, hooks, completed⟩
  case inl =>
    exact
      { nodup := hooks ▸ he.nodup
        pending := by
          rw [hooks, completed]
          exact he.pending
        closed := by
          rw [completed]
          exact fun r hr => still r (he.closed r hr) }
  case inr.inl =>
    have absent : r ∉ w.exitHooks := fun hr => new (hw.exits r hr)
    exact
      { nodup := by
          rw [hooks, List.nodup_append]
          refine ⟨he.nodup, by simp, ?_⟩
          rintro t ht _ hr rfl
          exact absent (List.mem_singleton.mp hr ▸ ht)
        pending := by
          rw [hooks, completed]
          intro t ht hc
          rcases List.mem_append.mp ht with ht | ht
          · exact he.pending t ht hc
          · obtain rfl := List.mem_singleton.mp ht
            exact new (he.closed t hc).1
        closed := by
          rw [completed]
          exact fun t ht => still t (he.closed t ht) }
  case inr.inr =>
    exact
      { nodup := by
          rw [hooks]
          exact he.nodup.filter _
        pending := by
          rw [hooks, completed]
          intro t ht hc
          obtain ⟨ht, hne⟩ := List.mem_filter.mp ht
          rcases List.mem_append.mp hc with hc | hc
          · exact he.pending t ht hc
          · simp [List.mem_singleton.mp hc] at hne
        closed := by
          rw [completed]
          intro t ht
          rcases List.mem_append.mp ht with ht | ht
          · exact still t (he.closed t ht)
          · obtain rfl := List.mem_singleton.mp ht
            exact still t ⟨has, closed⟩ }

theorem Attained.exitsInOrder (hw : Attained P w) (before : ¬ P .runExitHooks) :
    w.ExitsInOrder := by
  obtain ⟨telemetryOff, h⟩ := hw
  induction h with
  | refl => exact { nodup := .nil, pending := nofun, closed := nofun }
  | tail earlier deed ih => exact deed.exitsInOrder before (Attained.inOrder ⟨_, earlier⟩) ih

/-- Of the hooks that stand, those of recorders shut down since are gone, and all others stand as
they stood, before those of recorders made since. -/
theorem Deeds.exits (h : Deeds P w v) (before : ¬ P .runExitHooks) (hw : Attained P w) :
    w.completed ⊆ v.completed ∧
      ∃ new, v.exitHooks = w.exitHooks.filter (· ∉ v.completed) ++ new ∧
        ∀ r ∈ new, ¬ w.recorders.Has r := by
  induction h with
  | refl =>
    have all : w.exitHooks.filter (· ∉ w.completed) = w.exitHooks :=
      List.filter_eq_self.mpr fun r hr => decide_eq_true ((hw.exitsInOrder before).pending r hr)
    exact ⟨fun _ hr => hr, [], by rw [all, List.append_nil], nofun⟩
  | @tail u v' earlier deed ih =>
    obtain ⟨sub, new, hu, unknown⟩ := ih
    have extends' := (Deeds.changes earlier hw.inOrder).extends
    rcases deed.exits_cases before with ⟨hooks, completed⟩ | ⟨plan, r, -, -, fresh, hooks, completed⟩ |
      ⟨r, -, -, hooks, completed⟩
    case inl =>
      rw [hooks, completed]
      exact ⟨sub, new, hu, unknown⟩
    case inr.inl =>
      rw [hooks, completed]
      refine ⟨sub, new ++ [r], by rw [hu, List.append_assoc], ?_⟩
      intro t ht
      rcases List.mem_append.mp ht with ht | ht
      · exact unknown t ht
      · obtain rfl := List.mem_singleton.mp ht
        exact fun has => fresh (extends'.hasRecorder has)
    case inr.inr =>
      rw [hooks, completed, hu]
      refine ⟨List.subset_append_of_subset_left _ sub, new.filter (· ≠ r), ?_, ?_⟩
      · rw [List.filter_append, List.filter_filter]
        congr 1
        apply List.filter_congr
        intro t _
        simp [and_comm]
      · exact fun t ht => unknown t (List.mem_filter.mp ht).1

/-! ## First shutdowns -/

/-- Changes by which a shutdown of `r` that began before them is not completed. -/
structure Spares (P : Step → Prop) (r : Ref Recorder) (w w' : World) : Prop where
  changes : Changes P w w'
  spared : w.recorders.Has r → (w.recorders.get r).closed = true → r ∈ w'.completed →
    r ∈ w.completed

instance : IsPreorder World (Spares P r) where
  refl _ := { changes := .refl, spared := fun _ _ hc => hc }
  trans _ _ _ h h' :=
    { changes := h.changes.trans h'.changes
      spared := fun has closed hc =>
        have later := h.changes.extends
        h.spared has closed (h'.spared (later.hasRecorder has) (later.closed r has closed) hc) }

theorem Spares.of_completed (changes : Changes P w w') (same : w'.completed = w.completed) :
    Spares P r w w' where
  changes := changes
  spared _ _ hc := same ▸ hc

/-- Only the call that began the first shutdown of a recorder completes it: no hook that it runs
does, and nothing that comes after it. -/
instance : AllowsSteps P (Spares P r) where
  changes _ h := h.changes
  change h same _ := .of_completed h.changes same.completed
  complete {w w' t} hw isOpen h closed :=
    { changes := AllowsCalls.complete hw isOpen h.changes closed
      spared := fun has hr hc => by
        have begun : Change P w (w.shuttingDown t) := .shuttingDown t isOpen
        rw [completed_shutDown] at hc
        rcases List.mem_append.mp hc with hc | hc
        · have hc := h.spared (begun.extends.hasRecorder has) (begun.extends.closed r has hr) hc
          simpa [World.completed, World.shuttingDown, World.entered, World.withRecorder,
            Event.completes] using hc
        · rw [List.mem_singleton.mp hc, isOpen] at hr
          cases hr }
  make {w plan} hw known := by
    refine .of_completed (make_changes hw known).after ?_
    rcases make_leaves plan w with same | leaves
    · rw [same]
    · exact leaves.exits.1
  takeHook _ := .of_completed Change.takeHook.changes rfl
  use log _ := .of_completed (Change.aside log _ _ _).changes rfl

/-- How the first shutdown of `r`, which begins in `w`, comes to be complete. -/
structure CompletesOnce (runner : Runner) (r : Ref Recorder) (w : World) : Prop where
  new : r ∉ w.completed
  /-- It is complete once all pipelines have been flushed and closed. -/
  complete_iff : r ∈ ((Recorder.shutdown runner r).after w).completed ↔ ∃ reports v,
    Recorder.closeAll runner r (w.recorders.get r).pipelines (w.shuttingDown r) = .ok reports v
  /-- The call returns then, unless the service has no name that can be written into a record. -/
  returns_iff : (∃ reports v, Recorder.shutdown runner r w = .ok reports v) ↔
    r ∈ ((Recorder.shutdown runner r).after w).completed ∧
      (((Recorder.shutdown runner r).after w).recorders.get r).options.serviceName.unwritten? = none

theorem shutdown_completes {runner : Runner} (hr : runner.Follows P (Spares P r))
    (hw : w.InOrder P) (isOpen : (w.recorders.get r).closed = false) (new : r ∉ w.completed) :
    CompletesOnce runner r w := by
  have closing := (closing_leads hr hw isOpen).after
  cases hx : Recorder.closeAll runner r (w.recorders.get r).pipelines (w.shuttingDown r) with
  | ok reports v =>
    have last : r ∈ (v.shutDown r).completed := by simp [completed_shutDown]
    cases hu : (v.recorders.get r).options.serviceName.unwritten? with
    | none =>
      obtain ⟨records, hrun⟩ := Recorder.shutdown_done isOpen hx hu
      refine ⟨new, ?_, ?_⟩ <;> rw [after_of_ok hrun]
      · exact iff_of_true last ⟨_, _, hx⟩
      · exact iff_of_true ⟨_, _, hrun⟩ ⟨last, hu⟩
    | some e =>
      have hrun := Recorder.shutdown_unsaid isOpen hx hu
      refine ⟨new, ?_, ?_⟩ <;> rw [after_of_error hrun]
      · exact iff_of_true last ⟨_, _, hx⟩
      · refine iff_of_false (by simp [hrun]) fun written => ?_
        have unwritten : ((v.shutDown r).recorders.get r).options.serviceName.unwritten? = some e :=
          hu
        rw [unwritten] at written
        cases written.2
  | error e v =>
    have hrun := Recorder.shutdown_cut isOpen hx
    rw [after_of_error hx] at closing
    have absent : r ∉ v.completed := fun hc => by
      have has := Recorder.has_of_open isOpen
      have begun : Change P w (w.shuttingDown r) := .shuttingDown r isOpen
      have before := closing.spared (begun.extends.hasRecorder has) (shuttingDown_closed has) hc
      apply new
      simpa [World.completed, World.shuttingDown, World.entered, World.withRecorder,
        Event.completes] using before
    refine ⟨new, ?_, ?_⟩ <;> rw [after_of_error hrun]
    · exact iff_of_false absent (by simp [hx])
    · exact iff_of_false (by simp [hrun]) fun h => absent h.1

/-! ## Hooks and recorders -/

/-- In the attained world `u` a plan, whose pipelines are there, leaves the recorder `r`. -/
structure Makes (P : Step → Prop) (plan : Recorder.Plan) (r : Ref Recorder) (u u' : World) :
    Prop where
  attained : Attained P u
  known : ∀ p ∈ plan.pipelines.getD [], u.pipelines.Has p
  leaves : plan.Leaves r u u'

theorem Makes.deed {plan : Recorder.Plan} (h : Makes P plan r w w') : Deed P w w' :=
  h.leaves.after ▸ Deed.make plan h.known

/-- The exit hooks in `w` are those of the recorders that were left with one and whose first shutdown
is not complete. -/
structure TracksExits (P : Step → Prop) (w : World) : Prop where
  once : w.exitHooks.Nodup
  made : ∀ r ∈ w.exitHooks, ∃ plan u u', Makes P plan r u u' ∧ Deeds P u' w
  stands : ∀ plan u r u', Makes P plan r u u' → Deeds P u' w →
    (r ∈ w.exitHooks ↔ plan.onExit = true ∧ r ∉ w.completed)
  completes : ∀ fuel r, (w.recorders.get r).closed = false →
    CompletesOnce (Script.runWithin fuel) r w
  /-- Once it has begun no other step completes it, be it in a hook or later. -/
  spared : ∀ fuel steps r, Step.EveryIn P steps → w.recorders.Has r →
    (w.recorders.get r).closed = true →
    (r ∈ (Script.runWithin fuel steps w).2.completed ↔ r ∈ w.completed)
  returning : ∀ plan r w', Recorder.make plan w = .ok r w' → plan.Leaves r w w'
  /-- The making of a recorder leaves nothing behind if it fails, unless it fails for a record of the
  recorder that it has made. -/
  failing : ∀ plan e w', Recorder.make plan w = .error e w' → w' = w ∨
    plan.options.serviceName.unwritten? = some e ∧ plan.Leaves w.recorders.next w w'
  creating : ∀ o, HooksCreated o w.exitHooks (Provider.create o w)
  /-- Whatever is done, no hook goes but those of recorders shut down, and none changes place. -/
  later : ∀ v, Deeds P w v → ∃ new, v.exitHooks = w.exitHooks.filter (· ∉ v.completed) ++ new ∧
    ∀ r ∈ new, ¬ w.recorders.Has r
  shutting : ∀ fuel r, Deeds P w ((Recorder.shutdown (Script.runWithin fuel) r).after w)

/-- A hook that stands came with the making of its recorder. -/
theorem Attained.hook_made (hw : Attained P w) (before : ¬ P .runExitHooks)
    (hr : r ∈ w.exitHooks) : ∃ plan u u', Makes P plan r u u' ∧ Deeds P u' w := by
  obtain ⟨telemetryOff, h⟩ := hw
  induction h with
  | refl => cases hr
  | @tail u w earlier deed ih =>
    have older : r ∈ u.exitHooks → ∃ plan t t', Makes P plan r t t' ∧ Deeds P t' w := by
      intro hr
      obtain ⟨plan, t, t', makes, since⟩ := ih hr
      exact ⟨plan, t, t', makes, since.tail deed⟩
    rcases deed.exits_cases before with ⟨hooks, -⟩ | ⟨plan, t, known, leaves, -, hooks, -⟩ |
      ⟨t, -, -, hooks, -⟩
    case inl => exact older (hooks ▸ hr)
    case inr.inl =>
      rw [hooks] at hr
      rcases List.mem_append.mp hr with hr | hr
      · exact older hr
      · obtain rfl := List.mem_singleton.mp hr
        exact ⟨plan, u, w, ⟨⟨telemetryOff, earlier⟩, known, leaves⟩, .refl⟩
    case inr.inr =>
      rw [hooks] at hr
      exact older (List.mem_filter.mp hr).1

/-- The hook of a recorder stands from its making on until its first shutdown is complete. -/
theorem Makes.stands {plan : Recorder.Plan} {u u' : World} (h : Makes P plan r u u')
    (before : ¬ P .runExitHooks) (since : Deeds P u' w) :
    r ∈ w.exitHooks ↔ plan.onExit = true ∧ r ∉ w.completed := by
  obtain ⟨completed, hooks⟩ := h.leaves.exits
  have hu' : Attained P u' := h.attained.deeds (.single h.deed)
  have fresh : ¬ u.recorders.Has r := h.leaves.new ▸ Nat.lt_irrefl _
  have absent : r ∉ u.exitHooks := fun hr => fresh (h.attained.inOrder.exits r hr)
  have added : r ∈ u'.exitHooks ↔ plan.onExit = true := by
    rw [hooks]
    cases plan.onExit <;> simp [absent]
  obtain ⟨-, new, hw, unknown⟩ := since.exits before hu'
  have older : r ∉ new := fun hr => unknown r hr h.leaves.has
  rw [hw]
  simp [older, added]

/-- Before exit the exit hooks follow the recorders that are not shut down yet, whatever was made,
created and shut down in whatever order, and by whatever hooks. -/
theorem exits_tracked (hw : Attained P w) (before : ¬ P .runExitHooks) : TracksExits P w where
  once := (hw.exitsInOrder before).nodup
  made r hr := hw.hook_made before hr
  stands plan u r u' makes since := makes.stands before since
  completes fuel r isOpen := by
    have new : r ∉ w.completed := by
      intro hr
      rw [((hw.exitsInOrder before).closed r hr).2] at isOpen
      cases isOpen
    exact shutdown_completes (runWithin_follows fuel) hw.inOrder isOpen new
  spared fuel steps r every has closed := by
    have spares : Spares P r w _ := runWithin_follows fuel steps w hw.inOrder every
    refine ⟨spares.spared has closed, ?_⟩
    have deeds : Deeds P w _ := runWithin_follows fuel steps w hw.inOrder every
    exact fun hr => (deeds.exits before hw).1 hr
  returning plan r w' made := .of_ok made
  failing plan e w' failed := by
    have left := make_leaves plan w
    rw [after_of_error failed] at left
    refine left.imp_right fun leaves => ⟨?_, leaves⟩
    rcases make_exits plan w with ⟨e', hrun⟩ | ⟨v, hrun, -⟩
    · rw [failed] at hrun
      obtain ⟨-, rfl⟩ := EStateM.Result.error.inj hrun
      exact absurd leaves.has (Nat.lt_irrefl _)
    · rw [failed] at hrun
      split at hrun
      · cases hrun
      next hu =>
        obtain ⟨rfl, -⟩ := EStateM.Result.error.inj hrun
        exact hu
  creating o := create_exits o w
  later v since := (since.exits before hw).2
  shutting fuel r := (shutdown_leads (runWithin_follows fuel) hw.inOrder r).after

end

/-- A step that does not run the exit hooks. -/
def Step.BeforeExit (s : Step) : Prop := s ≠ .runExitHooks

/-- The first provider creates another one while it is shut down; the shutdown of the second is
interrupted; the third has no hook, and there is no fourth. -/
def exitProgram : List Step :=
  [.newProvider "p" none (some [.make "a" (.str "a") (.scripted
      { onFlush := [[.create "c" none, .shutdown "p"]] })]) none none true,
    .newProvider "q" none (some [.make "b" (.str "b") (.scripted
      { flushes := [.raises (.foreign ⟨"KeyboardInterrupt", []⟩)] })]) none none true,
    .newProvider "s" none (some []) none none false,
    .newProvider "x" (some [("max_queue_size", .int 0)]) none none none true,
    .shutdown "p", .shutdown "q", .shutdown "q"]

def exitWorld : World := (Script.run exitProgram {}).2

theorem exitWorld_attained : Attained Step.BeforeExit exitWorld := by
  have every : Step.EveryIn Step.BeforeExit exitProgram := by
    simp [exitProgram, Step.EveryIn, Step.EveryInside, Step.EveryInPipelines?,
      Step.EveryInPipelines, Step.EveryInPipeline, Step.EveryInProcessor, Step.EveryInScript,
      Step.EveryInHooks, Step.BeforeExit]
  rw [exitWorld]
  exact Script.run_attained every false

theorem three_exits_tracked :
    exitWorld.exitHooks = [⟨1⟩, ⟨3⟩] ∧ exitWorld.completed = [⟨0⟩] ∧
      TracksExits Step.BeforeExit exitWorld := by
  have shown : exitWorld.exitHooks = [⟨1⟩, ⟨3⟩] ∧ exitWorld.completed = [⟨0⟩] := by
    decide +kernel
  exact ⟨shown.1, shown.2, exits_tracked exitWorld_attained fun h => h rfl⟩

/-- The service of the first of two providers is named by an integer that has too many digits to be
written. -/
def unsaidProgram : List Step :=
  [.newProvider "p" none (some []) none none true,
    .newProvider "q" none (some []) none none true,
    .setOption "p" (.str "service_name") (.int Text.leastUnwritten)]

def unsaidWorld : World := (Script.run unsaidProgram {}).2

theorem unsaidWorld_attained : Attained Step.BeforeExit unsaidWorld := by
  have every : Step.EveryIn Step.BeforeExit unsaidProgram := by
    simp [unsaidProgram, Step.EveryIn, Step.EveryInside, Step.EveryInPipelines?,
      Step.EveryInPipelines, Step.BeforeExit]
  rw [unsaidWorld]
  exact Script.run_attained every false

/-- A provider whose service is named like that from the start. -/
def unsaidPlan : Recorder.Plan where
  options := { serviceName := .int Text.leastUnwritten }
  pipelines := some []

/-- The first shutdown of the one fails, and its hook is gone; the making of the other fails, and its
hook stands. -/
theorem unsaid_hooks_misplaced :
    Attained Step.BeforeExit unsaidWorld ∧ unsaidWorld.exitHooks = [⟨0⟩, ⟨1⟩] ∧
      (unsaidWorld.recorders.get ⟨0⟩).closed = false ∧
      (∃ e w', Recorder.shutdown (Script.runWithin 1) ⟨0⟩ unsaidWorld = .error e w' ∧
        w'.exitHooks = [⟨1⟩]) ∧
      ∃ e w', Recorder.make unsaidPlan unsaidWorld = .error e w' ∧
        w'.exitHooks = [⟨0⟩, ⟨1⟩, ⟨2⟩] := by
  have shutdownFails : ((Recorder.shutdown (Script.runWithin 1) ⟨0⟩).failure? unsaidWorld).any
      (fun _ => true) = true := by
    decide +kernel
  have makeFails : ((Recorder.make unsaidPlan).failure? unsaidWorld).any (fun _ => true) = true := by
    decide +kernel
  obtain ⟨e, unclosed, -⟩ := error_of_failure? shutdownFails
  obtain ⟨e', unmade, -⟩ := error_of_failure? makeFails
  exact ⟨unsaidWorld_attained, by decide +kernel, by decide +kernel,
    ⟨e, _, unclosed, by decide +kernel⟩, ⟨e', _, unmade, by decide +kernel⟩⟩

end Tracing
