import Tracing.Proofs.Bindings
import Tracing.Proofs.Hooks

/-!
# Tracing.Proofs.Making

The making of recorders, evaluated.

* `buildExport_run`, `attachAll_run` — the parts of it that can fail, and that cannot.
* `Recorder.Plan.placed`, `Recorder.Plan.carriedOut` — the world with the recorder of a plan in it,
  without and with the record of it.
* `make_run`, `make_cases` — a plan is carried out, or it fails and nothing is left behind but what
  the record would be about. `make_ok` — what there is if it does not fail.
* `make_leads` — the making of a recorder leads along changes.
* `create_enabled`, `create_disabled` — the creation of a provider by options.
-/

namespace Tracing

open Act

theorem Store.modify_add_self {α : Type} (s : Store α) (a : α) (f : α → α) :
    (s.add a).modify s.next f = s.add (f a) :=
  congrArg Store.mk (List.modifyTailIdx_add (List.modifyHead f) 0 s.items [a])

/-! ## Pipelines that export -/

/-- Whether spans are to be exported. -/
def Options.exports (o : Options) : Bool := o.enabled.isTruthy && o.otlpEnabled.isTruthy

/-- What is logged of a pipeline that exports. -/
def Pipeline.builtRecord (x : Processor) (endpoint : Endpoint) : LogRecord :=
  let mode := match x.role with | .batch => "BATCH" | _ => "SYNC"
  ⟨.info, Pipeline.logger, s!"Created {mode} OTLP pipeline (endpoint=" ++ endpoint.url ++ ")"⟩

/-- A pipeline that exports has been built. -/
def World.exporting (w : World) (x : Processor) (endpoint : Endpoint) : World :=
  { w with
    processors := w.processors.add x
    pipelines := w.pipelines.add
      { processor := w.processors.next, name := .str ("otlp:" ++ endpoint.url) }
    log := w.log ++ [Pipeline.builtRecord x endpoint] }

theorem buildExport_run (o : Options) (w : World) :
    Pipeline.buildExport o w =
      match Pipeline.exportProcessor o with
      | .error e => .error e w
      | .ok (x, endpoint) => .ok w.pipelines.next (w.exporting x endpoint) := by
  cases h : Pipeline.exportProcessor o with
  | error e => simp [Pipeline.buildExport, run_bind, h]
  | ok made =>
    simp [Pipeline.buildExport, run_bind, h, run_say]
    rfl

/-- The processor that exports, by the endpoint and the batch options that there are. -/
theorem exportProcessor_run {o : Options} {endpoint : Endpoint} {b : BatchOptions}
    (there : Endpoint.ofOptions o = .ok endpoint)
    (batching : o.batching.get "use_sync_export" = .ok b) :
    Pipeline.exportProcessor o =
      if b.syncExport.isTruthy then
        .ok ({ role := .simple, target := some ⟨endpoint, none⟩ }, endpoint)
      else
        b.checkSizes.map fun _ =>
          ({ role := .batch, target := some ⟨endpoint, some b⟩ }, endpoint) := by
  simp only [Pipeline.exportProcessor, there, batching, bind, Except.bind]
  cases b.syncExport.isTruthy <;> cases b.checkSizes <;> rfl

section

variable {plan : Recorder.Plan}

theorem build_given {ps : List (Ref Pipeline)} (h : plan.pipelines = some ps) (w : World) :
    plan.build w = .ok ps w := by
  simp [Recorder.Plan.build, h]

theorem build_unexporting (h : plan.pipelines = none) (hx : plan.options.exports = false)
    (w : World) : plan.build w = .ok [] w := by
  rw [Options.exports] at hx
  simp [Recorder.Plan.build, h, hx]

theorem build_exporting (h : plan.pipelines = none) (hx : plan.options.exports = true)
    (w : World) :
    plan.build w =
      match Pipeline.exportProcessor plan.options with
      | .error e => .error e w
      | .ok (x, endpoint) => .ok [w.pipelines.next] (w.exporting x endpoint) := by
  have hrun := buildExport_run plan.options w
  rw [Options.exports] at hx
  simp only [Recorder.Plan.build, h, hx, if_true, run_bind, hrun]
  cases Pipeline.exportProcessor plan.options <;> rfl

end

/-- The pipelines of a plan are there then, and nothing else differs; none is left by a failure. -/
theorem build_cases (plan : Recorder.Plan) (w : World) :
    (∃ e, plan.build w = .error e w) ∨
      ∃ ps processors pipelines log,
        plan.build w = .ok ps { w with processors, pipelines, log } := by
  cases hp : plan.pipelines with
  | some ps => exact .inr ⟨ps, w.processors, w.pipelines, w.log, build_given hp w⟩
  | none =>
    cases hx : plan.options.exports with
    | false => exact .inr ⟨[], w.processors, w.pipelines, w.log, build_unexporting hp hx w⟩
    | true =>
      rw [build_exporting hp hx]
      cases Pipeline.exportProcessor plan.options with
      | error e => exact .inl ⟨e, rfl⟩
      | ok made => exact .inr ⟨_, _, _, _, rfl⟩

/-! ## Recorders -/

theorem attachAll_run (r : Ref Recorder) (ps : List (Ref Pipeline)) (w : World) :
    Recorder.attachAll r ps w = .ok ()
      { w with
        journal := w.journal ++ ps.map (.attached r)
        recorders := w.recorders.modify r fun x =>
          { x with
            pipelines := x.pipelines ++ ps
            attached := x.attached ++ ps.map fun p => (w.pipelines.get p).processor } } := by
  induction ps generalizing w with
  | nil =>
    have same := w.recorders.modify_eq_self r (f := fun x => x) rfl
    simp [Recorder.attachAll, same]
  | cons p rest ih =>
    have attached : Recorder.attach r p w = .ok () (w.attachedTo r p) := rfl
    rw [Recorder.attachAll, run_bind, attached]
    dsimp only
    rw [ih]
    simp [World.attachedTo, World.withRecorder, World.entered, Store.modify_modify,
      Recorder.attaching]

namespace Recorder.Plan

/-- The recorder of a plan, with its pipelines attached. -/
def recorder (plan : Plan) (resource : List (Value × Value)) (ps : List (Ref Pipeline))
    (w : World) : Recorder :=
  { className := plan.className
    options := plan.options
    sampler := plan.effectiveSampler
    asked := if plan.isScripted then some [] else none
    resource
    pipelines := ps
    attached := ps.map fun p => (w.pipelines.get p).processor }

/-- What is logged of a recorder that has been made. -/
def record (plan : Plan) (ps : List (Ref Pipeline)) : LogRecord :=
  ⟨.info, Recorder.logger, "SdkTracerProvider initialized for service " ++
    plan.options.serviceName.text ++ s!" with {ps.length} pipeline(s)"⟩

/-- The recorder of a plan is made of attributes and pipelines, and added to the exit hooks if the
plan says so. -/
def placed (plan : Plan) (resource : List (Value × Value)) (ps : List (Ref Pipeline))
    (w : World) : World :=
  { w with
    recorders := w.recorders.add (plan.recorder resource ps w)
    journal := w.journal ++ ps.map (.attached w.recorders.next)
    exitHooks := if plan.onExit then w.exitHooks ++ [w.recorders.next] else w.exitHooks }

/-- The same with the record of it. -/
def carriedOut (plan : Plan) (resource : List (Value × Value)) (ps : List (Ref Pipeline))
    (w : World) : World :=
  (plan.placed resource ps w).logged [plan.record ps]

theorem carriedOut_get (plan : Plan) (resource : List (Value × Value)) (ps : List (Ref Pipeline))
    (w : World) : (plan.carriedOut resource ps w).recorders.get w.recorders.next =
      plan.recorder resource ps w :=
  w.recorders.get_add_self _

end Recorder.Plan

theorem addRecorder_run (x : Recorder) (w : World) :
    addRecorder x w = .ok w.recorders.next { w with recorders := w.recorders.add x } := rfl

theorem make_run (plan : Recorder.Plan) (w : World) :
    Recorder.make plan w =
      match plan.options.check with
      | .error e => .error e w
      | .ok () =>
        match plan.attributes with
        | .error e => .error e w
        | .ok resource =>
          match plan.build w with
          | .error e w' => .error e w'
          | .ok ps w' =>
            match plan.options.serviceName.unwritten? with
            | none => .ok w'.recorders.next (plan.carriedOut resource ps w')
            | some e => .error e (plan.placed resource ps w') := by
  cases hc : plan.options.check with
  | error e => simp [Recorder.make, run_bind, hc]
  | ok =>
    cases ha : plan.attributes with
    | error e => simp [Recorder.make, run_bind, hc, ha]
    | ok resource =>
      cases hb : plan.build w with
      | error e w' => simp [Recorder.make, run_bind, hc, ha, hb]
      | ok ps w' =>
        cases hx : plan.onExit <;> cases hu : plan.options.serviceName.unwritten? <;>
          simp [Recorder.make, run_bind, run_map, hc, ha, hb, hx, hu, addRecorder_run,
            attachAll_run, run_say, Value.wording, Store.modify_add_self, Recorder.Plan.carriedOut,
            Recorder.Plan.placed, Recorder.Plan.recorder, Recorder.Plan.record, World.logged]

/-- A plan is carried out, or it fails and nothing is left behind, unless it is the record that
cannot be written. -/
theorem make_cases (plan : Recorder.Plan) (w : World) :
    (∃ e, Recorder.make plan w = .error e w) ∨
      ∃ resource ps processors pipelines log,
        plan.options.check = .ok () ∧
        plan.build w = .ok ps { w with processors, pipelines, log } ∧
        Recorder.make plan w =
          match plan.options.serviceName.unwritten? with
          | none => .ok w.recorders.next
              (plan.carriedOut resource ps { w with processors, pipelines, log })
          | some e => .error e (plan.placed resource ps { w with processors, pipelines, log }) := by
  have hrun := make_run plan w
  cases hc : plan.options.check with
  | error e => exact .inl ⟨e, by rw [hrun, hc]⟩
  | ok =>
    cases ha : plan.attributes with
    | error e => exact .inl ⟨e, by rw [hrun, hc, ha]⟩
    | ok resource =>
      rcases build_cases plan w with ⟨e, hb⟩ | ⟨ps, processors, pipelines, log, hb⟩
      · exact .inl ⟨e, by rw [hrun, hc, ha, hb]⟩
      · exact .inr ⟨resource, ps, processors, pipelines, log, rfl, hb, by rw [hrun, hc, ha, hb]⟩

theorem make_ok {plan : Recorder.Plan} {w w' : World} {r : Ref Recorder}
    (h : Recorder.make plan w = .ok r w') :
    ∃ resource ps processors pipelines log,
      plan.options.check = .ok () ∧
      plan.build w = .ok ps { w with processors, pipelines, log } ∧
      r = w.recorders.next ∧
      w' = plan.carriedOut resource ps { w with processors, pipelines, log } := by
  rcases make_cases plan w with
    ⟨e, hrun⟩ | ⟨resource, ps, processors, pipelines, log, check, build, hrun⟩
  · rw [hrun] at h
    cases h
  · rw [hrun] at h
    split at h
    · obtain ⟨rfl, rfl⟩ := EStateM.Result.ok.inj h
      exact ⟨resource, ps, processors, pipelines, log, check, build, rfl, rfl⟩
    · cases h

/-- The record of a recorder that is made names its service. -/
theorem make_named {plan : Recorder.Plan} {w w' : World} {r : Ref Recorder}
    (h : Recorder.make plan w = .ok r w') : plan.options.serviceName.unwritten? = none := by
  rcases make_cases plan w with
    ⟨e, hrun⟩ | ⟨resource, ps, processors, pipelines, log, -, -, hrun⟩
  · rw [hrun] at h
    cases h
  · rw [hrun] at h
    split at h
    next named => exact named
    · cases h

theorem make_has {plan : Recorder.Plan} {w w' : World} {r : Ref Recorder}
    (h : Recorder.make plan w = .ok r w') : w'.recorders.Has r := by
  obtain ⟨resource, ps, processors, pipelines, log, -, -, rfl, rfl⟩ := make_ok h
  simp [Store.Has, Store.next, Recorder.Plan.carriedOut, Recorder.Plan.placed, World.logged]

/-! ## The making of recorders as changes -/

section

variable {P : Step → Prop} {R : World → World → Prop} {w : World}

theorem ofExcept_leads {α : Type} [IsPreorder World R] (x : Except Failure α) :
    Leads R (fun a w' => x = .ok a ∧ w' = w) (MonadExcept.ofExcept x : Act α) w :=
  Leads.ofExcept fun _ h => ⟨h, rfl⟩

/-- A processor that exports has no hooks. -/
theorem exportProcessor_hooks {o : Options} {x : Processor} {e : Endpoint}
    (h : Pipeline.exportProcessor o = .ok (x, e)) : x.role.HooksSatisfy P := by
  simp only [Pipeline.exportProcessor, bind, Except.bind, pure, Except.pure] at h
  repeat' split at h
  all_goals cases h
  all_goals trivial

theorem exportProcessor_new {o : Options} {x : Processor} {e : Endpoint}
    (h : Pipeline.exportProcessor o = .ok (x, e)) : x.IsNew := by
  simp only [Pipeline.exportProcessor, bind, Except.bind, pure, Except.pure] at h
  repeat' split at h
  all_goals cases h
  all_goals exact {}

variable [AllowsCalls P R]
include P

theorem addProcessor_leads {x : Processor} (h : x.role.HooksSatisfy P) (new : x.IsNew) :
    Leads R (fun q w' => w'.processors.Has q) (addProcessor x) w := by
  refine Leads.of_ok rfl ((Change.addProcessor x h new).allowed ⟨rfl, rfl⟩) ?_
  simp [Store.Has, Store.next]

theorem addPipeline_leads {q : Ref Processor} (h : w.processors.Has q) (name : Value) :
    Leads R (fun p w' => w'.pipelines.Has p) (addPipeline { processor := q, name }) w := by
  refine Leads.of_ok rfl ((Change.addPipeline q name h).allowed ⟨rfl, rfl⟩) ?_
  simp [Store.Has, Store.next]

theorem buildExport_leads (o : Options) :
    Leads R (fun p w' => w'.pipelines.Has p) (Pipeline.buildExport o) w := by
  refine (ofExcept_leads _).bind ?_
  intro made _ _ h
  refine (say_leads ..).bind ?_
  intro _ _ _ _
  refine (addProcessor_leads (exportProcessor_hooks h.1) (exportProcessor_new h.1)).bind ?_
  intro q _ _ hq
  exact addPipeline_leads hq _

theorem build_leads {plan : Recorder.Plan}
    (hp : ∀ p ∈ plan.pipelines.getD [], w.pipelines.Has p) :
    Leads R (fun ps w' => ∀ p ∈ ps, w'.pipelines.Has p) plan.build w := by
  unfold Recorder.Plan.build
  split
  next ps h =>
    rw [h] at hp
    exact Leads.pure hp
  · split
    · exact (buildExport_leads _).bind fun p _ _ hp => Leads.pure (by simpa using hp)
    · exact Leads.pure (by simp)

end

section

variable {P : Step → Prop} {w : World}

theorem attachAll_leads {r : Ref Recorder} (hr : w.recorders.Has r) {ps : List (Ref Pipeline)}
    (hp : ∀ p ∈ ps, w.pipelines.Has p) :
    Leads (Changes P) (fun _ w' => w'.exitHooks = w.exitHooks) (Recorder.attachAll r ps) w := by
  induction ps generalizing w with
  | nil => exact Leads.pure rfl
  | cons p rest ih =>
    have attach : Change P w (w.attachedTo r p) := .attach r p hr (hp p List.mem_cons_self)
    refine Leads.bind (Q := fun _ w' => w' = w.attachedTo r p)
      (Leads.of_ok rfl attach.changes rfl) fun _ w' h hw' => ?_
    subst hw'
    exact ih (h.extends.hasRecorder hr) fun t ht =>
      h.extends.hasPipeline (hp t (List.mem_cons_of_mem p ht))

theorem make_changes (hw : w.InOrder P) {plan : Recorder.Plan}
    (hp : ∀ p ∈ plan.pipelines.getD [], w.pipelines.Has p) :
    Leads (Changes P) Any (Recorder.make plan) w := by
  refine (ofExcept_leads _).bind ?_
  intro _ w₀ _ h
  obtain ⟨-, rfl⟩ := h
  refine (ofExcept_leads _).bind ?_
  intro resource w₀ _ h
  obtain ⟨-, rfl⟩ := h
  refine (build_leads hp).bind ?_
  intro ps w₁ h₁ hps
  have hw₁ := h₁.inOrder hw
  have added := Change.addRecorder (P := P) (w := w₁) plan.className plan.options
    plan.effectiveSampler (if plan.isScripted then some [] else none) resource
  refine Leads.bind (Q := fun r w' => r = w₁.recorders.next ∧ w'.exitHooks = w₁.exitHooks ∧
    w'.recorders.Has r) (Leads.of_ok rfl added.changes ⟨rfl, rfl, ?_⟩) fun r w₂ h₂ hr => ?_
  · simp [Store.Has, Store.next]
  · obtain ⟨rfl, hexits, has⟩ := hr
    refine (attachAll_leads has fun p hp => h₂.extends.hasPipeline (hps p hp)).bind
      fun _ w₃ h₃ hexits' => ?_
    have new : w₁.recorders.next ∉ w₃.exitHooks := by
      rw [hexits', hexits]
      intro hmem
      exact Nat.lt_irrefl _ (hw₁.exits _ hmem)
    split
    · have hook : Change P w₃ { w₃ with exitHooks := w₃.exitHooks ++ [w₁.recorders.next] } :=
        .addHook _ (h₃.extends.hasRecorder has) new
      refine (Leads.modify hook.changes).bind ?_
      intro _ _ _ _
      exact (say_leads ..).bind fun _ _ _ _ => Leads.pure trivial
    · exact (say_leads ..).bind fun _ _ _ _ => Leads.pure trivial

end

/-- A way in which worlds may follow each other in which recorders may be made as well, exit hooks
be taken by the steps that run them, and the catalog be used. -/
class AllowsSteps (P : outParam (Step → Prop)) (R : World → World → Prop) : Prop extends
    AllowsCalls P R where
  make : ∀ {w plan}, w.InOrder P → (∀ p ∈ plan.pipelines.getD [], w.pipelines.Has p) →
    R w ((Recorder.make plan).after w)
  takeHook : ∀ {w : World}, P .runExitHooks → R w { w with exitHooks := w.exitHooks.dropLast }
  use : ∀ {w : World} {c : Catalog} (log : List LogRecord), Catalog.Use P w.catalog c →
    R w { w with catalog := c, log }

instance (P : Step → Prop) : AllowsSteps P (Changes P) where
  make hw known := (make_changes hw known).after
  takeHook _ := Change.takeHook.changes
  use log _ := .single (.aside log _ _ _)

theorem make_leads {P : Step → Prop} {R : World → World → Prop} [AllowsSteps P R] {w : World}
    (hw : w.InOrder P) {plan : Recorder.Plan}
    (hp : ∀ p ∈ plan.pipelines.getD [], w.pipelines.Has p) :
    Leads R (fun r w' => w'.recorders.Has r) (Recorder.make plan) w :=
  Leads.of_after (AllowsSteps.make hw hp) fun _ _ => make_has

/-! ## Creation -/

theorem create_enabled {o : Options} (h : o.enabled.isTruthy = true) :
    Provider.create o = (do
      let c ← Act.catalog (Catalog.select o.provider)
      let p ← c.instantiate o
      say .info Provider.catalogLogger ("Created tracer provider: " ++ o.provider.wording)
      return p) := by
  simp [Provider.create, h]

theorem create_disabled {o : Options} (h : o.enabled.isTruthy = false) (w : World) :
    Provider.create o w = .ok (.idle w.idles.next)
      { w with
        idles := w.idles.add { kind := .noop "NoOpTracerProvider", options := some o }
        log := w.log ++
          [⟨.info, Provider.catalogLogger, "Tracing disabled, using no-op tracer provider"⟩] } := by
  simp only [Provider.create, h, Bool.not_false, if_true]
  rfl

end Tracing
