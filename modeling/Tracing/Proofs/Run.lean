import Tracing.Proofs.Making

/-!
# Tracing.Proofs.Run

The runs of programs lead along every relation of worlds that allows their steps, changes above all.

* `perform_leads` — one step, by the operations that it consists of.
* `runWithin_follows` — programs, by induction on the depth of hooks.
* `Script.run_reachable` — whatever a program does, it stays among the reachable worlds.
-/

namespace Tracing

open Act

/-! ## What is found and looked up -/

theorem mem_of_lookup {α : Type} {names : List (Text × α)} {id : Text} {a : α}
    (h : names.lookup id = some a) : (id, a) ∈ names := by
  obtain ⟨before, after, rfl, -⟩ := List.lookup_eq_some_iff.mp h
  simp

theorem mem_bind {α : Type} {id t : Text} {a b : α} {names : List (Text × α)}
    (h : (t, b) ∈ Names.bind id a names) : b = a ∨ (t, b) ∈ names := by
  rcases List.mem_cons.mp h with h | h
  · cases h
    exact .inl rfl
  · exact .inr (List.mem_filter.mp h).1

theorem mem_of_entryAt {α : Type} {items : List α} {index : Int} {a : α}
    (h : entryAt items index = .ok a) : a ∈ items := by
  unfold entryAt at h
  dsimp only at h
  repeat' split at h
  · cases h
  · cases h
  · next ha =>
    cases h
    exact List.mem_of_getElem? ha
  · cases h

theorem everyInProcessor_ofSpec {P : Step → Prop} {spec : ProcessorSpec Step}
    (h : Step.EveryInProcessor P spec) :
    ((Processor.ofSpec spec).getD default).role.HooksSatisfy P := by
  cases spec with
  | scripted script => exact h
  | _ => trivial

namespace World

/-- A provider, or none, has taken the place of the one installed. -/
def swapped (w : World) (p : Option Provider) : World :=
  { w with installed := p, journal := w.journal ++ [.installed p w.installed] }

/-- How a provider, or none, is shown. -/
def shownAs (w : World) (p : Option Provider) : Wording := p.elim "None" (Provider.shown w)

end World

/-- A provider that cannot be shown in the record has been installed all the same. -/
theorem swap_run (p : Option Provider) (w : World) :
    Installed.swap p w =
      match (w.shownAs p).fault? with
      | none => .ok w.installed ((w.swapped p).logged
          [⟨.info, Installed.logger, "Global tracer provider set to " ++ (w.shownAs p).text⟩])
      | some e => .error e (w.swapped p) := by
  have hrun : Installed.swap p w = (do
      say .info Installed.logger ("Global tracer provider set to " ++ w.shownAs p)
      return w.installed : Act (Option Provider)) (w.swapped p) := by
    cases p with
    | none => rfl
    | some p => cases p <;> rfl
  cases h : (w.shownAs p).fault? <;> simp [hrun, run_map, run_say, h, World.logged]

section

variable {P : Step → Prop} {R : World → World → Prop} {runner : Runner} {w : World}
variable [AllowsSteps P R]
include P

/-! ## Names -/

theorem find_leads {α : Type} (id : Text) (names : List (Text × α)) :
    Leads R (fun a w' => (id, a) ∈ names ∧ w' = w) (Names.find id names) w := by
  unfold Names.find
  split
  next a h => exact Leads.pure ⟨mem_of_lookup h, rfl⟩
  next => exact Leads.throw

theorem pipelineNamed_leads (hw : w.InOrder P) (id : Text) :
    Leads R (fun p w' => w'.pipelines.Has p ∧ w' = w) (Names.pipeline id) w :=
  Leads.get <| (find_leads id _).mono fun p _ _ h =>
    ⟨h.2 ▸ hw.names.pipelines id p h.1, h.2⟩

theorem providerNamed_leads (hw : w.InOrder P) (id : Text) :
    Leads R (fun p w' => w' = w ∧ ∀ r, p = .recorder r → w.recorders.Has r)
      (Names.provider id) w := by
  refine Leads.get <| (find_leads id _).mono fun p w' _ h => ⟨h.2, ?_⟩
  intro r hp
  exact hw.names.providers id r (hp ▸ h.1)

theorem tracerNamed_leads (hw : w.InOrder P) (id : Text) :
    Leads R (fun t w' => w' = w ∧ ∀ r scope, t = some (.recording r scope) →
      (w.recorders.get r).issued = true) (Names.tracer id) w := by
  refine Leads.get <| (find_leads id _).mono fun t w' _ h => ⟨h.2, ?_⟩
  intro r scope ht
  exact hw.names.tracers id r scope (ht ▸ h.1)

theorem recorderNamed_leads (hw : w.InOrder P) (id : Text) (member : String) :
    Leads R (fun r w' => w' = w ∧ w.recorders.Has r) (Names.recorder id member) w := by
  refine (providerNamed_leads hw id).bind ?_
  intro p w' _ h
  obtain ⟨rfl, known⟩ := h
  split
  · exact Leads.pure ⟨rfl, known _ rfl⟩
  · exact Leads.get Leads.throw

theorem setPipeline_leads (hw : w.InOrder P) (id : Text) {p : Ref Pipeline}
    (hp : w.pipelines.Has p) : Leads R (fun _ w' => w'.pipelines.Has p)
      (Names.setPipeline id p) w := by
  refine Leads.of_ok rfl ((Change.name _ ?_).allowed ⟨rfl, rfl⟩) hp
  refine
    { pipelines := fun t q h => ?_
      providers := hw.names.providers
      tracers := hw.names.tracers }
  rcases mem_bind h with rfl | h
  · exact hp
  · exact hw.names.pipelines t q h

theorem setProvider_leads (hw : w.InOrder P) (id : Text) {p : Provider}
    (hp : ∀ r, p = .recorder r → w.recorders.Has r) :
    Leads R Any (Names.setProvider id p) w := by
  refine Leads.modify ((Change.name _ ?_).allowed ⟨rfl, rfl⟩)
  refine
    { pipelines := hw.names.pipelines
      providers := fun t r h => ?_
      tracers := hw.names.tracers }
  rcases mem_bind h with h | h
  · exact hp r h.symm
  · exact hw.names.providers t r h

theorem setTracer_leads (hw : w.InOrder P) (id : Option Text) {t : Option Tracer}
    (ht : ∀ r scope, t = some (.recording r scope) → (w.recorders.get r).issued = true) :
    Leads R Any (Names.setTracer id t) w := by
  cases id with
  | none => exact Leads.pure trivial
  | some id =>
    refine Leads.modify ((Change.name _ ?_).allowed ⟨rfl, rfl⟩)
    refine
      { pipelines := hw.names.pipelines
        providers := hw.names.providers
        tracers := fun t' r scope h => ?_ }
    rcases mem_bind h with h | h
    · exact ht r scope h.symm
    · exact hw.names.tracers t' r scope h

/-! ## Objects that steps describe -/

theorem addIdle_leads (x : Idle) : Leads R Any (addIdle x) w :=
  Leads.of_ok rfl
    ((Change.aside w.log w.current w.catalog (w.idles.add x)).allowed ⟨rfl, rfl⟩) trivial

theorem processorOf_leads (hw : w.InOrder P) {spec : ProcessorSpec Step}
    (hs : Step.EveryInProcessor P spec) :
    Leads R (fun q w' => w'.processors.Has q) (Script.processorOf spec) w := by
  have added := fun w => addProcessor_leads (R := R) (w := w) (everyInProcessor_ofSpec hs)
  cases spec with
  | shared id =>
    refine (pipelineNamed_leads hw id).bind fun p w' _ h => Leads.get (Leads.pure ?_)
    obtain ⟨hp, rfl⟩ := h
    exact hw.wraps p hp
  | scripted script => exact (ofExcept_leads _).bind fun _ w' _ _ => added w' {}
  | simple => exact added w {}
  | batch => exact added w {}
  | base => exact added w {}
  | bare => exact added w {}

theorem makePipeline_leads (hw : w.InOrder P) (id : Text) (name : Value)
    {spec : ProcessorSpec Step} (hs : Step.EveryInProcessor P spec) :
    Leads R (fun p w' => w'.pipelines.Has p) (Script.makePipeline id name spec) w := by
  refine (processorOf_leads hw hs).bind fun q w₁ h₁ hq => Leads.get ?_
  refine (addPipeline_leads hq _).bind ?_
  intro p w₂ h₂ hp
  have hw₂ := (hw.along h₁).along h₂
  exact (setPipeline_leads hw₂ id hp).bind fun _ _ _ hp => Leads.pure hp

theorem pipelinesOf_leads (hw : w.InOrder P) {specs : List (PipelineSpec Step)}
    (hs : Step.EveryInPipelines P specs) :
    Leads R (fun ps w' => ∀ p ∈ ps, w'.pipelines.Has p) (Script.pipelinesOf specs) w := by
  induction specs generalizing w with
  | nil => exact Leads.pure (by simp)
  | cons spec rest ih =>
    cases spec with
    | make id name spec =>
      refine (makePipeline_leads hw id name hs.1).bind ?_
      intro p w₁ h₁ hp
      refine (ih (hw.along h₁) hs.2).bind fun ps w₂ h₂ hps => Leads.pure ?_
      simpa using ⟨((hw.along h₁).extends h₂).hasPipeline hp, hps⟩
    | known id =>
      refine (pipelineNamed_leads hw id).bind ?_
      intro p w₁ h₁ hp
      refine (ih (hw.along h₁) hs.2).bind fun ps w₂ h₂ hps => Leads.pure ?_
      simpa using ⟨((hw.along h₁).extends h₂).hasPipeline hp.1, hps⟩

theorem pipelinesOf?_leads (hw : w.InOrder P) {specs : Option (List (PipelineSpec Step))}
    (hs : Step.EveryInPipelines? P specs) :
    Leads R (fun ps w' => ∀ p ∈ ps.getD [], w'.pipelines.Has p)
      (Script.pipelinesOf? specs) w := by
  cases specs with
  | none => exact Leads.pure (by simp)
  | some specs => exact (pipelinesOf_leads hw hs).map fun _ _ h => h

theorem optionsOf_leads (args : Arguments) :
    Leads R (fun _ w' => w' = w) (Script.optionsOf args) w := by
  cases args with
  | none => exact Leads.pure rfl
  | some args => exact (ofExcept_leads _).map fun _ _ h => h.2

/-! ## Tracers and spans -/

theorem ask_leads (hw : w.InOrder P) {s : Step} (hs : P s) (r : Ref Recorder) {request : Request}
    {fault : Option Failure} (ha : (request, fault) ∈ s.asks) :
    Leads R (fun tracer w' => ∀ t scope, tracer = .recording t scope →
      (w'.recorders.get t).issued = true) (Recorder.getTracer r request fault) w := by
  have issued := getTracer_issued hw.kept r request fault
  have asked := Change.ask (w := w) s hs r request fault ha
  refine Leads.of_after (asked.allowed_standing (ask_after r request fault)) ?_
  intro tracer w' hx
  rw [Leads, hx] at issued
  exact issued.2

/-- A tracer that may have been given is one that its recorder has issued. -/
def IssuedIn (t : Option Tracer) (w : World) : Prop :=
  ∀ r scope, t = some (.recording r scope) → (w.recorders.get r).issued = true

theorem providerGetTracer_leads (hw : w.InOrder P) {s : Step} (hs : P s) (p : Provider)
    {request : Request} {fault : Option Failure} (ha : (request, fault) ∈ s.asks) :
    Leads R IssuedIn (p.getTracer request fault) w := by
  cases p with
  | recorder r =>
    refine (ask_leads hw hs r ha).map ?_
    intro tracer w' h t scope ht
    cases ht
    exact h t scope rfl
  | idle r =>
    refine Leads.get ?_
    split
    · exact Leads.pure nofun
    · exact Leads.pure nofun

theorem mapM_leads {α β : Type} {f : α → Act β} {l : List α} (hw : w.InOrder P)
    (h : ∀ a ∈ l, ∀ w, w.InOrder P → Leads R Any (f a) w) :
    Leads R Any (l.mapM f) w := by
  induction l generalizing w with
  | nil => exact Leads.pure trivial
  | cons a rest ih =>
    rw [List.mapM_cons]
    refine (h a List.mem_cons_self w hw).bind ?_
    intro _ w₁ h₁ _
    refine (ih (hw.along h₁) fun b hb => h b (List.mem_cons_of_mem a hb)).bind
      fun _ _ _ _ => Leads.pure trivial

theorem tracersFor_leads (hw : w.InOrder P) {id : Text} {count : Nat} {names : List Value}
    (hs : P (.threads id count names)) (p : Provider) :
    Leads R Any (Script.tracersFor p names count) w := by
  refine mapM_leads hw fun i _ w hw => (providerGetTracer_leads hw hs p ?_).any
  cases hn : names[i % names.length]? with
  | none => simp [Step.asks]
  | some name =>
    have hmem := List.mem_of_getElem? hn
    simp [Step.asks, hmem]

theorem runBody_leads (hr : runner.Follows P R) (hw : w.InOrder P) (context : Option SpanContext)
    {body : Option (List Step)} (hb : Step.EveryInBody P body) :
    Leads R Any (Tracer.runBody runner context body) w := by
  have entered : R w { w with current := context } :=
    (Change.aside w.log context w.catalog w.idles).allowed ⟨rfl, rfl⟩
  have left : ∀ w' : World, R w' { w' with current := w.current } := fun w' =>
    (Change.aside w'.log w.current w'.catalog w'.idles).allowed ⟨rfl, rfl⟩
  refine Leads.get ((Leads.modify entered).bind fun _ w₁ h₁ _ => ?_)
  cases body with
  | none => exact (Leads.modify (left w₁)).bind fun _ _ _ _ => Leads.pure trivial
  | some steps =>
    refine Leads.bind (Q := Any) (Leads.map (Q := Any) (S := Any) (Leads.of_ok rfl
      (hr steps w₁ (hw.along h₁) hb) trivial) fun _ _ _ => trivial) fun _ w₂ _ _ => ?_
    exact (Leads.modify (left w₂)).bind fun _ _ _ _ => Leads.pure trivial

theorem withSpan_leads (hr : runner.Follows P R) (hw : w.InOrder P) {tracer : Tracer}
    (ht : IssuedIn (some tracer) w) (request : SpanRequest) {body : Option (List Step)}
    (hb : Step.EveryInBody P body) (fault : Option Failure) :
    Leads R Any (Tracer.withSpan runner tracer request body fault) w := by
  cases tracer with
  | idle =>
    refine Leads.get ((runBody_leads hr hw _ hb).bind fun _ _ _ _ => ?_)
    cases fault with
    | none => exact Leads.pure trivial
    | some e => exact Leads.throw_bind
  | recording r scope =>
    have issued := ht r scope rfl
    have start : R w ((Recorder.startSpan r scope request).after w) :=
      (Change.startSpan r scope request issued).allowed_standing
        (startSpan_after r scope request).toSameStanding
    have entry := startSpan_serves r scope request w
    refine Leads.bind (Leads.of_after start fun _ _ hx => (entry.of_eq hx).2) ?_
    rintro ⟨span, context⟩ w₁ h₁ started
    have hw₁ := hw.along h₁
    refine (runBody_leads hr hw₁ _ hb).bind ?_
    intro replies w₂ h₂ _
    have issued₂ := (hw.extends (trans_of R h₁ h₂)).issued r issued
    cases span with
    | none =>
      dsimp only
      split
      · exact Leads.throw_bind
      · exact Leads.pure trivial
    | some span =>
      have started₂ := (hw₁.extends h₂).journal.subset (started span rfl)
      have ended : ∀ failed, R w₂ ((Recorder.endSpan r span failed).after w₂) := fun failed =>
        (Change.endSpan r span failed issued₂ started₂).allowed_standing
          (endSpan_after r span failed).toSameStanding
      refine Leads.bind (Q := Any) (Leads.of_after (ended _) fun _ _ _ => trivial)
        fun _ w₃ _ _ => ?_
      dsimp only
      split
      · exact Leads.throw_bind
      · exact Leads.pure trivial

/-! ## Providers -/

theorem providerFlush_leads (hr : runner.Follows P R) (hw : w.InOrder P) (p : Provider) :
    Leads R Any (p.flush runner) w := by
  cases p with
  | recorder r => exact (recorderFlush_leads hr hw r).map fun _ _ _ => trivial
  | idle r =>
    refine Leads.get ?_
    split
    · exact Leads.pure trivial
    · exact Leads.pure trivial

theorem providerShutdown_leads (hr : runner.Follows P R) (hw : w.InOrder P) (p : Provider) :
    Leads R Any (p.shutdown runner) w := by
  cases p with
  | recorder r => exact shutdown_leads hr hw r
  | idle r =>
    refine Leads.get ?_
    dsimp only
    split
    · exact Leads.pure trivial
    all_goals exact Leads.throw

theorem setOption_leads {id : Text} {field v : Value} (hs : P (.setOption id field v))
    (p : Provider) : Leads R Any (Script.setOption p field v) w := by
  cases p with
  | recorder r =>
    refine (ofExcept_leads _).bind ?_
    intro name w' _ h
    obtain ⟨hname, -⟩ := h
    have hfield : field = .str name := by
      unfold Value.fieldName at hname
      split at hname <;> cases hname
      rfl
    have assigned := Change.assign (w := w') id name v (hfield ▸ hs) r
    exact Leads.modify (assigned.allowed_standing (assign_standing r name v))
  | idle r =>
    refine Leads.get ?_
    dsimp only
    split
    · exact Leads.throw_bind
    · refine (ofExcept_leads _).bind ?_
      intro name w' _ _
      split
      · exact Leads.throw
      · exact Leads.modify
          ((Change.aside w'.log w'.current w'.catalog _).allowed ⟨rfl, rfl⟩)

/-- A text is put together for an answer, and that changes nothing. -/
theorem composed_leads (m : Wording) (f : Text → Answer) :
    Leads R Any (compose m >>= fun text => pure (f text)) w :=
  (ofExcept_leads _).bind fun _ _ _ _ => Leads.pure trivial

theorem swap_leads (p : Option Provider) : Leads R Any (Installed.swap p) w := by
  have installed : R w (w.swapped p) := (Change.install p).allowed (.of_entry rfl rfl rfl)
  have hrun := swap_run p w
  split at hrun
  · exact Leads.of_ok hrun (trans_of R installed (logged_allowed _)) trivial
  · exact Leads.of_error hrun installed

theorem installedProvider_leads (member : String) :
    Leads R (fun _ w' => w' = w) (Installed.provider member) w := by
  refine Leads.get ?_
  split
  · exact Leads.pure rfl
  · exact Leads.throw

theorem installedShutdown_leads (hr : runner.Follows P R) (hw : w.InOrder P) :
    Leads R Any (Installed.shutdown runner) w := by
  refine (addIdle_leads _).bind ?_
  intro fresh w₁ h₁ _
  refine (swap_leads _).bind ?_
  intro previous w₂ h₂ _
  cases previous with
  | none => exact Leads.pure trivial
  | some p =>
    refine Leads.get ?_
    split
    · exact providerShutdown_leads hr ((hw.along h₁).along h₂) p
    · exact Leads.pure trivial

theorem catalog_leads {α : Type} {x : Cataloguing α} (operation : Catalog.Operation x) :
    Leads R Any (Act.catalog x) w := by
  have use : Catalog.Use P w.catalog (Catalog.left x (w.catalog, [])) := .perform operation []
  unfold Leads Act.catalog
  cases hx : x (w.catalog, []) with
  | ok a s =>
    rw [Catalog.left_of_ok hx] at use
    exact ⟨AllowsSteps.use _ use, trivial⟩
  | error e s =>
    rw [Catalog.left_of_error hx] at use
    exact AllowsSteps.use _ use

theorem runExitHooks_leads (hr : runner.Follows P R) (hw : w.InOrder P) (hs : P .runExitHooks)
    (fuel : Nat) :
    Leads R Any (Script.runExitHooks runner fuel) w := by
  induction fuel generalizing w with
  | zero => exact Leads.pure trivial
  | succ fuel ih =>
    refine Leads.get ?_
    dsimp only
    split
    · exact Leads.pure trivial
    · next r _ =>
      have taken : R w { w with exitHooks := w.exitHooks.dropLast } := AllowsSteps.takeHook hs
      refine Leads.bind (Q := Any) (Leads.of_ok rfl taken trivial) ?_
      intro _ w₁ h₁ _
      have hw₁ := hw.along h₁
      refine (shutdown_leads hr hw₁ r).attempt.bind ?_
      intro outcome w₂ h₂ _
      cases outcome with
      | ok reports => exact (ih (hw₁.along h₂)).bind fun _ _ _ _ => Leads.pure trivial
      | error e => exact (ih (hw₁.along h₂)).bind fun _ _ _ _ => Leads.pure trivial

theorem instantiate_leads (hw : w.InOrder P) (o : Options) (c : ProviderClass) :
    Leads R (fun p w' => ∀ r, p = .recorder r → w'.recorders.Has r)
      (c.instantiate o) w := by
  have idle : ∀ kind, Leads R (fun p w' => ∀ r, p = .recorder r → w'.recorders.Has r)
      (ProviderClass.instantiate.idle o kind) w := fun kind =>
    (addIdle_leads _).map fun _ _ _ => nofun
  have made : ∀ plan : Recorder.Plan, plan.pipelines = none →
      Leads R (fun p w' => ∀ r, p = .recorder r → w'.recorders.Has r)
        (Provider.recorder <$> Recorder.make plan) w := fun plan hp =>
    (make_leads hw (by simp [hp])).map fun r _ h t ht => by
      cases ht
      exact h
  obtain ⟨_, _, instances, _⟩ := c
  cases instances with
  | recorder => exact made _ rfl
  | noop => exact idle _
  | minimal => exact idle _
  | interface => exact Leads.throw
  | exploding => exact Leads.throw

theorem create_leads (hw : w.InOrder P) (o : Options) :
    Leads R (fun p w' => ∀ r, p = .recorder r → w'.recorders.Has r)
      (Provider.create o) w := by
  unfold Provider.create
  split
  · refine (say_leads ..).bind ?_
    intro _ w₁ h₁ _
    exact (instantiate_leads (hw.along h₁) o .noop).bind fun _ _ _ hp => Leads.pure hp
  · refine (catalog_leads (.lookup (.select _))).bind ?_
    intro c w₁ h₁ _
    refine (instantiate_leads (hw.along h₁) o c).bind ?_
    intro p w₂ h₂ hp
    have hw₂ := (hw.along h₁).along h₂
    exact (say_leads ..).bind fun _ _ h₃ _ =>
      Leads.pure fun r hr => (hw₂.extends h₃).hasRecorder (hp r hr)

theorem addSpanProcessor_leads (hw : w.InOrder P) {r : Ref Recorder} (hr : w.recorders.Has r)
    {q : Ref Processor} (hq : w.processors.Has q) (name : Value) :
    Leads R (fun p w' => w'.pipelines.Has p) (Recorder.addSpanProcessor r q name) w := by
  refine Leads.get ((addPipeline_leads hq _).bind fun p w₁ h₁ hp => ?_)
  have hw₁ := hw.along h₁
  have attach : Change P w₁ (w₁.attachedTo r p) :=
    .attach r p ((hw.extends h₁).hasRecorder hr) hp
  have attached : R w₁ (w₁.attachedTo r p) := attach.allowed (.of_entry rfl rfl rfl)
  refine Leads.bind (Q := Any) (Leads.of_ok rfl attached trivial) ?_
  intro _ w₂ h₂ _
  exact (say_leads ..).bind fun _ _ h₃ _ =>
    Leads.pure ((hw₁.extends (trans_of R h₂ h₃)).hasPipeline hp)

theorem installedGetTracer_leads (hw : w.InOrder P) {name : Value} {version : Option Value}
    {tracerId : Option Text} (hs : P (.globalGetTracer (some name) version tracerId)) :
    Leads R IssuedIn (Installed.getTracer name (version.getD .null)) w := by
  refine (installedProvider_leads _).bind ?_
  intro p w₁ h₁ _
  refine providerGetTracer_leads (hw.along h₁) hs p ?_
  cases version with
  | none => simp [Step.asks, Identity.withName]
  | some v => cases v <;> simp [Step.asks, Identity.withName, Identity.withVersion]

/-! ## Steps -/

theorem perform_leads (hr : runner.Follows P R) (hw : w.InOrder P) (bound : Nat) {s : Step}
    (hs : Step.Every P s) : Leads R Any (Script.perform runner bound s) w := by
  obtain ⟨own, inside⟩ := hs
  cases s with
  | newPipeline id name spec =>
    refine (makePipeline_leads hw id name inside).bind ?_
    intro _ _ _ _
    exact Leads.get (composed_leads _ _)
  | buildExport id args =>
    refine (ofExcept_leads _).bind ?_
    intro o w₁ h₁ _
    refine (buildExport_leads o).bind ?_
    intro p w₂ h₂ hp
    refine (setPipeline_leads ((hw.along h₁).along h₂) id hp).bind ?_
    intro _ _ _ _
    exact Leads.get (ofExcept_leads _).any
  | flushPipeline id timeout =>
    refine (pipelineNamed_leads hw id).bind ?_
    intro p w₁ h₁ _
    exact (flush_leads hr (hw.along h₁) p timeout).bind fun _ _ _ _ => Leads.pure trivial
  | shutdownPipeline id =>
    refine (pipelineNamed_leads hw id).bind ?_
    intro p w₁ h₁ _
    exact (close_leads hr (hw.along h₁) p).bind fun _ _ _ _ => Leads.pure trivial
  | pipelineState id =>
    exact (pipelineNamed_leads hw id).bind fun _ _ _ _ => Leads.get (composed_leads _ _)
  | shutdownProcessor id =>
    refine (pipelineNamed_leads hw id).bind fun p w₁ h₁ _ => Leads.get ?_
    exact (stop_leads hr (hw.along h₁) _).bind fun _ _ _ _ => Leads.pure trivial
  | calls id =>
    refine (pipelineNamed_leads hw id).bind fun p w₁ h₁ _ => Leads.get ?_
    dsimp only
    split
    · exact Leads.throw_bind
    · exact Leads.pure trivial
  | exported id =>
    refine (pipelineNamed_leads hw id).bind fun p w₁ h₁ _ => Leads.get ?_
    dsimp only
    split
    · exact Leads.throw_bind
    · exact Leads.pure trivial
  | newProvider id args specs sampler resource onExit =>
    refine (optionsOf_leads args).bind ?_
    intro o w₁ h₁ _
    refine (ofExcept_leads _).bind ?_
    intro attributes w₂ h₂ _
    have hw₂ := (hw.along h₁).along h₂
    refine (pipelinesOf?_leads hw₂ inside).bind ?_
    intro ps w₃ h₃ hps
    have hw₃ := hw₂.along h₃
    refine (make_leads hw₃ hps).bind ?_
    intro r w₄ h₄ has
    refine (setProvider_leads (hw₃.along h₄) id ?_).bind ?_
    · rintro t ⟨⟩
      exact has
    · intro _ _ _ _
      exact Leads.get (composed_leads _ _)
  | newNoop id args =>
    refine (optionsOf_leads args).bind ?_
    intro o w₁ h₁ _
    refine (addIdle_leads _).bind ?_
    intro r w₂ h₂ _
    refine (setProvider_leads ((hw.along h₁).along h₂) id (by simp)).bind ?_
    intro _ _ _ _
    exact Leads.get (Leads.pure trivial)
  | newOther id kind =>
    refine (addIdle_leads _).bind ?_
    intro r w₁ h₁ _
    refine (setProvider_leads (hw.along h₁) id (by simp)).bind ?_
    intro _ _ _ _
    exact Leads.get (Leads.pure trivial)
  | getTracer id tracerId request fault =>
    refine (providerNamed_leads hw id).bind ?_
    intro p w₁ h₁ _
    have hw₁ := hw.along h₁
    refine (providerGetTracer_leads hw₁ own p (by simp [Step.asks])).bind ?_
    intro t w₂ h₂ ht
    refine (setTracer_leads (hw₁.along h₂) tracerId ht).bind fun _ _ _ _ => Leads.pure trivial
  | span id name kind attributes body fault =>
    refine (tracerNamed_leads hw id).bind ?_
    intro t w₁ h₁ ht
    obtain ⟨rfl, issued⟩ := ht
    cases t with
    | none => exact Leads.throw
    | some tracer =>
      refine (ofExcept_leads _).bind ?_
      intro kind w₂ h₂ hk
      obtain ⟨-, rfl⟩ := hk
      exact (withSpan_leads hr hw issued _ inside fault).bind fun _ _ _ _ => Leads.pure trivial
  | forceFlush id =>
    refine (providerNamed_leads hw id).bind ?_
    intro p w₁ h₁ _
    exact (providerFlush_leads hr (hw.along h₁) p).bind fun _ _ _ _ => Leads.pure trivial
  | shutdown id =>
    refine (providerNamed_leads hw id).bind ?_
    intro p w₁ h₁ _
    exact (providerShutdown_leads hr (hw.along h₁) p).bind fun _ _ _ _ => Leads.pure trivial
  | isShutdown id =>
    exact (recorderNamed_leads hw id _).bind fun _ _ _ _ => Leads.get (Leads.pure trivial)
  | stats id =>
    exact (recorderNamed_leads hw id _).bind fun _ _ _ _ => Leads.get (Leads.pure trivial)
  | shown id =>
    exact (providerNamed_leads hw id).bind fun _ _ _ _ => Leads.get (composed_leads _ _)
  | pipelines id =>
    refine (recorderNamed_leads hw id _).bind fun _ _ _ _ => Leads.get ?_
    exact (ofExcept_leads _).bind fun _ _ _ _ => Leads.pure trivial
  | adopt id index pipelineId =>
    refine (recorderNamed_leads hw id _).bind ?_
    intro r w₁ h₁ _
    refine (ofExcept_leads _).bind fun n w₂ h₂ _ => Leads.get ?_
    have hw₂ := (hw.along h₁).along h₂
    refine (ofExcept_leads _).bind ?_
    intro p w₃ h₃ hp
    obtain ⟨hp, rfl⟩ := hp
    refine (setPipeline_leads hw₂ pipelineId (hw₂.owns r p (mem_of_entryAt hp))).bind
      fun _ _ _ _ => Leads.get (ofExcept_leads _).any
  | resource id =>
    exact (recorderNamed_leads hw id _).bind fun _ _ _ _ => Leads.get (ofExcept_leads _).any
  | addProcessor id pipelineId name spec =>
    refine (providerNamed_leads hw id).bind ?_
    intro _ w₁ h₁ _
    have hw₁ := hw.along h₁
    refine (processorOf_leads hw₁ inside).bind ?_
    intro q w₂ h₂ hq
    refine (recorderNamed_leads (hw₁.along h₂) id _).bind ?_
    intro r w₃ h₃ hr
    have hw₃ := (hw₁.along h₂).along h₃
    have he := ((hw.along h₁).along h₂).extends h₃
    refine (addSpanProcessor_leads hw₃ (he.hasRecorder hr.2) (he.hasProcessor hq) name).bind ?_
    intro p w₄ h₄ hp
    exact (setPipeline_leads (hw₃.along h₄) pipelineId hp).bind fun _ _ _ _ =>
      Leads.get (composed_leads _ _)
  | setOption id field v =>
    refine (providerNamed_leads hw id).bind ?_
    intro p _ _ _
    exact (setOption_leads own p).bind fun _ _ _ _ => Leads.pure trivial
  | sampler id =>
    exact (recorderNamed_leads hw id _).bind fun _ _ _ _ => Leads.get (Leads.pure trivial)
  | threads id count names =>
    refine (providerNamed_leads hw id).bind ?_
    intro p w₁ h₁ _
    exact (tracersFor_leads (hw.along h₁) own p).bind fun _ _ _ _ => Leads.pure trivial
  | exitHooks => exact Leads.get (Leads.pure trivial)
  | runExitHooks =>
    exact (runExitHooks_leads hr hw own bound).bind fun _ _ _ _ => Leads.pure trivial
  | setGlobal id =>
    cases id with
    | none =>
      exact (swap_leads none).bind fun _ _ _ _ => Leads.get (Leads.pure trivial)
    | some id =>
      refine Leads.bind (Leads.map (providerNamed_leads hw id) fun _ _ _ => trivial) (Q := Any)
        fun p _ _ _ => ?_
      exact (swap_leads p).bind fun _ _ _ _ => Leads.get (Leads.pure trivial)
  | getGlobal => exact Leads.get (Leads.pure trivial)
  | globalGetTracer name version tracerId =>
    cases name with
    | none => exact Leads.throw
    | some name =>
      refine (installedGetTracer_leads hw own).bind ?_
      intro t w₁ h₁ ht
      exact (setTracer_leads (hw.along h₁) tracerId ht).bind fun _ _ _ _ => Leads.pure trivial
  | globalForceFlush =>
    refine Leads.bind (Q := Any) ((installedProvider_leads _).bind fun p w₁ h₁ _ => ?_)
      fun _ _ _ _ => Leads.pure trivial
    exact providerFlush_leads hr (hw.along h₁) p
  | globalShutdown =>
    exact (installedShutdown_leads hr hw).bind fun _ _ _ _ => Leads.pure trivial
  | entryPoints announced reset =>
    have use : Catalog.Use P w.catalog (w.catalog.announce announced reset) :=
      .announce announced reset own
    refine (Leads.modify (AllowsSteps.use w.log use)).bind ?_
    exact fun _ _ _ _ => Leads.pure trivial
  | entryPointReads => exact Leads.get (Leads.pure trivial)
  | discover => exact (catalog_leads (.lookup .discover)).bind fun _ _ _ _ => Leads.pure trivial
  | register name c => exact (catalog_leads (.register name c)).bind fun _ _ _ _ => Leads.pure trivial
  | listProviders => exact (catalog_leads (.lookup .names)).bind fun _ _ _ _ => Leads.pure trivial
  | available name =>
    exact (catalog_leads (.lookup (.isAvailable name))).bind fun _ _ _ _ => Leads.pure trivial
  | create id args =>
    refine (optionsOf_leads args).bind ?_
    intro o w₁ h₁ _
    refine (create_leads (hw.along h₁) _).bind ?_
    intro p w₂ h₂ hp
    refine (setProvider_leads ((hw.along h₁).along h₂) id hp).bind ?_
    intro _ _ _ _
    exact Leads.get (composed_leads _ _)

/-! ## Programs -/

theorem reply_leads (hr : runner.Follows P R) (hw : w.InOrder P) (bound : Nat) {s : Step}
    (hs : Step.Every P s) : R w (Script.reply runner bound s w).2 := by
  have own : R w { w with log := [] } := logged_allowed _
  have performed := (perform_leads hr (hw.along own) bound hs).after
  have stepped := trans_of R own performed
  have back : ∀ w' : World, R w' { w' with log := w.log } := fun w' => logged_allowed _
  unfold Script.reply
  cases hx : Script.perform runner bound s { w with log := [] } with
  | ok a w' =>
    rw [after_of_ok hx] at stepped
    exact trans_of R stepped (back w')
  | error e w' =>
    rw [after_of_error hx] at stepped
    exact trans_of R stepped (back w')

theorem replies_follow (hr : runner.Follows P R) (bound : Nat) :
    Runner.Follows P R (Script.replies runner bound) := by
  intro steps
  induction steps with
  | nil => exact fun w _ _ => refl_of R w
  | cons s rest ih =>
    intro w hw hs
    have first := reply_leads hr hw bound hs.1
    exact trans_of R first (ih _ (hw.along first) hs.2)

/-- However deep hooks and bodies are nested, programs lead along `R`. -/
theorem runWithin_follows (fuel : Nat) : Runner.Follows P R (Script.runWithin fuel) := by
  induction fuel with
  | zero => exact fun _ w _ _ => refl_of R w
  | succ fuel ih => exact replies_follow ih fuel

end

theorem runWithin_keeps (P : Step → Prop) (fuel : Nat) : Runner.Keeps P (Script.runWithin fuel) :=
  runWithin_follows fuel

theorem Script.run_changes {P : Step → Prop} {program : List Step} {w : World}
    (hw : w.InOrder P) (hp : Step.EveryIn P program) :
    Changes P w (Script.run program w).2 :=
  runWithin_keeps P _ program w hw hp

/-- A program whose steps satisfy `P` leads to a reachable world. -/
theorem Script.run_reachable {P : Step → Prop} {program : List Step}
    (hp : Step.EveryIn P program) (telemetryOff : Bool) :
    Reachable P (Script.run program { telemetryOff }).2 :=
  ⟨telemetryOff, Script.run_changes (World.inOrder_initial telemetryOff) hp⟩

theorem Script.run_reachable_any (program : List Step) :
    Reachable (fun _ => True) (Script.run program {}).2 :=
  Script.run_reachable (Step.everyIn_of_forall (fun _ => trivial) program) false

end Tracing
