import Tracing.Proofs.Steady

/-!
# Tracing.Proofs.Answers

From worlds alike, steps give related answers.

* `optionsOf_steady`, `setOption_steady` — options that are given and options that are assigned.
* `newProvider_agree` — two recorders made with options that are related.
* `perform_agree`     — from worlds alike, a step gives related answers.
* `reply_agree`       — so what is replied to it is related, whatever the other replies.
-/

namespace Tracing

open Act

section

variable {A : World → World → Prop}

theorem find_agree {α : Type} (id : Text) {names names' : List (Text × α)}
    (h : names'.lookup id = names.lookup id) :
    Match A (Names.find id names) (Names.find id names') := by
  unfold Names.find
  rw [h]
  split
  · exact Agree.pure rfl
  · exact Agree.throw _

/-- Options that are the default ones where none are given. -/
def OrDefault (O : Options → Options → Prop) (o o' : Option Options) : Prop :=
  O (o.getD {}) (o'.getD {})

theorem optionsOf_steady (args : Arguments) :
    Agree A (fun o o' => o' = o ∧ args.Gives (o.getD {})) (Script.optionsOf args)
      (Script.optionsOf args) := by
  cases args with
  | none => exact Agree.pure ⟨rfl, rfl⟩
  | some args =>
    have given : Agree A (fun o o' => o' = o ∧ Options.ofArguments args = .ok o)
        (MonadExcept.ofExcept (Options.ofArguments args))
        (MonadExcept.ofExcept (Options.ofArguments args)) := by
      refine Agree.ofExcept ?_
      cases Options.ofArguments args with
      | error e => exact .error e
      | ok o => exact .ok ⟨rfl, rfl⟩
    exact given.map fun o o' h => ⟨congrArg some h.1, h.2⟩

theorem mapM_steady {α β : Type} {f : α → Act β} {l : List α} (h : ∀ a ∈ l, Steady A (f a)) :
    Steady A (l.mapM f) := by
  induction l with
  | nil => exact Agree.pure rfl
  | cons a rest ih =>
    rw [List.mapM_cons]
    refine (h a List.mem_cons_self).bind ?_
    intro b
    exact (ih fun c hc => h c (List.mem_cons_of_mem a hc)).bind fun _ => Agree.pure rfl

end

section

variable {P : Step → Prop} {O : Options → Options → Prop} {V : Answer → Answer → Prop}
  {S : List Reply → List Reply → Prop} {A : World → World → Prop} [likens : Likens P O V S A]
  {runner runner' : Runner}
include likens

/-- An answer that may fail, whatever it is made of. -/
theorem ofExcept_same {β : Type} (x : Except Failure β) (f : β → Answer) :
    Agree A V (MonadExcept.ofExcept x >>= fun b => pure (f b))
      (MonadExcept.ofExcept x >>= fun b => pure (f b)) :=
  Match.bind (Steady.ofExcept x) fun _ => Agree.pure (likens.same _)

/-! ## Names -/

theorem pipelineNamed_steady (id : Text) : Steady A (Names.pipeline id) :=
  read_agree fun _ _ h => find_agree id (by rw [h.pipelineNames])

theorem providerNamed_steady (id : Text) : Steady A (Names.provider id) :=
  read_agree fun _ _ h => find_agree id (by rw [h.providerNames])

theorem tracerNamed_steady {id : Text} {name kind attributes : Value} {body : Option (List Step)}
    {fault : Option Failure} (hs : P (.span id name kind attributes body fault)) :
    Steady A (Names.tracer id) :=
  Agree.get fun _ _ h => find_agree id (likens.tracer h hs)

theorem recorderNamed_steady (id : Text) (member : String) :
    Steady A (Names.recorder id member) := by
  refine (providerNamed_steady id).bind ?_
  intro p
  split
  · exact Agree.pure rfl
  · refine read_agree ?_
    intro w w' h
    rw [h.className_eq]
    exact Agree.throw _

theorem setPipeline_steady (id : Text) (p : Ref Pipeline) : Steady A (Names.setPipeline id p) :=
  put_steady

theorem setProvider_steady (id : Text) (p : Provider) : Steady A (Names.setProvider id p) :=
  put_steady

theorem setTracer_steady (id : Option Text) (t : Option Tracer) :
    Steady A (Names.setTracer id t) := by
  cases id with
  | none => exact Agree.pure rfl
  | some id => exact Agree.modify fun _ _ h => likens.bindTracer id t h

/-! ## Objects that steps describe -/

theorem processorOf_steady {spec : ProcessorSpec Step}
    (hs : Step.EveryInProcessor P spec) : Steady A (Script.processorOf spec) := by
  have new : Steady A (addProcessor ((Processor.ofSpec spec).getD default)) :=
    addProcessor_steady (everyInProcessor_ofSpec hs)
  cases spec with
  | shared id =>
    refine (pipelineNamed_steady id).bind fun p => read_agree fun w w' h => ?_
    rw [h.pipelines]
    exact Agree.pure rfl
  | scripted script => exact (Steady.ofExcept _).bind fun _ => new
  | simple => exact new
  | batch => exact new
  | base => exact new
  | bare => exact new

theorem makePipeline_steady (id : Text) (name : Value) {spec : ProcessorSpec Step}
    (hs : Step.EveryInProcessor P spec) :
    Steady A (Script.makePipeline id name spec) := by
  refine (processorOf_steady hs).bind fun q => read_agree fun w w' h => ?_
  rw [h.processors]
  refine (addPipeline_steady _).bind ?_
  intro p
  exact (setPipeline_steady id p).bind fun _ => Agree.pure rfl

theorem pipelinesOf_steady {specs : List (PipelineSpec Step)}
    (hs : Step.EveryInPipelines P specs) : Steady A (Script.pipelinesOf specs) := by
  induction specs with
  | nil => exact Agree.pure rfl
  | cons spec rest ih =>
    cases spec with
    | make id name spec =>
      refine (makePipeline_steady id name hs.1).bind ?_
      intro p
      exact (ih hs.2).bind fun ps => Agree.pure rfl
    | known id =>
      refine (pipelineNamed_steady id).bind ?_
      intro p
      exact (ih hs.2).bind fun ps => Agree.pure rfl

theorem pipelinesOf?_steady {specs : Option (List (PipelineSpec Step))}
    (hs : Step.EveryInPipelines? P specs) : Steady A (Script.pipelinesOf? specs) := by
  cases specs with
  | none => exact Agree.pure rfl
  | some specs => exact (pipelinesOf_steady hs).map fun _ _ h => congrArg some h

/-! ## Options -/

theorem setOption_steady {id : Text} {field v : Value} (hs : P (.setOption id field v))
    (p : Provider) : Steady A (Script.setOption p field v) := by
  cases p with
  | recorder r =>
    refine Agree.ofExcept_bind ?_
    intro name hname
    exact Agree.modify fun _ _ h => likens.assign r h hs hname
  | idle r =>
    refine read_agree ?_
    intro w w' h
    rw [h.idles]
    dsimp only
    split
    · exact Agree.throw_bind _
    · refine (Steady.ofExcept _).bind ?_
      intro name
      split
      · exact Agree.throw _
      · exact put_steady

/-! ## Concurrent requests and exit hooks -/

theorem tracersFor_steady {id : Text} {count : Nat} {names : List Value}
    (hs : P (.threads id count names)) (p : Provider) :
    Steady A (Script.tracersFor p names count) := by
  refine mapM_steady fun i _ => providerGetTracer_steady p hs ?_
  refine List.mem_map.mpr ⟨(names[i % names.length]?).getD .null, ?_, rfl⟩
  cases hn : names[i % names.length]? with
  | none => exact List.mem_cons_self
  | some name => exact List.mem_cons_of_mem _ (List.mem_of_getElem? hn)

theorem runExitHooks_agree (hr : RunnersAgree P S A runner runner') (fuel : Nat) :
    Match A (Script.runExitHooks runner fuel) (Script.runExitHooks runner' fuel) := by
  induction fuel with
  | zero => exact Agree.pure rfl
  | succ fuel ih =>
    refine Agree.get ?_
    intro w w' h
    have reads := likens.reads h
    rw [reads.exitHooks]
    dsimp only
    split
    · exact Agree.pure rfl
    next r _ =>
      have taken : Match A (set { w with exitHooks := w.exitHooks.dropLast } : Act PUnit)
          (set { w' with exitHooks := w.exitHooks.dropLast }) :=
        ⟨fun _ _ _ => .ok (put_alike h fun v => { v with exitHooks := w.exitHooks.dropLast }) rfl⟩
      refine taken.bind fun _ => ?_
      rw [reads.idOf_eq]
      refine Agree.bind (Agree.attempt (shutdown_agree hr r)) ?_
      intro _ _ ended
      have others : ∀ answer : Answer, Match A
          (do return (w.idOf (.recorder r), answer) :: (← Script.runExitHooks runner fuel))
          (do return (w.idOf (.recorder r), answer) :: (← Script.runExitHooks runner' fuel)) :=
        fun _ => ih.bind fun _ => Agree.pure rfl
      cases ended with
      | ok hv =>
        subst hv
        exact others _
      | error e => exact others _

/-! ## Steps -/

theorem installedGetTracer_steady {name : Value} {version : Option Value} {id : Option Text}
    (hs : P (.globalGetTracer (some name) version id)) :
    Steady A (Installed.getTracer name (version.getD .null)) :=
  (installedProvider_steady _).bind fun p => providerGetTracer_steady p hs (by
    rw [Step.asks, List.mem_singleton]
    cases version.getD .null <;> rfl)

theorem newProvider_agree {args args' : Arguments}
    (ha : Agree A (OrDefault O) (Script.optionsOf args) (Script.optionsOf args')) (bound : Nat)
    (id : Text) {specs : Option (List (PipelineSpec Step))}
    (hs : Step.EveryInPipelines? P specs) (sampler : Option SamplerSpec)
    (resource : Option Value) (onExit : Bool) :
    Agree A V
      (Script.perform runner bound (.newProvider id args specs sampler resource onExit))
      (Script.perform runner' bound (.newProvider id args' specs sampler resource onExit)) := by
  refine ha.bind ?_
  intro o o' ho
  refine (Steady.ofExcept _).bind ?_
  intro resource
  refine (pipelinesOf?_steady hs).bind ?_
  intro ps
  refine (make_agree { options := o.getD {}, resource, sampler, pipelines := ps, onExit } ho).bind
    fun r => ?_
  refine (setProvider_steady id _).bind fun _ => read_agree fun w w' h => ?_
  rw [h.shown]
  exact ofExcept_same _ _

theorem create_steady {o : Options} (h : O o o) : Steady A (Provider.create o) := by
  have idle : ∀ kind, Steady A (ProviderClass.instantiate.idle o kind) := fun kind =>
    (addIdle_steady _).map fun _ _ h => congrArg Provider.idle h
  have made : ∀ plan : Recorder.Plan, plan.options = o →
      Steady A (Provider.recorder <$> Recorder.make plan) := by
    rintro plan rfl
    exact (make_agree plan h).map fun _ _ h => congrArg Provider.recorder h
  unfold Provider.create
  split
  · exact (say_steady ..).bind fun _ => (idle _).bind fun _ => Agree.pure rfl
  · refine (catalog_steady _).bind ?_
    intro c
    refine Match.bind ?_ fun p => (say_steady ..).bind fun _ => Agree.pure rfl
    obtain ⟨_, _, instances, _⟩ := c
    cases instances with
    | recorder => exact made _ rfl
    | interface => exact Agree.throw _
    | exploding => exact Agree.throw _
    | _ => exact idle _

theorem perform_agree (hr : RunnersAgree P S A runner runner') (bound : Nat) {s : Step}
    (hs : P s ∧ Step.EveryInside P s) :
    Agree A V (Script.perform runner bound s) (Script.perform runner' bound s) := by
  obtain ⟨plain, inside⟩ := hs
  cases s with
  | newPipeline id name spec =>
    refine (makePipeline_steady id name inside).bind fun p => read_agree fun w w' h => ?_
    rw [h.pipelines]
    exact ofExcept_same _ _
  | buildExport id options =>
    refine (Steady.ofExcept _).bind fun o => (buildExport_steady o).bind fun p => ?_
    refine (setPipeline_steady id p).bind fun _ => read_agree fun w w' h => ?_
    rw [h.exportAnswer_eq]
    exact (Steady.ofExcept _).mono fun a _ h => h ▸ likens.same a
  | flushPipeline id timeout =>
    refine (pipelineNamed_steady id).bind ?_
    intro p
    exact (flush_agree hr p timeout).bind fun _ => Agree.pure (likens.same _)
  | shutdownPipeline id =>
    refine (pipelineNamed_steady id).bind ?_
    intro p
    exact (close_agree hr p).bind fun _ => Agree.pure (likens.same _)
  | pipelineState id =>
    refine (pipelineNamed_steady id).bind fun p => read_agree fun w w' h => ?_
    rw [h.pipelines]
    exact ofExcept_same _ _
  | shutdownProcessor id =>
    refine (pipelineNamed_steady id).bind fun p => read_agree fun w w' h => ?_
    rw [h.pipelines]
    exact (processorShutdown_agree hr _ _).bind fun _ => Agree.pure (likens.same _)
  | calls id =>
    refine (pipelineNamed_steady id).bind fun p => read_agree fun w w' h => ?_
    rw [h.pipelines, h.processors]
    dsimp only
    split
    · exact Agree.throw_bind _
    · exact Agree.pure (likens.same _)
  | exported id =>
    refine (pipelineNamed_steady id).bind fun p => read_agree fun w w' h => ?_
    rw [h.pipelines, h.processors]
    dsimp only
    split
    · exact Agree.throw_bind _
    · exact Agree.pure (likens.same _)
  | newProvider id args specs sampler resource onExit =>
    have given : Agree A (OrDefault O) (Script.optionsOf args) (Script.optionsOf args) :=
      (optionsOf_steady args).mono fun o _ ⟨same, gives⟩ => by
        subst same
        exact likens.newProvider plain gives
    exact newProvider_agree given bound id inside sampler resource onExit
  | newNoop id args =>
    refine (optionsOf_steady args).bind ?_
    intro o _ ho
    obtain ⟨rfl, -⟩ := ho
    refine (addIdle_steady _).bind fun r => (setProvider_steady id _).bind fun _ => ?_
    refine read_agree ?_
    intro w w' h
    rw [h.idles]
    exact Agree.pure (likens.same _)
  | newOther id kind =>
    refine (addIdle_steady _).bind fun r => (setProvider_steady id _).bind fun _ => ?_
    refine read_agree ?_
    intro w w' h
    rw [h.idles]
    exact Agree.pure (likens.same _)
  | getTracer id tracerId request fault =>
    refine (providerNamed_steady id).bind ?_
    intro p
    refine (providerGetTracer_steady p plain (List.mem_singleton_self _)).bind ?_
    intro tracer
    exact (setTracer_steady tracerId tracer).bind fun _ => Agree.pure (likens.same _)
  | span id name kind attributes body fault =>
    refine (tracerNamed_steady plain).bind ?_
    intro tracer
    cases tracer with
    | none => exact Agree.throw _
    | some tracer =>
      refine (Steady.ofExcept _).bind ?_
      intro kind
      refine (withSpan_agree hr tracer _ inside fault).bind fun answer answer' h => Agree.pure ?_
      rw [h.recording, h.sampled]
      exact likens.span _ _ h.body
  | forceFlush id =>
    refine (providerNamed_steady id).bind ?_
    intro p
    exact (providerFlush_agree hr p).bind fun _ => Agree.pure (likens.same _)
  | shutdown id =>
    refine (providerNamed_steady id).bind ?_
    intro p
    exact (providerShutdown_agree hr p).bind fun _ => Agree.pure (likens.same _)
  | isShutdown id =>
    refine (recorderNamed_steady id _).bind fun r => read_agree fun w w' h => ?_
    rw [h.closed]
    exact Agree.pure (likens.same _)
  | stats id =>
    refine (recorderNamed_steady id _).bind ?_
    intro r
    exact Agree.get fun _ _ h => Agree.pure (likens.stats r h)
  | shown id =>
    refine (providerNamed_steady id).bind fun p => read_agree fun w w' h => ?_
    rw [h.shown_eq]
    exact ofExcept_same _ _
  | pipelines id =>
    refine (recorderNamed_steady id _).bind fun r => read_agree fun w w' h => ?_
    rw [h.owned, h.pipelines]
    exact ofExcept_same _ _
  | adopt id index pipelineId =>
    refine (recorderNamed_steady id _).bind fun r => (Steady.ofExcept _).bind fun index => ?_
    refine read_agree ?_
    intro w w' h
    rw [h.owned]
    refine (Steady.ofExcept _).bind fun p => (setPipeline_steady pipelineId p).bind fun _ => ?_
    refine read_agree ?_
    intro w w' h
    rw [h.exportAnswer_eq]
    exact (Steady.ofExcept _).mono fun a _ h => h ▸ likens.same a
  | resource id =>
    refine (recorderNamed_steady id _).bind fun r => read_agree fun w w' h => ?_
    rw [h.resourceAnswer]
    exact (Steady.ofExcept _).mono fun a _ h => h ▸ likens.same a
  | addProcessor id pipelineId name spec =>
    refine (providerNamed_steady id).bind fun _ => (processorOf_steady inside).bind fun q => ?_
    refine (recorderNamed_steady id _).bind ?_
    intro r
    refine (addSpanProcessor_steady r q name).bind ?_
    intro p
    refine (setPipeline_steady pipelineId p).bind fun _ => read_agree fun w w' h => ?_
    rw [h.pipelines]
    exact ofExcept_same _ _
  | setOption id field v =>
    refine (providerNamed_steady id).bind ?_
    intro p
    exact (setOption_steady plain p).bind fun _ => Agree.pure (likens.same _)
  | sampler id =>
    refine (recorderNamed_steady id _).bind fun r => read_agree fun w w' h => ?_
    dsimp only
    rw [h.sampler, h.asked]
    exact Agree.pure (likens.same _)
  | threads id count names =>
    refine (providerNamed_steady id).bind ?_
    intro p
    exact (tracersFor_steady plain p).bind fun _ => Agree.pure (likens.same _)
  | exitHooks =>
    refine read_agree ?_
    intro w w' h
    have ids : (w'.exitHooks.map fun r => w'.idOf (.recorder r)) =
        w.exitHooks.map fun r => w.idOf (.recorder r) := by
      rw [h.exitHooks]
      exact List.map_congr_left fun r _ => h.idOf_eq _
    rw [ids]
    exact Agree.pure (likens.same _)
  | runExitHooks => exact (runExitHooks_agree hr bound).bind fun _ => Agree.pure (likens.same _)
  | setGlobal id =>
    have swapped : ∀ p, Agree A V
        (do
          let previous ← Installed.swap p
          return Script.providerAnswer (← get) previous)
        (do
          let previous ← Installed.swap p
          return Script.providerAnswer (← get) previous) := by
      refine fun p => (swap_steady p).bind fun previous => read_agree fun w w' h => ?_
      rw [h.providerAnswer_eq]
      exact Agree.pure (likens.same _)
    cases id with
    | none => exact swapped none
    | some id =>
      have named : Steady A (some <$> Names.provider id) :=
        (providerNamed_steady id).map fun _ _ h => congrArg some h
      refine named.bind ?_
      intro p
      exact swapped p
  | getGlobal =>
    refine read_agree ?_
    intro w w' h
    rw [h.installed, h.providerAnswer_eq]
    exact Agree.pure (likens.same _)
  | globalGetTracer name version tracerId =>
    cases name with
    | none => exact Agree.throw _
    | some name =>
      refine (installedGetTracer_steady plain).bind ?_
      intro tracer
      exact (setTracer_steady tracerId tracer).bind fun _ => Agree.pure (likens.same _)
  | globalForceFlush =>
    have flushed : Match A (Installed.flush runner) (Installed.flush runner') :=
      (installedProvider_steady _).bind fun p => providerFlush_agree hr p
    exact flushed.bind fun _ => Agree.pure (likens.same _)
  | globalShutdown => exact (installedShutdown_agree hr).bind fun _ => Agree.pure (likens.same _)
  | entryPoints announced reset =>
    exact Match.bind (put_steady (A := A)) fun _ => Agree.pure (likens.same _)
  | entryPointReads =>
    refine read_agree ?_
    intro w w' h
    rw [h.catalog]
    exact Agree.pure (likens.same _)
  | discover => exact (catalog_steady _).bind fun _ => Agree.pure (likens.same _)
  | register name c => exact (catalog_steady _).bind fun _ => Agree.pure (likens.same _)
  | listProviders => exact (catalog_steady _).bind fun _ => Agree.pure (likens.same _)
  | available name => exact (catalog_steady _).bind fun _ => Agree.pure (likens.same _)
  | create id args =>
    refine (optionsOf_steady args).bind ?_
    intro o _ ho
    obtain ⟨rfl, gives⟩ := ho
    refine (create_steady (likens.create plain gives)).bind ?_
    intro p
    refine (setProvider_steady id p).bind fun _ => read_agree fun w w' h => ?_
    rw [h.className_eq, h.shown_eq]
    exact ofExcept_same _ _

/-! ## Replies -/

/-- Steps that agree are replied to alike, and lead to worlds alike. -/
theorem reply_agree {bound : Nat} {s s' : Step} (logged : Script.isLogged s' = Script.isLogged s)
    (answer : Agree A V (Script.perform runner bound s) (Script.perform runner' bound s'))
    {w w' : World} (hw : A w w') :
    A (Script.reply runner bound s w).2 (Script.reply runner' bound s' w').2 ∧
      ∀ {rest rest'}, S rest rest' →
        S ((Script.reply runner bound s w).1 :: rest)
          ((Script.reply runner' bound s' w').1 :: rest') := by
  have h := answer.together _ _ (likens.silent hw)
  unfold Script.reply
  rw [logged]
  generalize Script.perform runner bound s _ = result,
    Script.perform runner' bound s' _ = result' at h
  cases h with
  | ok hv ha => exact ⟨likens.relog hv hw, likens.cons _ hv ha⟩
  | error e hv => exact ⟨likens.relog hv hw, likens.cons _ hv (likens.same _)⟩

end

end Tracing
