import Tracing.Creation
import Tracing.Installed
import Tracing.Recorder.Spans
import Tracing.Text.Bytes

/-!
# Tracing.Script

Programs run on the library.

* `Script.perform` — one step. Names are looked up before anything else happens.
* `Script.reply` — one step with its log records, a failure being its answer.
* `Script.run`   — a program from the initial world. Hooks and bodies run the same way, one level
  deeper. Each step of a program runs once at most, so its size bounds every level and loop.
-/

namespace Tracing

open Act

/-! ## Names -/

namespace Names

def find {α : Type} (id : Text) (names : List (Text × α)) : Act α :=
  match names.lookup id with
  | some a => pure a
  | none => throw (.unknownName (.str id))

def pipeline (id : Text) : Act (Ref Pipeline) := do find id (← get).names.pipelines

def provider (id : Text) : Act Provider := do find id (← get).names.providers

def tracer (id : Text) : Act (Option Tracer) := do find id (← get).names.tracers

def setPipeline (id : Text) (r : Ref Pipeline) : Act Unit :=
  modify fun w => { w with names := { w.names with pipelines := bind id r w.names.pipelines } }

def setProvider (id : Text) (p : Provider) : Act Unit :=
  modify fun w => { w with names := { w.names with providers := bind id p w.names.providers } }

def setTracer (id : Option Text) (t : Option Tracer) : Act Unit :=
  match id with
  | none => pure ()
  | some id =>
    modify fun w => { w with names := { w.names with tracers := bind id t w.names.tracers } }

/-- The recorder of a name; another provider lacks the member asked for. -/
def recorder (id : Text) (member : String) : Act (Ref Recorder) := do
  match ← provider id with
  | .recorder r => return r
  | p => throw (.noAttribute (p.className (← get)) member)

end Names

namespace Script

/-! ## Building what a step describes -/

/-- The name of a class is written as bytes, of which none is zero. -/
def checkClassName (name : Text) : Except Failure Unit :=
  match name.firstRun? CodePoint.isHalf with
  | some run => .error (.foreign (.unwritable name run))
  | none =>
    if name.points.contains '\x00' then
      .error (.foreign (.valueError "type name must not contain null characters"))
    else .ok ()

/-- The processor of a specification: a new one, or the one that it shares. -/
def processorOf (spec : ProcessorSpec Step) : Act (Ref Processor) := do
  match spec with
  | .shared id =>
    let r ← Names.pipeline id
    return ((← get).pipelines.get r).processor
  | spec =>
    if let .scripted script := spec then MonadExcept.ofExcept (checkClassName script.className)
    addProcessor ((Processor.ofSpec spec).getD default)

def makePipeline (id : Text) (name : Value) (spec : ProcessorSpec Step) :
    Act (Ref Pipeline) := do
  let processor ← processorOf spec
  let className := ((← get).processors.get processor).className
  let r ← addPipeline { processor, name := Pipeline.nameOr name className }
  Names.setPipeline id r
  return r

def pipelinesOf : List (PipelineSpec Step) → Act (List (Ref Pipeline))
  | [] => pure []
  | .make id name spec :: rest => do
    let r ← makePipeline id name spec
    return r :: (← pipelinesOf rest)
  | .known id :: rest => do
    let r ← Names.pipeline id
    return r :: (← pipelinesOf rest)

def pipelinesOf? : Option (List (PipelineSpec Step)) → Act (Option (List (Ref Pipeline)))
  | none => pure none
  | some specs => some <$> pipelinesOf specs

/-- The options that a step gives, `none` if it gives none. -/
def optionsOf : Arguments → Act (Option Options)
  | none => pure none
  | some args => some <$> MonadExcept.ofExcept (Options.ofArguments args)

/-! ## Answers -/

def exportAnswer (w : World) (r : Ref Pipeline) : Except Failure Answer :=
  let p := w.pipelines.get r
  let processor := w.processors.get p.processor
  match processor.target with
  | some target => .ok (.exporting p.name processor.className target)
  | none => .text <$> p.shown.written

def reportsOrNothing : Option (List FlushReport) → Answer
  | some reports => .reports reports
  | none => .nothing

def providerAnswer (w : World) : Option Provider → Answer
  | some p => .provider (w.idOf p) (p.className w)
  | none => .provider none "NoneType"

/-- Whether an attribute is one that every resource has, be it given or not. -/
def isStandard (key : Value) : Bool :=
  match key with
  | .str s => s.startsWith "telemetry.sdk." || s == "service.instance.id"
  | _ => false

/-- The attributes of a recorder; the standard ones only where its options give them. -/
def resourceAnswer (r : Recorder) : Except Failure Answer := do
  let shown ← r.resource.filterM fun e =>
    if isStandard e.1 then r.options.extraAttributes.contains e.1 else pure true
  return .attributes shown

/-- Assign a field of a provider's options. -/
def setOption (p : Provider) (field v : Value) : Act Unit := do
  match p with
  | .recorder r =>
    let field ← MonadExcept.ofExcept field.fieldName
    modifyRecorder r (·.assign field v)
  | .idle r =>
    let x := (← get).idles.get r
    if !x.hasOptions then throw (.noAttribute x.className "config")
    let field ← MonadExcept.ofExcept field.fieldName
    match x.options with
    | none => throw (.noAttribute "NoneType" field)
    | some o =>
      modify fun w => { w with
        idles := w.idles.modify r fun x => { x with options := some ((o.assign field v).getD o) } }

def otherKind : OtherKind → IdleKind
  | .minimal => .minimal
  | .badShutdown => .badShutdown
  | .raisingShutdown => .raisingShutdown

/-- Tracers for the names in turn, `count` of them. -/
def tracersFor (p : Provider) (names : List Value) (count : Nat) : Act (List (Option Tracer)) :=
  (List.range count).mapM fun i =>
    let name := (names[i % names.length]?).getD .null
    p.getTracer (.identity { name }) none

/-- Take the exit hook added last and run it, until none is left. -/
def runExitHooks (runner : Runner) : Nat → Act (List (Option Text × Answer))
  | 0 => pure []
  | fuel + 1 => do
    let w ← get
    match w.exitHooks.getLast? with
    | none => return []
    | some r =>
      set { w with exitHooks := w.exitHooks.dropLast }
      let id := w.idOf (.recorder r)
      let answer ←
        match ← attempt (Recorder.shutdown runner r) with
        | .ok reports => pure (Answer.reports reports)
        | .error e => pure (Answer.failed e)
      return (id, answer) :: (← runExitHooks runner fuel)

/-! ## Steps -/

/-- The answer of one step; `runner` runs its hooks and its body. -/
def perform (runner : Runner) (bound : Nat) : Step → Act Answer
  | .newPipeline id name spec => do
    let r ← makePipeline id name spec
    return .text (← compose ((← get).pipelines.get r).shown)
  | .buildExport id args => do
    let o ← MonadExcept.ofExcept (Options.ofArguments args)
    let r ← Pipeline.buildExport o
    Names.setPipeline id r
    MonadExcept.ofExcept (exportAnswer (← get) r)
  | .flushPipeline id timeout => do
    let r ← Names.pipeline id
    return .report (← Pipeline.flush runner r timeout)
  | .shutdownPipeline id => do
    let r ← Names.pipeline id
    Pipeline.close runner r
    return .nothing
  | .pipelineState id => do
    let r ← Names.pipeline id
    let p := (← get).pipelines.get r
    return .pipelineState p.name p.closed (← compose p.shown)
  | .shutdownProcessor id => do
    let r ← Names.pipeline id
    let p := (← get).pipelines.get r
    return .value (← Delivery.shutdown runner p.processor none)
  | .calls id => do
    let r ← Names.pipeline id
    let w ← get
    let processor := (w.pipelines.get r).processor
    let x := w.processors.get processor
    if !x.isScripted then throw (.noAttribute x.className "calls")
    return .calls processor
  | .exported id => do
    let r ← Names.pipeline id
    let w ← get
    let x := w.processors.get (w.pipelines.get r).processor
    if !x.isExporting then throw (.noAttribute x.className "span_exporter")
    return .spans x.exported
  | .newProvider id args specs sampler resource onExit => do
    let options := (← optionsOf args).getD {}
    let resource ← MonadExcept.ofExcept (resource.mapM Value.resourceAttributes)
    let pipelines ← pipelinesOf? specs
    let r ← Recorder.make { options, resource, sampler, pipelines, onExit }
    Names.setProvider id (.recorder r)
    return .text (← compose ((← get).recorders.get r).shown)
  | .newNoop id args => do
    let options ← optionsOf args
    let r ← addIdle { kind := .noop "NoOpTracerProvider", options }
    Names.setProvider id (.idle r)
    return .idle ((← get).idles.get r).shown (options.map fun _ => true)
  | .newOther id kind => do
    let r ← addIdle { kind := otherKind kind }
    Names.setProvider id (.idle r)
    return .text ((← get).idles.get r).shown
  | .getTracer id tracerId request fault => do
    let p ← Names.provider id
    let tracer ← p.getTracer request fault
    Names.setTracer tracerId tracer
    return .tracer tracer
  | .span id name kind attributes body fault => do
    match ← Names.tracer id with
    | none => throw (.noAttribute "NoneType" "start_as_current_span")
    | some tracer =>
      let kind ← MonadExcept.ofExcept (SpanKind.named kind)
      let answer ← tracer.withSpan runner { name, kind, attributes } body fault
      return .span answer.recording answer.sampled answer.body
  | .forceFlush id => do
    let p ← Names.provider id
    return reportsOrNothing (← p.flush runner)
  | .shutdown id => do
    let p ← Names.provider id
    return .reports (← p.shutdown runner)
  | .isShutdown id => do
    let r ← Names.recorder id "is_shutdown"
    return .flag ((← get).recorders.get r).closed
  | .stats id => do
    let r ← Names.recorder id "get_stats"
    return .stats ((← get).recorders.get r).stats
  | .shown id => do
    let p ← Names.provider id
    return .text (← compose (p.shown (← get)))
  | .pipelines id => do
    let r ← Names.recorder id "pipelines"
    let w ← get
    let shown := (w.recorders.get r).pipelines.mapM fun p => (w.pipelines.get p).shown.written
    return .pipelines (← MonadExcept.ofExcept shown)
  | .adopt id index pipelineId => do
    let r ← Names.recorder id "pipelines"
    let index ← MonadExcept.ofExcept index.index
    let pipeline ← MonadExcept.ofExcept (entryAt ((← get).recorders.get r).pipelines index)
    Names.setPipeline pipelineId pipeline
    MonadExcept.ofExcept (exportAnswer (← get) pipeline)
  | .resource id => do
    let r ← Names.recorder id "resource"
    MonadExcept.ofExcept (resourceAnswer ((← get).recorders.get r))
  | .addProcessor id pipelineId name spec => do
    let _ ← Names.provider id
    let processor ← processorOf spec
    let r ← Names.recorder id "add_span_processor"
    let pipeline ← Recorder.addSpanProcessor r processor name
    Names.setPipeline pipelineId pipeline
    return .text (← compose ((← get).pipelines.get pipeline).shown)
  | .setOption id field v => do
    let p ← Names.provider id
    setOption p field v
    return .nothing
  | .sampler id => do
    let r ← Names.recorder id "_sdk_provider"
    let x := (← get).recorders.get r
    let description := "ShutdownAware\x7b" ++ x.sampler.description ++ "\x7d"
    return .sampler description (x.asked.map fun _ => r)
  | .threads id count names => do
    let p ← Names.provider id
    return .tracers (← tracersFor p names count)
  | .exitHooks => do
    let w ← get
    return .ids (w.exitHooks.map fun r => w.idOf (.recorder r))
  | .runExitHooks => return .exits (← runExitHooks runner bound)
  | .setGlobal id? => do
    let p ←
      match id? with
      | none => pure none
      | some id => some <$> Names.provider id
    let previous ← Installed.swap p
    return providerAnswer (← get) previous
  | .getGlobal => do
    let w ← get
    return providerAnswer w w.installed
  | .globalGetTracer name version tracerId => do
    match name with
    | none => throw .missingName
    | some name =>
      let tracer ← Installed.getTracer name (version.getD .null)
      Names.setTracer tracerId tracer
      return .tracer tracer
  | .globalForceFlush => return reportsOrNothing (← Installed.flush runner)
  | .globalShutdown => return .reports (← Installed.shutdown runner)
  | .entryPoints announced reset => do
    modify fun w => { w with catalog := w.catalog.announce announced reset }
    return .nothing
  | .entryPointReads => return .count (← get).catalog.reads
  | .discover => do
    Act.catalog Catalog.discover
    return .nothing
  | .register name c => do
    Act.catalog (Catalog.register name c)
    return .nothing
  | .listProviders => return .value (.list (← Act.catalog Catalog.names))
  | .available name => return .flag (← Act.catalog (Catalog.isAvailable name))
  | .create id args => do
    let options := (← optionsOf args).getD {}
    let p ← Provider.create options
    Names.setProvider id p
    let w ← get
    return .created (p.className w) (← compose (p.shown w)) options.provider

/-- Whether the log records of a step belong to its answer. -/
def isLogged : Step → Bool
  | .threads .. => false
  | _ => true

/-! ## Programs -/

/-- Perform a step with a log of its own. -/
def reply (runner : Runner) (bound : Nat) (s : Step) (w : World) : Reply × World :=
  let answer (a : Answer) (w' : World) : Reply × World :=
    ((a, if isLogged s then w'.log else []), { w' with log := w.log })
  match perform runner bound s { w with log := [] } with
  | .ok a w' => answer a w'
  | .error e w' => answer (.failed e) w'

def replies (runner : Runner) (bound : Nat) : List Step → World → List Reply × World
  | [], w => ([], w)
  | s :: rest, w =>
    let (first, w) := reply runner bound s w
    let (others, w) := replies runner bound rest w
    (first :: others, w)

/-- Run steps with hooks and bodies nested `fuel` levels deep at most. -/
def runWithin : Nat → Runner
  | 0 => fun _ w => ([], w)
  | fuel + 1 => replies (runWithin fuel) fuel

/-- The replies of a program and the world that it leaves. -/
def run (program : List Step) (w : World) : List Reply × World :=
  runWithin (Step.sizeAll program + 1) program w

end Script

end Tracing
