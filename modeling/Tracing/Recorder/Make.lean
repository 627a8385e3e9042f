import Tracing.Pipeline

/-!
# Tracing.Recorder.Make

The making of recorders and the attachment of pipelines.

* `resourceOf`       — the attributes that name the service in every exported span.
* `Recorder.make`    — a recorder of checked options. If it fails then nothing is left behind, unless
  it is the last record that cannot be written: the recorder is there then, and so is its exit hook.
* `Recorder.attach`  — a pipeline takes part in flushes, and its processor in the spans.
-/

namespace Tracing

open Act

/-! ## Resources -/

mutual

/-- A value without the entries of dictionaries, at any depth, whose key counts as unset. Keys are
texts then. -/
def cleanValue : Value → Value
  | .list items => .list (cleanItems items)
  | .dict entries => .dict (cleanEntries entries)
  | v => v

def cleanItems : List Value → List Value
  | [] => []
  | v :: rest => cleanValue v :: cleanItems rest

def cleanEntries : List (Value × Value) → List (Value × Value)
  | [] => []
  | e :: rest => cleanEntry e ++ cleanEntries rest

def cleanEntry : Value × Value → List (Value × Value)
  | (k, v) => if k.isTruthy then [(.str k.text, cleanValue v)] else []

end

/-- Entries without repeated keys: the last one of a key counts. -/
def distinct (entries : List (Value × Value)) : List (Value × Value) :=
  entries.foldl (fun done e => Value.bind e.1 e.2 done) []

/-- The attributes of a resource. -/
def resourceEntries (entries : List (Value × Value)) : List (Value × Value) :=
  distinct (cleanEntries entries)

/-- The service of a process that does not name it. -/
def unknownService : String := "unknown_service:python3"

def withService (entries : List (Value × Value)) : List (Value × Value) :=
  if ((Value.lookup (.text "service.name") entries).getD .null).isTruthy then entries
  else Value.bind (.str "service.name") (.str unknownService) entries

/-- The attributes by which every described resource names the telemetry in use. -/
def telemetryEntries : List (Value × Value) :=
  [(.str "telemetry.sdk.language", .str "python"),
    (.str "telemetry.sdk.name", .str "opentelemetry"),
    (.str "telemetry.sdk.version", .str "1.45.0")]

/-- The attributes that options describe: the service, its version if it has one, the deployment,
and over them the extra ones. They stand over those of the telemetry. -/
def resourceOf (o : Options) : Except Failure (List (Value × Value)) := do
  let service := [(.str "service.name", o.serviceName),
    (.str "deployment.environment", o.environment)]
  let version :=
    if o.serviceVersion.isTruthy then [(.str "service.version", o.serviceVersion)] else []
  let entries ← Value.update (service ++ version) o.extraAttributes
  return withService (resourceEntries (telemetryEntries ++ entries))

namespace Recorder

def logger : String := "tracekit.sdk"

/-- The pipeline stands last among those of the recorder, and its processor last among those that
receive spans. -/
def attach (r : Ref Recorder) (pipeline : Ref Pipeline) : Act Unit := do
  let processor := ((← get).pipelines.get pipeline).processor
  note (.attached r pipeline)
  modifyRecorder r fun x =>
    { x with pipelines := x.pipelines ++ [pipeline], attached := x.attached ++ [processor] }

def attachAll (r : Ref Recorder) : List (Ref Pipeline) → Act Unit
  | [] => pure ()
  | p :: rest => do
    attach r p
    attachAll r rest

/-- What a recorder is made from. -/
structure Plan where
  className : String := "SdkTracerProvider"
  options : Options := {}
  /-- Attributes given instead of those that the options describe. -/
  resource : Option (List (Value × Value)) := none
  sampler : Option SamplerSpec := none
  /-- Pipelines given instead of the one that exports to the endpoint of the options. -/
  pipelines : Option (List (Ref Pipeline)) := none
  onExit : Bool := true

/-- A sampler that counts as unset, or none, gives way to the parent's decision. -/
def Plan.effectiveSampler (plan : Plan) : Sampler :=
  match plan.sampler with
  | some ⟨sampler, false⟩ => sampler
  | _ => .parentBased true

/-- Whether a scripted sampler is given, be it used or not. -/
def Plan.isScripted (plan : Plan) : Bool := plan.sampler.any (·.sampler.isScripted)

/-- The pipelines of a plan. Unless some are given there is one, if spans are to be exported. -/
def Plan.build (plan : Plan) : Act (List (Ref Pipeline)) :=
  match plan.pipelines with
  | some pipelines => pure pipelines
  | none =>
    if plan.options.enabled.isTruthy && plan.options.otlpEnabled.isTruthy then do
      return [← Pipeline.buildExport plan.options]
    else pure []

/-- The attributes of the resource of a plan. -/
def Plan.attributes (plan : Plan) : Except Failure (List (Value × Value)) :=
  match plan.resource with
  | some given => .ok (resourceEntries given)
  | none => resourceOf plan.options

def make (plan : Plan) : Act (Ref Recorder) := do
  MonadExcept.ofExcept plan.options.check
  let resource ← MonadExcept.ofExcept plan.attributes
  let pipelines ← plan.build
  let r ← addRecorder
    { className := plan.className
      options := plan.options
      sampler := plan.effectiveSampler
      asked := if plan.isScripted then some [] else none
      resource }
  attachAll r pipelines
  if plan.onExit then modify fun w => { w with exitHooks := w.exitHooks ++ [r] }
  let service := plan.options.serviceName.wording
  say .info logger <| "SdkTracerProvider initialized for service " ++ service ++
    s!" with {pipelines.length} pipeline(s)"
  return r

/-- Attach a processor as a pipeline of its own. -/
def addSpanProcessor (r : Ref Recorder) (processor : Ref Processor) (name : Value) :
    Act (Ref Pipeline) := do
  let className := ((← get).processors.get processor).className
  let name := Pipeline.nameOr name className
  let pipeline ← addPipeline { processor, name }
  attach r pipeline
  say .debug logger ("Registered pipeline " ++ name.wording)
  return pipeline

end Recorder

end Tracing
