import Tracing.Value.Convert

/-!
# Tracing.Options

The options of a tracer provider.

* `Options`, `BatchOptions` — the fields and what they hold when nothing is said.
* `Options.ofArguments`     — options with some fields given by name.
* `Options.assign`          — one field replaced.
* `Options.suppresses`      — whether a library's telemetry is dropped.
* `Options.check`           — the rules that options must meet.
* `Options.same`            — equality, field by field.
-/

namespace Tracing

/-- How spans are batched before export. -/
structure BatchOptions where
  maxQueueSize : Value := .int 2048
  maxExportBatchSize : Value := .int 512
  exportTimeout : Value := .int 30000
  scheduleDelay : Value := .int 500
  syncExport : Value := .bool false
  deriving Inhabited

/-- The batch options of a provider, or a value that was put in their place. -/
inductive Batching where
  | options (b : BatchOptions)
  | other (v : Value)
  deriving Inhabited

structure Options where
  enabled : Value := .bool true
  provider : Value := .str "sdk"
  environment : Value := .str "development"
  serviceName : Value := .str "unknown_service"
  serviceVersion : Value := .null
  otlpEnabled : Value := .bool true
  otlpEndpoint : Value := .str "localhost:4317"
  otlpUseTls : Value := .bool false
  suppressed : Value := .list []
  maxCachedTracers : Value := .int 1000
  flushTimeout : Value := .int 30000
  batching : Batching := .options {}
  extraAttributes : Value := .dict []
  deriving Inhabited

/-! ## Batch options -/

namespace BatchOptions

/-- Replace a field by its name. -/
def assign (b : BatchOptions) (name : Text) (v : Value) : Option BatchOptions :=
  match name.toString? with
  | some "max_queue_size" => some { b with maxQueueSize := v }
  | some "max_export_batch_size" => some { b with maxExportBatchSize := v }
  | some "export_timeout_millis" => some { b with exportTimeout := v }
  | some "schedule_delay_millis" => some { b with scheduleDelay := v }
  | some "use_sync_export" => some { b with syncExport := v }
  | _ => none

def same (a b : BatchOptions) : Bool :=
  a.maxQueueSize.same b.maxQueueSize && a.maxExportBatchSize.same b.maxExportBatchSize &&
    a.exportTimeout.same b.exportTimeout && a.scheduleDelay.same b.scheduleDelay &&
    a.syncExport.same b.syncExport

/-- Replace the fields that are given, in order. -/
def assignAll : List (Value × Value) → BatchOptions → Except Failure BatchOptions
  | [], b => .ok b
  | (name, v) :: rest, b =>
    match b.assign name.text v with
    | some b => assignAll rest b
    | none => .error (.ofArgument "BatchExportConfig" name.text)

end BatchOptions

namespace Batching

/-- The batch options; a value in their place lacks the field asked for first. -/
def get (batching : Batching) (firstField : String) : Except Failure BatchOptions :=
  match batching with
  | .options b => .ok b
  | .other v => .error (.noAttribute v.typeName firstField)

def same : Batching → Batching → Bool
  | .options a, .options b => a.same b
  | .other a, .other b => a.same b
  | _, _ => false

/-- A dictionary given as batch options holds their fields; any other value stands as it is. -/
def ofArgument : Value → Except Failure Batching
  | .dict entries => (BatchOptions.assignAll entries {}).map .options
  | v => .ok (.other v)

end Batching

/-! ## Provider options -/

namespace Options

/-- Replace a field by its name. -/
def assign (o : Options) (name : Text) (v : Value) : Option Options :=
  match name.toString? with
  | some "enabled" => some { o with enabled := v }
  | some "provider" => some { o with provider := v }
  | some "environment" => some { o with environment := v }
  | some "service_name" => some { o with serviceName := v }
  | some "service_version" => some { o with serviceVersion := v }
  | some "otlp_enabled" => some { o with otlpEnabled := v }
  | some "otlp_endpoint" => some { o with otlpEndpoint := v }
  | some "otlp_use_tls" => some { o with otlpUseTls := v }
  | some "suppressed_instrumentations" => some { o with suppressed := v }
  | some "max_cached_tracers" => some { o with maxCachedTracers := v }
  | some "flush_timeout_millis" => some { o with flushTimeout := v }
  | some "batch_config" => some { o with batching := .other v }
  | some "extra_resource_attributes" => some { o with extraAttributes := v }
  | _ => none

/-- Replace the fields that are given, in order. -/
def assignAll : List (Text × Value) → Options → Except Failure Options
  | [], o => .ok o
  | (name, v) :: rest, o =>
    match o.assign name v with
    | some o => assignAll rest o
    | none => .error (.ofArgument "ProviderConfig" name)

/-- Options with the given fields. Batch options are read before the other fields. -/
def ofArguments (args : List (Text × Value)) : Except Failure Options := do
  let batching ←
    match args.lookup ("batch_config" : Text) with
    | some v => Batching.ofArgument v
    | none => .ok (.options {})
  let o ← assignAll args {}
  return { o with batching }

/-- Whether telemetry of a library is dropped: all of it if the options are disabled, else that
of the libraries listed. -/
def suppresses (o : Options) (name : Value) : Except Failure Bool :=
  if o.enabled.isTruthy then o.suppressed.contains name else .ok true

def requirePositive (field : String) (v : Value) : Except Failure Unit := do
  if ← v.atMost (.int 0) then throw (.notPositive field)

/-- The rules, in the order in which a broken one is reported. -/
def check (o : Options) : Except Failure Unit := do
  if o.enabled.isTruthy && o.otlpEnabled.isTruthy && !o.otlpEndpoint.isTruthy then
    throw .endpointMissing
  let b ← o.batching.get "max_queue_size"
  requirePositive "max_queue_size" b.maxQueueSize
  requirePositive "max_export_batch_size" b.maxExportBatchSize
  if ← b.maxExportBatchSize.exceeds b.maxQueueSize then throw .batchAboveQueue
  requirePositive "max_cached_tracers" o.maxCachedTracers
  requirePositive "flush_timeout_millis" o.flushTimeout

def same (a b : Options) : Bool :=
  a.enabled.same b.enabled && a.provider.same b.provider && a.environment.same b.environment &&
    a.serviceName.same b.serviceName && a.serviceVersion.same b.serviceVersion &&
    a.otlpEnabled.same b.otlpEnabled && a.otlpEndpoint.same b.otlpEndpoint &&
    a.otlpUseTls.same b.otlpUseTls && a.suppressed.same b.suppressed &&
    a.maxCachedTracers.same b.maxCachedTracers && a.flushTimeout.same b.flushTimeout &&
    a.batching.same b.batching && a.extraAttributes.same b.extraAttributes

end Options

end Tracing
