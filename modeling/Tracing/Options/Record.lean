import Tracing.Options

/-!
# Tracing.Options.Record

Options as a flat dictionary.

* `Options.toRecord` — the entries of the dictionary, batch options among the others.
* `Options.ofRecord` — the options that a dictionary describes; keys it lacks take the defaults.
-/

namespace Tracing

namespace Options

/-- The entries, in the order in which they are written. The two containers are copied as a list
and a dictionary. -/
def toRecord (o : Options) : Except Failure (List (String × Value)) := do
  let suppressed ← o.suppressed.elements
  let b ← o.batching.get "max_queue_size"
  let extra ← o.extraAttributes.entries
  return [
    ("enabled", o.enabled),
    ("provider", o.provider),
    ("environment", o.environment),
    ("service_name", o.serviceName),
    ("service_version", o.serviceVersion),
    ("otlp_enabled", o.otlpEnabled),
    ("otlp_endpoint", o.otlpEndpoint),
    ("otlp_use_tls", o.otlpUseTls),
    ("suppressed_instrumentations", .list suppressed),
    ("max_cached_tracers", o.maxCachedTracers),
    ("flush_timeout_millis", o.flushTimeout),
    ("max_queue_size", b.maxQueueSize),
    ("max_export_batch_size", b.maxExportBatchSize),
    ("export_timeout_millis", b.exportTimeout),
    ("schedule_delay_millis", b.scheduleDelay),
    ("use_sync_export", b.syncExport),
    ("extra_resource_attributes", .dict extra)]

/-- Entries with text keys as a dictionary. -/
def recordValue (record : List (String × Value)) : Value :=
  .dict (record.map fun e => (.str e.1, e.2))

/-- The value under a text key, or a default. -/
def field (entries : List (Value × Value)) (name : String) (default : Value) : Value :=
  (Value.lookup (.text name) entries).getD default

/-- The options that the entries of a dictionary describe. -/
def ofEntries (entries : List (Value × Value)) : Except Failure Options := do
  let get := field entries
  let suppressed ← (get "suppressed_instrumentations" (.list [])).elements
  let extra ← (get "extra_resource_attributes" (.dict [])).entries
  return {
    enabled := get "enabled" (.bool true)
    provider := get "provider" (.str "sdk")
    environment := get "environment" (.str "development")
    serviceName := get "service_name" (.str "unknown_service")
    serviceVersion := get "service_version" .null
    otlpEnabled := get "otlp_enabled" (.bool true)
    otlpEndpoint := get "otlp_endpoint" (.str "localhost:4317")
    otlpUseTls := get "otlp_use_tls" (.bool false)
    suppressed := .list suppressed
    maxCachedTracers := get "max_cached_tracers" (.int 1000)
    flushTimeout := get "flush_timeout_millis" (.int 30000)
    batching := .options {
      maxQueueSize := get "max_queue_size" (.int 2048)
      maxExportBatchSize := get "max_export_batch_size" (.int 512)
      exportTimeout := get "export_timeout_millis" (.int 30000)
      scheduleDelay := get "schedule_delay_millis" (.int 500)
      syncExport := get "use_sync_export" (.bool false) }
    extraAttributes := .dict extra }

/-- Only a dictionary can be asked for its fields. -/
def ofRecord : Value → Except Failure Options
  | .dict entries => ofEntries entries
  | v => .error (.noAttribute v.typeName "get")

/-- Whether options read back from their own dictionary as they were. -/
def roundTrips (o : Options) : Except Failure Bool := do
  let record ← o.toRecord
  let back ← ofRecord (recordValue record)
  return back.same o

end Options

end Tracing
