import Tracing.Lru
import Tracing.Processor

/-!
# Tracing.Provider

Tracer providers.

* `Recorder` — the provider that records spans: its options, its pipelines with the processors
  attached for them, its tracers in order of use, and what it counts.
* `Idle`     — a provider that records nothing, of the library or of outside code.
* `Provider` — a reference to either.
* `Tracer`   — the idle tracer, or one that starts spans for a recorder.
-/

namespace Tracing

/-- The identity under which a tracer is kept: name and version. -/
abbrev TracerKey := Key × Key

/-- A tracer that a recorder keeps, with the identity for which it was made. Where telemetry is
off for the whole process it has no scope, and its spans record nothing. -/
structure KeptTracer where
  name : Value
  version : Value
  scope : Option Scope
  deriving Inhabited

structure Recorder where
  className : String
  options : Options
  sampler : Sampler
  /-- The spans that the scripted sampler given was asked about; `none` if none was given. -/
  asked : Option (List SpanRequest)
  /-- How often the sampler was asked. -/
  decisions : Nat := 0
  resource : List (Value × Value)
  pipelines : List (Ref Pipeline) := []
  /-- The processors that spans are delivered to. -/
  attached : List (Ref Processor) := []
  tracers : Lru TracerKey KeptTracer := {}
  /-- The scopes made so far; of equal identities the first one's is used for all. -/
  scopes : List (TracerKey × Scope) := []
  issued : Bool := false
  closed : Bool := false
  /-- A value put in place of the rule for suppressed libraries, which then cannot be applied. -/
  ruleReplaced : Option Value := none
  hits : Nat := 0
  misses : Nat := 0
  failures : Nat := 0

namespace Recorder

def shown (r : Recorder) : Wording :=
  "SdkTracerProvider(service_name=" ++ r.options.serviceName.shownWording ++
    s!", pipelines={r.pipelines.length})"

/-- Whether telemetry of a library is dropped. -/
def suppresses (r : Recorder) (name : Value) : Except Failure Bool :=
  match r.ruleReplaced with
  | some v => .error (.notCallable v.typeName)
  | none => r.options.suppresses name

/-- Assign a field of the options, or the rule for suppressed libraries. A field that options do
not have has no effect. -/
def assign (r : Recorder) (field : Text) (v : Value) : Recorder :=
  if field = "is_suppressed" then { r with ruleReplaced := some v }
  else { r with options := (r.options.assign field v).getD r.options }

/-- The service that spans are exported for. -/
def service (r : Recorder) : Value :=
  (Value.lookup (.text "service.name") r.resource).getD .null

end Recorder

inductive Tracer where
  | idle
  | recording (source : Ref Recorder) (scope : Scope)

/-! ## Providers that record nothing -/

inductive IdleKind where
  /-- A provider of the library, or of a class derived from it. -/
  | noop (className : String)
  /-- Outside code that gives no tracers and no reports. -/
  | minimal
  /-- The same, of a class that a catalog names, with options. -/
  | minimalWithOptions (className : String)
  /-- Outside code whose `shutdown` cannot be called. -/
  | badShutdown
  /-- Outside code whose `shutdown` fails. -/
  | raisingShutdown
  deriving DecidableEq, Repr

structure Idle where
  kind : IdleKind
  options : Option Options := none

namespace Idle

def className (p : Idle) : String :=
  match p.kind with
  | .noop className => className
  | .minimal => "Minimal"
  | .minimalWithOptions className => className
  | .badShutdown => "BadShutdown"
  | .raisingShutdown => "RaisingShutdown"

def isNoop (p : Idle) : Bool :=
  match p.kind with
  | .noop _ => true
  | _ => false

/-- Classes derived from the library's one are shown under its name. -/
def shown (p : Idle) : String :=
  match p.kind with
  | .noop _ => "NoOpTracerProvider()"
  | _ => s!"{p.className}()"

/-- Whether the provider keeps options, be it none. -/
def hasOptions (p : Idle) : Bool :=
  match p.kind with
  | .noop _ | .minimalWithOptions _ => true
  | _ => false

end Idle

inductive Provider where
  | recorder (r : Ref Recorder)
  | idle (r : Ref Idle)
  deriving DecidableEq

/-! ## Classes -/

namespace ProviderClass

def recorder : ProviderClass :=
  { moduleName := "tracekit.sdk", className := "SdkTracerProvider", instances := .recorder }

def noop : ProviderClass :=
  { moduleName := "tracekit.noop", className := "NoOpTracerProvider", instances := .noop }

def interface : ProviderClass :=
  { moduleName := "tracekit.provider", className := "TracerProvider", instances := .interface }

/-! Classes of packages. -/

def tuned : ProviderClass :=
  { moduleName := "tuned", className := "TunedSdkProvider", instances := .recorder }

def custom : ProviderClass :=
  { moduleName := "custom_pkg", className := "CustomProvider", instances := .noop }

def other : ProviderClass :=
  { moduleName := "other_pkg.providers", className := "OtherProvider", instances := .noop }

def minimal : ProviderClass :=
  { moduleName := "minimal_pkg", className := "MinimalProvider", instances := .minimal }

def exploding : ProviderClass :=
  { moduleName := "exploding_pkg", className := "Exploding", instances := .exploding }

def shown (c : ProviderClass) : Text := c.moduleName ++ "." ++ c.className

end ProviderClass

end Tracing
