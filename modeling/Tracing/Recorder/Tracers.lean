import Tracing.Recorder.Make

/-!
# Tracing.Recorder.Tracers

Tracers by identity.

* `Recorder.getTracer` — the tracer for a request. A closed recorder and a suppressed library give
  the idle tracer, and so does a request that fails: only an interruption escapes, and the failure to
  say what went wrong.
* `Recorder.lookUp`    — the same with failures; `Recorder.createTracer` makes a tracer.
* `Recorder.evict`     — drop the tracers used longest ago, down to the limit of the options.
-/

namespace Tracing

namespace Request

/-- Name and version asked for. An object may lack either, the name first. -/
def parts : Request → Except Failure (Value × Value)
  | .default => .ok (resolveName (.str ""), .null)
  | .identity i => .ok (resolveName i.name, i.version)
  | .object typeName name version =>
    match name, version with
    | none, _ => .error (.noAttribute typeName "name")
    | some _, none => .error (.noAttribute typeName "version")
    | some name, some version => .ok (resolveName name, version)

end Request

/-- An identity as a key; a list or a dictionary in it is no key, the name being looked at first. -/
def tracerKey (name version : Value) : Except Failure TracerKey :=
  match name.key?, version.key? with
  | some n, some v => .ok (n, v)
  | none, _ => .error (.unhashable name.typeName)
  | _, none => .error (.unhashable version.typeName)

namespace Recorder

open Act

/-- The scope of an identity: the one made first for an equal identity. -/
def scopeFor (r : Recorder) (name version : Value) : Scope × Recorder :=
  let scope := Scope.ofIdentity name version
  match tracerKey scope.name scope.version with
  | .error _ => (scope, r)
  | .ok key =>
    match r.scopes.lookup key with
    | some first => (first, r)
    | none => (scope, { r with scopes := r.scopes ++ [(key, scope)] })

/-- The tracer that a recorder keeps, as its callers get it. -/
def handOut (r : Ref Recorder) (kept : KeptTracer) : Tracer :=
  match kept.scope with
  | none => .idle
  | some scope => .recording r scope

/-- Whether the options allow fewer than `size` tracers. -/
def isOver (r : Ref Recorder) (size : Nat) : Act Bool := do
  let limit := ((← get).recorders.get r).options.maxCachedTracers
  MonadExcept.ofExcept (Value.exceeds (.int size) limit)

/-- Drop entries from the oldest on while there are more than the options allow. `size` entries are
kept at the start. -/
def evict (r : Ref Recorder) : Nat → Act Unit
  | 0 => do
    if ← isOver r 0 then throw .emptyCache
  | size + 1 => do
    if ← isOver r (size + 1) then
      let oldest := ((← get).recorders.get r).tracers.oldest?.getD default
      modifyRecorder r fun x => { x with tracers := x.tracers.dropOldest }
      say .debug logger <|
        "Evicted tracer from cache: " ++ Value.pairWording oldest.name oldest.version
      evict r size

/-- Make the tracer of an identity and keep it. `fault` is raised in place of it. -/
def createTracer (r : Ref Recorder) (key : TracerKey) (name version : Value)
    (fault : Option Failure) : Act Tracer := do
  modifyRecorder r fun x => { x with misses := x.misses + 1 }
  if let some e := fault then
    note (.refused r key)
    throw e
  let w ← get
  let (scope, withScope) := (w.recorders.get r).scopeFor name version
  let kept : KeptTracer := { name, version, scope := if w.telemetryOff then none else some scope }
  note (.issued r key)
  modifyRecorder r fun x =>
    { x with
      scopes := if w.telemetryOff then x.scopes else withScope.scopes
      tracers := x.tracers.push key kept
      issued := true }
  evict r ((← get).recorders.get r).tracers.size
  say .debug logger ("Created tracer " ++ name.wording ++ " (version=" ++ version.wording ++ ")")
  return handOut r kept

/-- The tracer kept for a key, which becomes the one used last, or a new one. -/
def lookUp (r : Ref Recorder) (key : TracerKey) (name version : Value) (fault : Option Failure) :
    Act Tracer := do
  note (.sought r key)
  match ((← get).recorders.get r).tracers.find? key with
  | some kept =>
    modifyRecorder r fun x => { x with hits := x.hits + 1, tracers := x.tracers.touch key }
    return handOut r kept
  | none => createTracer r key name version fault

/-- The tracer for a request, or what went wrong. -/
def seek (r : Ref Recorder) (request : Request) (fault : Option Failure) : Act Tracer := do
  let (name, version) ← MonadExcept.ofExcept request.parts
  let x := (← get).recorders.get r
  if x.closed then return .idle
  if ← MonadExcept.ofExcept (x.suppresses name) then return .idle
  let key ← MonadExcept.ofExcept (tracerKey name version)
  lookUp r key name version fault

def getTracer (r : Ref Recorder) (request : Request) (fault : Option Failure) : Act Tracer := do
  match ← attempt (seek r request fault) with
  | .ok tracer => return tracer
  | .error e =>
    if e.isInterruption then throw e
    modifyRecorder r fun x => { x with failures := x.failures + 1 }
    say .warning logger ("Failed to create tracer, falling back to no-op: " ++ e.wording)
    return .idle

def stats (r : Recorder) : Stats :=
  { hits := r.hits
    misses := r.misses
    failures := r.failures
    kept := r.tracers.size
    pipelines := r.pipelines.length
    closed := r.closed
    enabled := r.options.enabled
    serviceName := r.options.serviceName
    environment := r.options.environment }

end Recorder

end Tracing
