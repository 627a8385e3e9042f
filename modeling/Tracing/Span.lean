import Tracing.Store
import Tracing.Step

/-!
# Tracing.Span

Spans and the tracers that start them.

* `Scope`       — the library that a span is attributed to, as its tracer was made for it.
* `SpanKind`    — the role of a span in a trace.
* `SpanContext` — what the spans inside a span see of it.
* `Span`        — a span that records; `SpanRecord` — the same once it has ended.
* `Sampler.decide` — whether a span records and is sampled, and with which attributes.
-/

namespace Tracing

structure Scope where
  name : Value
  version : Value
  deriving Inhabited

namespace Scope

/-- A tracer without a version has the empty one. -/
def ofIdentity (name version : Value) : Scope :=
  match version with
  | .null => ⟨name, .str ""⟩
  | v => ⟨name, v⟩

end Scope

/-- What the spans inside a span see of it, be it recording or not. -/
structure SpanContext where
  name : Value
  sampled : Bool
  deriving Inhabited

inductive SpanKind where
  | internal
  | server
  | client
  | producer
  | consumer
  deriving DecidableEq, Repr, Inhabited

namespace SpanKind

def name : SpanKind → String
  | .internal => "INTERNAL"
  | .server => "SERVER"
  | .client => "CLIENT"
  | .producer => "PRODUCER"
  | .consumer => "CONSUMER"

def all : List SpanKind := [.internal, .server, .client, .producer, .consumer]

/-- The kind of a name. -/
def named (name : Value) : Except Failure SpanKind :=
  match name.key? with
  | none => .error (.unhashable name.typeName)
  | some key =>
    match all.find? (key = .text ·.name) with
    | some kind => .ok kind
    | none => .error (.unknownName name)

end SpanKind

/-- The name, the kind and the attributes that a span is started with. -/
structure SpanRequest where
  name : Value
  kind : SpanKind
  attributes : Value
  deriving Inhabited

/-- A span that records. -/
structure Span where
  name : Value
  kind : SpanKind
  attributes : List (Value × Value)
  scope : Scope
  parent : Option Value
  sampled : Bool
  service : Value
  deriving Inhabited

/-- An ended span, as it is exported. -/
structure SpanRecord where
  span : Span
  /-- Whether an error ended the span. -/
  failed : Bool
  deriving Inhabited

/-! ## Sampling -/

structure Decision where
  recording : Bool
  sampled : Bool
  attributes : Value

namespace Decision

def drop : Decision := ⟨false, false, .null⟩

/-- A decision holds a dictionary of attributes or none; a text passes for one here. -/
def checked (d : Decision) : Except Failure Decision :=
  match d.attributes with
  | .null | .dict _ | .str _ => .ok d
  | v => .error (.notMapping v.typeName)

/-- Recorded and sampled, or neither and without attributes. -/
def all (sampled : Bool) (attributes : Value) : Except Failure Decision :=
  if sampled then checked ⟨true, true, attributes⟩ else .ok drop

end Decision

/-- The entry for call number `n`: the last one repeats. -/
def entryFor {α : Type} (entries : List α) (n : Nat) : Option α :=
  (entries[n]?).or entries.getLast?

namespace Sampler

def isScripted : Sampler → Bool
  | .scripted .. => true
  | _ => false

/-- The decision on a span, for a sampler that was asked `asked` times before. -/
def decide (s : Sampler) (asked : Nat) (parent : Option SpanContext) (attributes : Value) :
    Except Failure Decision :=
  match s with
  | .always sampled => Decision.all sampled attributes
  | .ratio all => Decision.all all attributes
  | .parentBased root =>
    match parent with
    | none => Decision.all root attributes
    | some context => Decision.all context.sampled attributes
  | .scripted verdicts replaced _ =>
    let attributes := replaced.getD attributes
    match entryFor verdicts asked with
    | some .drop => Decision.checked ⟨false, false, attributes⟩
    | some .record => Decision.checked ⟨true, false, attributes⟩
    | some .sample => Decision.checked ⟨true, true, attributes⟩
    | some (.fails e) => .error e
    | none => .error .indexOutOfRange

def onOff (sampled : Bool) : String := if sampled then "AlwaysOnSampler" else "AlwaysOffSampler"

def description : Sampler → Text
  | .always sampled => onOff sampled
  | .ratio all => "TraceIdRatioBased\x7b" ++ (if all then "1.0" else "0.0") ++ "\x7d"
  | .parentBased root =>
    "ParentBased\x7broot:" ++ onOff root ++ ",remoteParentSampled:" ++ onOff true ++
      ",remoteParentNotSampled:" ++ onOff false ++ ",localParentSampled:" ++ onOff true ++
      ",localParentNotSampled:" ++ onOff false ++ "\x7d"
  | .scripted _ _ description => description

end Sampler

end Tracing
