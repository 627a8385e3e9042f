import Tracing.Identity

/-!
# Tracing.Step

The operations of a program on the library, as data. Programs also stand inside steps: the body of
a span, and the hooks that a scripted processor runs while it is flushed or shut down.

* `ProcessorSpec`, `PipelineSpec`, `SamplerSpec` — what a step asks to be built.
* `Request`       — what a tracer is asked for with.
* `ProviderClass`, `EntryPoint` — classes of providers that a catalog names.
* `Step`          — the operations.
* `Step.sizeAll`  — the number of steps of a program, those inside others included.
-/

namespace Tracing

/-- How a call of outside code ends. -/
inductive Outcome where
  | returns (v : Value)
  | raises (e : Failure)
  deriving Inhabited

/-- What a scripted processor does in its calls. The outcome of a call beyond a list is the last
one in it; hooks beyond a list are empty. -/
structure ProcessorScript (σ : Type) where
  className : Text := "ScriptedProcessor"
  flushes : List Outcome := [.returns (.bool true)]
  shutdowns : List Outcome := [.returns .null]
  onFlush : List (List σ) := []
  onShutdown : List (List σ) := []

inductive ProcessorSpec (σ : Type) where
  | scripted (script : ProcessorScript σ)
  | simple
  | batch
  | base
  | bare
  /-- The processor that the pipeline of this name wraps. -/
  | shared (pipeline : Text)

inductive PipelineSpec (σ : Type) where
  | make (id : Text) (name : Value) (processor : ProcessorSpec σ)
  | known (id : Text)

/-- What a sampler decides for one span. -/
inductive Verdict where
  | drop
  | record
  | sample
  | fails (e : Failure)
  deriving Inhabited

inductive Sampler where
  | always (sampled : Bool)
  /-- A share of all traces: none or all of them. -/
  | ratio (all : Bool)
  /-- The parent's decision; a span without a parent is sampled if `root` says so. -/
  | parentBased (root : Bool)
  | scripted (verdicts : List Verdict) (attributes : Option Value) (description : Text)
  deriving Inhabited

/-- A sampler given to a provider; one that counts as unset is not used. -/
structure SamplerSpec where
  sampler : Sampler
  isUnset : Bool := false
  deriving Inhabited

/-- What a tracer is asked for with: nothing, an identity, or another object, of which only the
type and the attributes matter. -/
inductive Request where
  | default
  | identity (i : Identity)
  | object (typeName : String) (name version : Option Value)
  deriving Inhabited

/-- What the instances of a class of providers are. -/
inductive InstanceKind where
  | recorder
  | noop
  | minimal
  /-- There are none: the class is the interface itself. -/
  | interface
  /-- There are none: they cannot be made. -/
  | exploding
  deriving DecidableEq, Repr, Inhabited

/-- A class of providers that a catalog can name, of the library or of a package. -/
structure ProviderClass where
  moduleName : Text
  className : String
  instances : InstanceKind
  /-- Tells classes of one module and one name apart. -/
  serial : Nat := 0
  deriving DecidableEq, Repr, Inhabited

/-- What loading an entry point gives: a class, nothing, or an error. -/
inductive Loaded where
  | gives (c : Option ProviderClass)
  | raises (e : Failure)
  deriving Inhabited

/-- A provider that a package announces. `value`, a text, names its module and, after a colon, its
class. -/
structure EntryPoint where
  name : Value
  value : Value
  load : Loaded
  deriving Inhabited

/-- The providers of outside code that are no provider class of a catalog. -/
inductive OtherKind where
  | minimal
  | badShutdown
  | raisingShutdown
  deriving DecidableEq, Repr, Inhabited

/-- Fields of options, by name; `none` where no options are given. -/
abbrev Arguments := Option (List (Text × Value))

inductive Step where
  | newPipeline (id : Text) (name : Value) (processor : ProcessorSpec Step)
  | buildExport (id : Text) (options : List (Text × Value))
  | flushPipeline (pipeline : Text) (timeout : Value)
  | shutdownPipeline (pipeline : Text)
  | pipelineState (pipeline : Text)
  | shutdownProcessor (pipeline : Text)
  | calls (pipeline : Text)
  | exported (pipeline : Text)
  | newProvider (id : Text) (options : Arguments) (pipelines : Option (List (PipelineSpec Step)))
      (sampler : Option SamplerSpec) (resource : Option Value) (onExit : Bool)
  | newNoop (id : Text) (options : Arguments)
  | newOther (id : Text) (kind : OtherKind)
  | getTracer (provider : Text) (id : Option Text) (request : Request)
      (fault : Option Failure)
  | span (tracer : Text) (name kind attributes : Value) (body : Option (List Step))
      (fault : Option Failure)
  | forceFlush (provider : Text)
  | shutdown (provider : Text)
  | isShutdown (provider : Text)
  | stats (provider : Text)
  | shown (provider : Text)
  | pipelines (provider : Text)
  | adopt (provider : Text) (index : Value) (id : Text)
  | resource (provider : Text)
  | addProcessor (provider id : Text) (name : Value) (processor : ProcessorSpec Step)
  | setOption (provider : Text) (field v : Value)
  | sampler (provider : Text)
  | threads (provider : Text) (count : Nat) (names : List Value)
  | exitHooks
  | runExitHooks
  | setGlobal (provider : Option Text)
  | getGlobal
  | globalGetTracer (name version : Option Value) (id : Option Text)
  | globalForceFlush
  | globalShutdown
  | entryPoints (announced : List EntryPoint) (reset : Bool)
  | entryPointReads
  | discover
  | register (name : Value) (c : Option ProviderClass)
  | listProviders
  | available (name : Value)
  | create (id : Text) (options : Arguments)

namespace Step

mutual

def size : Step → Nat
  | .newPipeline _ _ p => 1 + sizeProcessor p
  | .newProvider _ _ ps _ _ _ => 1 + sizePipelines? ps
  | .span _ _ _ _ body _ => 1 + sizeBody body
  | .addProcessor _ _ _ p => 1 + sizeProcessor p
  | _ => 1

def sizeAll : List Step → Nat
  | [] => 0
  | s :: rest => size s + sizeAll rest

def sizeHooks : List (List Step) → Nat
  | [] => 0
  | h :: rest => sizeAll h + sizeHooks rest

def sizeBody : Option (List Step) → Nat
  | none => 0
  | some body => sizeAll body

def sizeScript : ProcessorScript Step → Nat
  | ⟨_, _, _, onFlush, onShutdown⟩ => sizeHooks onFlush + sizeHooks onShutdown

def sizeProcessor : ProcessorSpec Step → Nat
  | .scripted script => sizeScript script
  | _ => 0

def sizePipeline : PipelineSpec Step → Nat
  | .make _ _ p => sizeProcessor p
  | .known _ => 0

def sizePipelines : List (PipelineSpec Step) → Nat
  | [] => 0
  | p :: rest => sizePipeline p + sizePipelines rest

def sizePipelines? : Option (List (PipelineSpec Step)) → Nat
  | none => 0
  | some ps => sizePipelines ps

end

end Step

end Tracing
