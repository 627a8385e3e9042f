import Tracing.Answer

/-!
# Tracing.World

The state that operations work on, and the operations as a monad.

* `World`   — all objects, the provider installed for the process, the catalog, the exit hooks, the
  names that a program gave to objects, the log and the journal.
* `Act`     — an operation: it may fail, and keeps what it did until then.
* `Runner`  — how the steps of a hook or of a span's body are run.
* `attempt` — an operation whose failure is caught.
-/

namespace Tracing

/-- Objects by the names that a program gave them. -/
structure Names where
  pipelines : List (Text × Ref Pipeline) := []
  providers : List (Text × Provider) := []
  tracers : List (Text × Option Tracer) := []

namespace Names

/-- Give a name to an object; it names no other one then. -/
def bind {α : Type} (id : Text) (a : α) (names : List (Text × α)) : List (Text × α) :=
  (id, a) :: names.filter (·.1 ≠ id)

end Names

structure World where
  processors : Store Processor := {}
  pipelines : Store Pipeline := {}
  recorders : Store Recorder := {}
  /-- The first one is installed at the start. -/
  idles : Store Idle := ⟨[{ kind := .noop "NoOpTracerProvider" }]⟩
  installed : Option Provider := some (.idle ⟨0⟩)
  catalog : Catalog := {}
  /-- The recorders whose shutdown runs at exit, in the order in which they were added. -/
  exitHooks : List (Ref Recorder) := []
  names : Names := {}
  /-- The span that is current, unless its context is invalid. -/
  current : Option SpanContext := none
  /-- Whether the process is set to make idle tracers only. -/
  telemetryOff : Bool := false
  log : List LogRecord := []
  journal : List Event := []

/-! ## Objects that are not there

An object that a reference does not reach counts as closed and without effect. -/

instance : Inhabited Processor := ⟨{ role := .base, closed := true }⟩

instance : Inhabited Pipeline := ⟨{ processor := ⟨0⟩, name := .null, closed := true }⟩

instance : Inhabited Recorder :=
  ⟨{ className := "", options := {}, sampler := .always false, asked := none, resource := []
     closed := true }⟩

instance : Inhabited Idle := ⟨{ kind := .noop "NoOpTracerProvider" }⟩

/-- An operation on the world. -/
abbrev Act := EStateM Failure World

/-- Runs steps one after the other; none of them fails the others. -/
abbrev Runner := List Step → World → List Reply × World

namespace Act

/-- The outcome of an operation, failure included. -/
def attempt {α : Type} (x : Act α) : Act (Except Failure α) := fun w =>
  match x w with
  | .ok a w => .ok (.ok a) w
  | .error e w => .ok (.error e) w

/-- The text of a message. It fails if a value in it has none. -/
def compose (message : Wording) : Act Text := MonadExcept.ofExcept message.written

def say (level : Level) (logger : String) (message : Wording) : Act Unit := do
  let text ← compose message
  modify fun w => { w with log := w.log ++ [⟨level, logger, text⟩] }

/-- Enter an event into the journal. -/
def note (event : Event) : Act Unit :=
  modify fun w => { w with journal := w.journal ++ [event] }

def run (runner : Runner) (steps : List Step) : Act (List Reply) := modifyGet (runner steps)

/-- Work on the catalog, its records going to the log. -/
def catalog {α : Type} (x : Cataloguing α) : Act α := fun w =>
  match x (w.catalog, []) with
  | .ok a (c, log) => .ok a { w with catalog := c, log := w.log ++ log }
  | .error e (c, log) => .error e { w with catalog := c, log := w.log ++ log }

def modifyProcessor (r : Ref Processor) (f : Processor → Processor) : Act Unit :=
  modify fun w => { w with processors := w.processors.modify r f }

def modifyPipeline (r : Ref Pipeline) (f : Pipeline → Pipeline) : Act Unit :=
  modify fun w => { w with pipelines := w.pipelines.modify r f }

def modifyRecorder (r : Ref Recorder) (f : Recorder → Recorder) : Act Unit :=
  modify fun w => { w with recorders := w.recorders.modify r f }

def addProcessor (p : Processor) : Act (Ref Processor) :=
  modifyGet fun w => (w.processors.next, { w with processors := w.processors.add p })

def addPipeline (p : Pipeline) : Act (Ref Pipeline) :=
  modifyGet fun w => (w.pipelines.next, { w with pipelines := w.pipelines.add p })

def addRecorder (r : Recorder) : Act (Ref Recorder) :=
  modifyGet fun w => (w.recorders.next, { w with recorders := w.recorders.add r })

def addIdle (p : Idle) : Act (Ref Idle) :=
  modifyGet fun w => (w.idles.next, { w with idles := w.idles.add p })

end Act

namespace World

/-- The calls that processors received, in the order in which they began. -/
def calls (w : World) : List (Ref Processor × Call) :=
  w.journal.filterMap fun event =>
    match event with
    | .called p _ call => some (p, call)
    | _ => none

/-- The replies of the hook of a call, which is given by its number among all calls. -/
def hookReplies (w : World) (number : Nat) : Option (List Reply) :=
  w.journal.findSome? fun event =>
    match event with
    | .answered call replies => if call = number then some replies else none
    | _ => none

/-- The calls that a processor received, each with the replies of its hook if one ran. -/
def callsOf (w : World) (p : Ref Processor) : List (Call × Option (List Reply)) :=
  w.calls.zipIdx.filterMap fun ((q, call), number) =>
    if q = p then some (call, w.hookReplies number) else none

/-- The name that a program gave to a provider. -/
def idOf (w : World) (p : Provider) : Option Text :=
  (w.names.providers.find? (·.2 = p)).map (·.1)

end World

end Tracing
