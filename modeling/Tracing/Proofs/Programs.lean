import Tracing.Script

/-!
# Tracing.Proofs.Programs

Properties of programs that hold of every step, those inside other steps included.

* `Step.Every P`     — a step and all steps inside it satisfy `P`; `EveryIn` for a program.
* `Role.HooksSatisfy P` — the steps of a processor's hooks do.
* `Step.asks`        — the requests for tracers that a step makes.
-/

namespace Tracing

namespace Step

mutual

/-- Every step inside a step satisfies `P`. -/
def EveryInside (P : Step → Prop) : Step → Prop
  | .newPipeline _ _ spec => EveryInProcessor P spec
  | .newProvider _ _ specs _ _ _ => EveryInPipelines? P specs
  | .span _ _ _ _ body _ => EveryInBody P body
  | .addProcessor _ _ _ spec => EveryInProcessor P spec
  | _ => True

def EveryIn (P : Step → Prop) : List Step → Prop
  | [] => True
  | s :: rest => (P s ∧ EveryInside P s) ∧ EveryIn P rest

def EveryInHooks (P : Step → Prop) : List (List Step) → Prop
  | [] => True
  | hook :: rest => EveryIn P hook ∧ EveryInHooks P rest

def EveryInBody (P : Step → Prop) : Option (List Step) → Prop
  | none => True
  | some body => EveryIn P body

def EveryInScript (P : Step → Prop) : ProcessorScript Step → Prop
  | ⟨_, _, _, onFlush, onShutdown⟩ => EveryInHooks P onFlush ∧ EveryInHooks P onShutdown

def EveryInProcessor (P : Step → Prop) : ProcessorSpec Step → Prop
  | .scripted script => EveryInScript P script
  | _ => True

def EveryInPipeline (P : Step → Prop) : PipelineSpec Step → Prop
  | .make _ _ spec => EveryInProcessor P spec
  | .known _ => True

def EveryInPipelines (P : Step → Prop) : List (PipelineSpec Step) → Prop
  | [] => True
  | spec :: rest => EveryInPipeline P spec ∧ EveryInPipelines P rest

def EveryInPipelines? (P : Step → Prop) : Option (List (PipelineSpec Step)) → Prop
  | none => True
  | some specs => EveryInPipelines P specs

end

def Every (P : Step → Prop) (s : Step) : Prop := P s ∧ EveryInside P s

variable {P : Step → Prop}

mutual

theorem everyInside_of_forall (h : ∀ s, P s) (s : Step) : EveryInside P s := by
  cases s with
  | newPipeline _ _ spec => exact everyInProcessor_of_forall h spec
  | newProvider _ _ specs _ _ _ => exact everyInPipelines?_of_forall h specs
  | span _ _ _ _ body _ => exact everyInBody_of_forall h body
  | addProcessor _ _ _ spec => exact everyInProcessor_of_forall h spec
  | _ => trivial

theorem everyIn_of_forall (h : ∀ s, P s) : ∀ steps, EveryIn P steps
  | [] => trivial
  | s :: rest => ⟨⟨h s, everyInside_of_forall h s⟩, everyIn_of_forall h rest⟩

theorem everyInHooks_of_forall (h : ∀ s, P s) : ∀ hooks, EveryInHooks P hooks
  | [] => trivial
  | hook :: rest => ⟨everyIn_of_forall h hook, everyInHooks_of_forall h rest⟩

theorem everyInBody_of_forall (h : ∀ s, P s) : ∀ body, EveryInBody P body
  | none => trivial
  | some body => everyIn_of_forall h body

theorem everyInScript_of_forall (h : ∀ s, P s) : ∀ script, EveryInScript P script
  | ⟨_, _, _, onFlush, onShutdown⟩ =>
    ⟨everyInHooks_of_forall h onFlush, everyInHooks_of_forall h onShutdown⟩

theorem everyInProcessor_of_forall (h : ∀ s, P s) : ∀ spec, EveryInProcessor P spec
  | .scripted script => everyInScript_of_forall h script
  | .simple | .batch | .base | .bare | .shared _ => trivial

theorem everyInPipeline_of_forall (h : ∀ s, P s) : ∀ spec, EveryInPipeline P spec
  | .make _ _ spec => everyInProcessor_of_forall h spec
  | .known _ => trivial

theorem everyInPipelines_of_forall (h : ∀ s, P s) : ∀ specs, EveryInPipelines P specs
  | [] => trivial
  | spec :: rest => ⟨everyInPipeline_of_forall h spec, everyInPipelines_of_forall h rest⟩

theorem everyInPipelines?_of_forall (h : ∀ s, P s) : ∀ specs, EveryInPipelines? P specs
  | none => trivial
  | some specs => everyInPipelines_of_forall h specs

end

theorem everyIn_of_getElem? {hooks : List (List Step)} {n : Nat} {steps : List Step}
    (h : EveryInHooks P hooks) (hn : hooks[n]? = some steps) : EveryIn P steps := by
  induction hooks generalizing n with
  | nil => simp at hn
  | cons hook rest ih =>
    cases n with
    | zero =>
      cases hn
      exact h.1
    | succ n => exact ih h.2 hn

/-- The requests for tracers that a step makes, each with what is raised in place of the tracer. -/
def asks : Step → List (Request × Option Failure)
  | .getTracer _ _ request fault => [(request, fault)]
  | .threads _ _ names => (.null :: names).map fun name => (.identity { name }, none)
  | .globalGetTracer (some name) version _ =>
    [(.identity { name, version := version.getD .null }, none)]
  | _ => []

end Step

/-! ## Hooks -/

/-- Every step of the hooks of a processor satisfies `P`. -/
def Role.HooksSatisfy (P : Step → Prop) : Role → Prop
  | .scripted script => Step.EveryInScript P script
  | _ => True

namespace Processor

variable {P : Step → Prop}

theorem onForceFlush_role (x : Processor) : x.onForceFlush.processor.role = x.role := by
  unfold onForceFlush
  split <;> try rfl
  dsimp only
  split <;> rfl

theorem onShutdown_role (x : Processor) : x.onShutdown.processor.role = x.role := by
  unfold onShutdown
  split <;> rfl

theorem onForceFlush_hook {x : Processor} (h : x.role.HooksSatisfy P) {steps : List Step}
    (hs : x.onForceFlush.hook = some steps) : Step.EveryIn P steps := by
  unfold onForceFlush at hs
  split at hs
  next script hr =>
    rw [hr] at h
    cases script
    exact Step.everyIn_of_getElem? h.1 hs
  all_goals simp at hs

theorem onShutdown_hook {x : Processor} (h : x.role.HooksSatisfy P) {steps : List Step}
    (hs : x.onShutdown.hook = some steps) : Step.EveryIn P steps := by
  unfold onShutdown at hs
  split at hs
  next script hr =>
    rw [hr] at h
    cases script
    exact Step.everyIn_of_getElem? h.2 hs
  all_goals simp at hs

end Processor

end Tracing
