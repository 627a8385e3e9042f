import Mathlib.Logic.Relation
import Tracing.Proofs.Programs
import Tracing.Proofs.Spans

/-!
# Tracing.Proofs.Change

What a world can go through, in the pieces between which hooks and bodies of spans may run.

* `Change P`  — one piece, done by a step that satisfies `P` or by the library itself.
* `Changes P` — any number of them; `Reachable P` from a world without objects.
* `World.Extends` — what later worlds keep of earlier ones.
* `Changes.extends` — they do, however a world goes on.
-/

namespace Tracing

open Act

/-- The objects that names stand for are there; a tracer is one that its recorder has issued. -/
structure Names.Known (w : World) (names : Names) : Prop where
  pipelines : ∀ id p, (id, p) ∈ names.pipelines → w.pipelines.Has p
  providers : ∀ id r, (id, .recorder r) ∈ names.providers → w.recorders.Has r
  tracers : ∀ id r scope, (id, some (.recording r scope)) ∈ names.tracers →
    (w.recorders.get r).issued = true

/-- A processor that nothing was delivered to. -/
structure Processor.IsNew (x : Processor) : Prop where
  isOpen : x.closed = false := by rfl
  waiting : x.waiting = [] := by rfl
  exported : x.exported = [] := by rfl

def Recorder.attaching (x : Recorder) (p : Ref Pipeline) (q : Ref Processor) : Recorder :=
  { x with pipelines := x.pipelines ++ [p], attached := x.attached ++ [q] }

namespace World

def attachedTo (w : World) (r : Ref Recorder) (p : Ref Pipeline) : World :=
  (w.entered (.attached r p)).withRecorder r (·.attaching p (w.pipelines.get p).processor)

def shuttingDown (w : World) (r : Ref Recorder) : World :=
  (w.withRecorder r fun x => { x with closed := true }).entered
    (.shuttingDown r (w.recorders.get r).pipelines)

def shutDown (w : World) (r : Ref Recorder) : World :=
  { w with exitHooks := w.exitHooks.filter (· ≠ r) }.entered (.shutDown r)

end World

inductive Change (P : Step → Prop) (w : World) : World → Prop where
  /-- The log, the current span, the catalog, and the providers that record nothing. -/
  | aside (log : List LogRecord) (current : Option SpanContext) (catalog : Catalog)
      (idles : Store Idle) : Change P w { w with log, current, catalog, idles }
  | name (names : Names) (known : names.Known w) : Change P w { w with names }
  | addProcessor (x : Processor) (hooks : x.role.HooksSatisfy P) (new : x.IsNew) :
      Change P w { w with processors := w.processors.add x }
  | addPipeline (q : Ref Processor) (name : Value) (known : w.processors.Has q) :
      Change P w { w with pipelines := w.pipelines.add { processor := q, name } }
  | addRecorder (className : String) (options : Options) (sampler : Sampler)
      (asked : Option (List SpanRequest)) (resource : List (Value × Value)) :
      Change P w
        { w with recorders := w.recorders.add { className, options, sampler, asked, resource } }
  | attach (r : Ref Recorder) (p : Ref Pipeline) (known : w.recorders.Has r)
      (knownPipeline : w.pipelines.Has p) : Change P w (w.attachedTo r p)
  | addHook (r : Ref Recorder) (known : w.recorders.Has r) (new : r ∉ w.exitHooks) :
      Change P w { w with exitHooks := w.exitHooks ++ [r] }
  | takeHook : Change P w { w with exitHooks := w.exitHooks.dropLast }
  | ask (s : Step) (allowed : P s) (r : Ref Recorder) (request : Request)
      (fault : Option Failure) (asked : (request, fault) ∈ s.asks) :
      Change P w ((Recorder.getTracer r request fault).after w)
  | assign (id field : Text) (v : Value) (allowed : P (.setOption id (.str field) v))
      (r : Ref Recorder) : Change P w (w.withRecorder r (·.assign field v))
  | startSpan (r : Ref Recorder) (scope : Scope) (request : SpanRequest)
      (issued : (w.recorders.get r).issued = true) :
      Change P w ((Recorder.startSpan r scope request).after w)
  | endSpan (r : Ref Recorder) (span : Span) (failed : Bool)
      (issued : (w.recorders.get r).issued = true) (started : .started r span ∈ w.journal) :
      Change P w ((Recorder.endSpan r span failed).after w)
  /-- The flush of an open pipeline calls the processor. -/
  | flush (p : Ref Pipeline) (timeout : Value) (isOpen : (w.pipelines.get p).closed = false) :
      Change P w (Pipeline.flushBegun w p timeout)
  /-- An open pipeline is closed and calls the processor. -/
  | close (p : Ref Pipeline) (isOpen : (w.pipelines.get p).closed = false) :
      Change P w (Pipeline.closeBegun w p)
  /-- A processor is shut down, but not through a pipeline. -/
  | stop (q : Ref Processor) :
      Change P w (w.called q none .shutdown (w.processors.get q).onShutdown.processor)
  | answer (number : Nat) (replies : List Reply) :
      Change P w (w.entered (.answered number replies))
  | shuttingDown (r : Ref Recorder) (isOpen : (w.recorders.get r).closed = false) :
      Change P w (w.shuttingDown r)
  | shutDown (r : Ref Recorder) (ps : List (Ref Pipeline)) (begun : .shuttingDown r ps ∈ w.journal)
      (closed : ∀ p ∈ ps, (w.pipelines.get p).closed = true) : Change P w (w.shutDown r)
  | install (p : Option Provider) :
      Change P w
        { w with installed := p, journal := w.journal ++ [.installed p w.installed] }

abbrev Changes (P : Step → Prop) : World → World → Prop := Relation.ReflTransGen (Change P)

/-- A world that comes about from one without objects. -/
def Reachable (P : Step → Prop) (w : World) : Prop :=
  ∃ telemetryOff, Changes P { telemetryOff } w

/-! ## What later worlds keep -/

namespace World

structure Extends (w w' : World) : Prop where
  telemetryOff : w'.telemetryOff = w.telemetryOff := by rfl
  journal : w.journal <+: w'.journal := by simp
  processors : w.processors.size ≤ w'.processors.size := by first | exact Nat.le_refl _ | simp
  pipelines : w.pipelines.size ≤ w'.pipelines.size := by first | exact Nat.le_refl _ | simp
  recorders : w.recorders.size ≤ w'.recorders.size := by first | exact Nat.le_refl _ | simp
  role : ∀ q, w.processors.Has q →
    (w'.processors.get q).role = (w.processors.get q).role := by intro q hq; rfl
  processor : ∀ p, w.pipelines.Has p →
    (w'.pipelines.get p).processor = (w.pipelines.get p).processor := by intro p hp; rfl
  name : ∀ p, w.pipelines.Has p →
    (w'.pipelines.get p).name = (w.pipelines.get p).name := by intro p hp; rfl
  shut : ∀ p, w.pipelines.Has p → (w.pipelines.get p).closed = true →
    (w'.pipelines.get p).closed = true := by intro p hp h; exact h
  owned : ∀ r, w.recorders.Has r →
    (w.recorders.get r).pipelines <+: (w'.recorders.get r).pipelines := by
      intro r hr; exact List.prefix_rfl
  closed : ∀ r, w.recorders.Has r → (w.recorders.get r).closed = true →
    (w'.recorders.get r).closed = true := by intro r hr h; exact h
  issued : ∀ r, (w.recorders.get r).issued = true →
    (w'.recorders.get r).issued = true := by intro r h; exact h

namespace Extends

theorem hasProcessor {w w' : World} (h : w.Extends w') {q : Ref Processor}
    (hq : w.processors.Has q) : w'.processors.Has q :=
  Nat.lt_of_lt_of_le hq h.processors

theorem hasPipeline {w w' : World} (h : w.Extends w') {p : Ref Pipeline}
    (hp : w.pipelines.Has p) : w'.pipelines.Has p :=
  Nat.lt_of_lt_of_le hp h.pipelines

theorem hasRecorder {w w' : World} (h : w.Extends w') {r : Ref Recorder}
    (hr : w.recorders.Has r) : w'.recorders.Has r :=
  Nat.lt_of_lt_of_le hr h.recorders

theorem refl (w : World) : w.Extends w := {}

theorem trans {w w' w'' : World} (h : w.Extends w') (h' : w'.Extends w'') : w.Extends w'' where
  telemetryOff := h'.telemetryOff.trans h.telemetryOff
  journal := h.journal.trans h'.journal
  processors := Nat.le_trans h.processors h'.processors
  pipelines := Nat.le_trans h.pipelines h'.pipelines
  recorders := Nat.le_trans h.recorders h'.recorders
  role q hq := (h'.role q (h.hasProcessor hq)).trans (h.role q hq)
  processor p hp := (h'.processor p (h.hasPipeline hp)).trans (h.processor p hp)
  name p hp := (h'.name p (h.hasPipeline hp)).trans (h.name p hp)
  shut p hp hc := h'.shut p (h.hasPipeline hp) (h.shut p hp hc)
  owned r hr := (h.owned r hr).trans (h'.owned r (h.hasRecorder hr))
  closed r hr hc := h'.closed r (h.hasRecorder hr) (h.closed r hr hc)
  issued r hi := h'.issued r (h.issued r hi)

end Extends

theorem SameShape.extends {w w' : World} (h : w.SameShape w') : w.Extends w' where
  telemetryOff := h.telemetryOff
  journal := h.journal
  processors := Nat.le_of_eq h.processors.symm
  pipelines := Nat.le_of_eq h.pipelines.symm
  recorders := Nat.le_of_eq h.recorders.symm
  role q _ := h.role q
  processor p _ := h.processor p
  name p _ := h.name p
  shut p _ := h.shut p
  owned r _ := h.owned r ▸ List.prefix_rfl
  closed r _ := h.closed r
  issued r := h.issued r

end World

/-! ## Changes that keep the shape -/

open World

section

variable {w : World}

theorem called_shape (q : Ref Processor) (via : Option (Ref Pipeline)) (call : Call)
    {x : Processor} (h : x.role = (w.processors.get q).role) :
    w.SameShape (w.called q via call x) where
  role t := by
    rcases w.processors.get_modify_eq_or q t (fun _ => x) with ht | ⟨rfl, ht⟩
    · exact congrArg Processor.role ht
    · exact (congrArg Processor.role ht).trans h
  journal := by simp [World.called]
  processors := by simp [World.called]

theorem flushBegun_shape (p : Ref Pipeline) (timeout : Value) :
    w.SameShape (Pipeline.flushBegun w p timeout) :=
  called_shape _ _ _ (Processor.onForceFlush_role _)

theorem shut_shape (p : Ref Pipeline) : w.SameShape (w.shut p) where
  processor t := w.pipelines.map_get_modify (·.processor) p t
    (f := fun x => { x with closed := true }) fun _ => rfl
  name t := w.pipelines.map_get_modify (·.name) p t
    (f := fun x => { x with closed := true }) fun _ => rfl
  shut t h := by
    rcases w.pipelines.get_modify_eq_or p t (fun x => { x with closed := true }) with ht | ⟨-, ht⟩
    · exact (congrArg Pipeline.closed ht).trans h
    · exact congrArg Pipeline.closed ht
  journal := by simp [World.shut]
  pipelines := by simp [World.shut]

theorem closeBegun_shape (p : Ref Pipeline) : w.SameShape (Pipeline.closeBegun w p) :=
  (shut_shape p).trans (called_shape _ _ _ (Processor.onShutdown_role _))

theorem entered_shape (e : Event) : w.SameShape (w.entered e) where
  journal := by simp [World.entered]

theorem shuttingDown_shape (r : Ref Recorder) : w.SameShape (w.shuttingDown r) := by
  have h : w.SameShape (w.withRecorder r fun x => { x with closed := true }) :=
    .onRecorder w r (fun _ => rfl) (fun _ => rfl) fun _ _ => rfl
  exact h.trans (entered_shape _)

theorem shuttingDown_closed {r : Ref Recorder} (hr : w.recorders.Has r) :
    ((w.shuttingDown r).recorders.get r).closed = true :=
  congrArg Recorder.closed (w.recorders.get_modify_self _ hr)

theorem assign_standing (r : Ref Recorder) (field : Text) (v : Value) :
    w.SameStanding (w.withRecorder r (·.assign field v)) := by
  refine .onRecorder w r ?_ ?_ ?_ ?_ <;> intro x <;> unfold Recorder.assign <;>
    split <;> first | rfl | exact id

theorem ask_after (r : Ref Recorder) (request : Request) (fault : Option Failure) :
    w.SameStanding ((Recorder.getTracer r request fault).after w) := by
  have allows : AllowsRequest SameStanding r :=
    { entered := fun w e h =>
        { toSameShape := entered_shape e
          entries := ⟨[e], rfl, by simpa using Event.isRoutine_of_isLookup h⟩ }
      changed := fun w f h => by
        have keeps : ∀ {β : Type} (g : Recorder → β),
            (∀ x tracers scopes issued hits misses failures,
              g { x with tracers, scopes, issued, hits, misses, failures } = g x) →
            ∀ x, g (f x) = g x := by
          intro β g hg x
          obtain ⟨_, _, _, _, _, _, -, hx⟩ := h x
          rw [hx, hg]
        refine .onRecorder w r ?_ ?_ ?_ ?_
        · exact keeps (·.pipelines) fun _ _ _ _ _ _ _ => rfl
        · exact keeps (·.attached) fun _ _ _ _ _ _ _ => rfl
        · exact keeps (·.closed) fun _ _ _ _ _ _ _ => rfl
        · intro x hi
          obtain ⟨_, _, _, _, _, _, still, hx⟩ := h x
          rw [hx]
          exact still hi
      logged := fun _ _ =>
        { toSameShape := { journal := by simp [World.logged] }
          entries := ⟨[], by simp [World.logged]⟩ } }
  exact getTracer_allowed allows request fault w

theorem startSpan_after (r : Ref Recorder) (scope : Scope) (request : SpanRequest) :
    w.SameHoldings ((Recorder.startSpan r scope request).after w) :=
  (startSpan_holdings r scope request).after

theorem endSpan_after (r : Ref Recorder) (span : Span) (failed : Bool) :
    w.SameHoldings ((Recorder.endSpan r span failed).after w) :=
  (endSpan_holdings r span failed).after

/-! ## Later worlds -/

theorem attachedTo_extends (r : Ref Recorder) (p : Ref Pipeline) :
    w.Extends (w.attachedTo r p) where
  journal := by simp [World.attachedTo, World.withRecorder, World.entered]
  recorders := by simp [World.attachedTo, World.withRecorder, World.entered]
  owned t _ := by
    rcases w.recorders.get_modify_eq_or r t (·.attaching p (w.pipelines.get p).processor)
      with ht | ⟨-, ht⟩
    · exact congrArg Recorder.pipelines ht ▸ List.prefix_rfl
    · exact congrArg Recorder.pipelines ht ▸ List.prefix_append _ _
  closed t _ h := (w.recorders.map_get_modify (·.closed) r t
    (f := (·.attaching p (w.pipelines.get p).processor)) fun _ => rfl).trans h
  issued t h := (w.recorders.map_get_modify (·.issued) r t
    (f := (·.attaching p (w.pipelines.get p).processor)) fun _ => rfl).trans h

theorem Change.extends {P : Step → Prop} {w' : World} (h : Change P w w') : w.Extends w' := by
  cases h with
  | aside => exact {}
  | name => exact {}
  | addProcessor x => exact { role := fun q hq => by rw [w.processors.get_add_of_lt x hq] }
  | addPipeline q name =>
    exact
      { processor := fun p hp => by rw [w.pipelines.get_add_of_lt _ hp]
        name := fun p hp => by rw [w.pipelines.get_add_of_lt _ hp]
        shut := fun p hp h => by rw [w.pipelines.get_add_of_lt _ hp, h] }
  | addRecorder =>
    exact
      { owned := fun r hr => by
          simp only [w.recorders.get_add_of_lt _ hr, List.prefix_rfl]
        closed := fun r hr h => by rw [w.recorders.get_add_of_lt _ hr, h]
        issued := fun r h => by
          have hr : w.recorders.Has r := Recorder.has_of_issued h
          rw [w.recorders.get_add_of_lt _ hr, h] }
  | attach r p => exact attachedTo_extends r p
  | addHook => exact {}
  | takeHook => exact {}
  | ask _ _ r request fault => exact (ask_after r request fault).extends
  | assign _ field v _ r => exact (assign_standing r field v).extends
  | startSpan r scope request => exact (startSpan_after r scope request).extends
  | endSpan r span failed => exact (endSpan_after r span failed).extends
  | flush p timeout => exact (flushBegun_shape p timeout).extends
  | close p => exact (closeBegun_shape p).extends
  | stop q => exact (called_shape q none .shutdown (Processor.onShutdown_role _)).extends
  | answer => exact (entered_shape _).extends
  | shuttingDown r => exact (shuttingDown_shape r).extends
  | shutDown r => exact { journal := by simp [World.shutDown, World.entered] }
  | install p => exact {}

end

theorem Changes.extends {P : Step → Prop} {w w' : World} (h : Changes P w w') : w.Extends w' := by
  induction h with
  | refl => exact .refl w
  | tail _ h ih => exact ih.trans h.extends

end Tracing
