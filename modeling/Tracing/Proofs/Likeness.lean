import Tracing.Proofs.Agree
import Tracing.Proofs.Uncached

/-!
# Tracing.Proofs.Likeness

Ways in which worlds may be alike, such that operations keep them so.

* `Recorder.core`  — what all operations read of a recorder but requests for tracers and counts.
  `Recorder.Outer` — a change of a recorder that does not concern the rest.
* `World.Reads P`  — worlds of which the same is read.
* `Likens P O V S A` — worlds that `A` relates are of that kind, and operations keep them related.
* `say_steady`, `modifyRecorder_steady`, `addRecorder_agree` — the operations that others consist
  of.
-/

namespace Tracing

open Act

/-! ## Stores of the same size -/

namespace Store

variable {α : Type} [Inhabited α] {s s' : Store α}

/-- Changes of an object change it in both stores, or it is in neither. -/
theorem get_modify_both (h : s'.size = s.size) (r t : Ref α) (f g : α → α) :
    (s.modify r f).get t = s.get t ∧ (s'.modify r g).get t = s'.get t ∨
      t = r ∧ (s.modify r f).get t = f (s.get t) ∧ (s'.modify r g).get t = g (s'.get t) := by
  by_cases ht : t = r
  · subst ht
    have has_iff : s'.Has t ↔ s.Has t := by rw [Has, Has, h]
    by_cases has : s.Has t
    · exact .inr ⟨rfl, s.get_modify_self f has, s'.get_modify_self g (has_iff.mpr has)⟩
    · exact .inl ⟨s.get_modify_of_not_has f has,
        s'.get_modify_of_not_has g fun has' => has (has_iff.mp has')⟩
  · exact .inl ⟨s.get_modify_ne f ht, s'.get_modify_ne g ht⟩

theorem get_add_both (h : s'.size = s.size) (x y : α) (t : Ref α) :
    (s.add x).get t = x ∧ (s'.add y).get t = y ∨
      (s.add x).get t = s.get t ∧ (s'.add y).get t = s'.get t := by
  have next : s'.next = s.next := by rw [Store.next, Store.next, h]
  by_cases ht : t = s.next
  · left
    subst ht
    exact ⟨s.get_add_self x, next ▸ s'.get_add_self y⟩
  · exact .inr ⟨s.get_add_of_ne x ht, s'.get_add_of_ne y (next ▸ ht)⟩

end Store

/-! ## What is read -/

namespace Recorder

/-- A recorder but for its count of failed requests. -/
def uncounted (x : Recorder) : Recorder := { x with failures := 0 }

/-- A recorder without what only requests for tracers read and count. -/
def core (x : Recorder) : Recorder := x.uncached.uncounted

/-- A change of a recorder that leaves alone what only requests for tracers read and count. -/
structure Outer (f : Recorder → Recorder) : Prop where
  uncached : ∀ x, (f x).uncached = f x.uncached := by intro x; rfl
  tracers : ∀ x, (f x).tracers = x.tracers := by intro x; rfl
  limit : ∀ x, (f x).options.maxCachedTracers = x.options.maxCachedTracers := by intro x; rfl
  issued : ∀ x, x.issued = true → (f x).issued = true := by intro x h; exact h
  scopes : ∀ x, (f x).scopes = x.scopes := by intro x; rfl
  uncounted : ∀ x, f x.uncounted = (f x).uncounted := by intro x; rfl

end Recorder

/-- Worlds of which operations read the same, apart from requests for tracers and counts of them. -/
structure World.Reads (P : Step → Prop) (w w' : World) : Prop where
  processors : w'.processors = w.processors
  pipelines : w'.pipelines = w.pipelines
  idles : w'.idles = w.idles
  installed : w'.installed = w.installed
  catalog : w'.catalog = w.catalog
  exitHooks : w'.exitHooks = w.exitHooks
  current : w'.current = w.current
  pipelineNames : w'.names.pipelines = w.names.pipelines
  providerNames : w'.names.providers = w.names.providers
  size : w'.recorders.size = w.recorders.size
  recorders : ∀ r, (w'.recorders.get r).core = (w.recorders.get r).core
  calls : w'.calls = w.calls
  hooks : ∀ q, (w.processors.get q).role.HooksSatisfy P

namespace World

namespace Reads

variable {P : Step → Prop} {w w' : World}

section

variable (h : w.Reads P w') (r : Ref Recorder)
include h

theorem of_core {β : Type} (g : Recorder → β) (hg : ∀ x : Recorder, g x.core = g x) :
    g (w'.recorders.get r) = g (w.recorders.get r) := by
  rw [← hg, h.recorders r, hg]

theorem className : (w'.recorders.get r).className = (w.recorders.get r).className :=
  h.of_core r Recorder.className fun _ => rfl

theorem sampler : (w'.recorders.get r).sampler = (w.recorders.get r).sampler :=
  h.of_core r Recorder.sampler fun _ => rfl

theorem asked : (w'.recorders.get r).asked = (w.recorders.get r).asked :=
  h.of_core r Recorder.asked fun _ => rfl

theorem decisions : (w'.recorders.get r).decisions = (w.recorders.get r).decisions :=
  h.of_core r Recorder.decisions fun _ => rfl

theorem owned : (w'.recorders.get r).pipelines = (w.recorders.get r).pipelines :=
  h.of_core r Recorder.pipelines fun _ => rfl

theorem attached : (w'.recorders.get r).attached = (w.recorders.get r).attached :=
  h.of_core r Recorder.attached fun _ => rfl

theorem issued : (w'.recorders.get r).issued = (w.recorders.get r).issued :=
  h.of_core r Recorder.issued fun _ => rfl

theorem closed : (w'.recorders.get r).closed = (w.recorders.get r).closed :=
  h.of_core r Recorder.closed fun _ => rfl

theorem flushTimeout : (w'.recorders.get r).options.flushTimeout =
    (w.recorders.get r).options.flushTimeout :=
  h.of_core r (·.options.flushTimeout) fun _ => rfl

theorem serviceName : (w'.recorders.get r).options.serviceName =
    (w.recorders.get r).options.serviceName :=
  h.of_core r (·.options.serviceName) fun _ => rfl

theorem service : (w'.recorders.get r).service = (w.recorders.get r).service :=
  h.of_core r Recorder.service fun _ => rfl

theorem shown : (w'.recorders.get r).shown = (w.recorders.get r).shown :=
  h.of_core r Recorder.shown fun _ => rfl

theorem resourceAnswer : Script.resourceAnswer (w'.recorders.get r) =
    Script.resourceAnswer (w.recorders.get r) :=
  h.of_core r Script.resourceAnswer fun _ => rfl

end

/-! ### Providers -/

section

variable (h : w.Reads P w')
include h

theorem next : w'.recorders.next = w.recorders.next := by
  rw [Store.next, Store.next, h.size]

theorem className_eq (p : Provider) : p.className w' = p.className w := by
  cases p with
  | recorder r => exact h.className r
  | idle r => simp only [Provider.className, h.idles]

theorem shown_eq (p : Provider) : p.shown w' = p.shown w := by
  cases p with
  | recorder r => exact h.shown r
  | idle r => simp only [Provider.shown, h.idles]

theorem hasShutdown_eq (p : Provider) : p.hasShutdown w' = p.hasShutdown w := by
  cases p with
  | recorder r => rfl
  | idle r => simp only [Provider.hasShutdown, h.idles]

theorem idOf_eq (p : Provider) : w'.idOf p = w.idOf p := by
  rw [World.idOf, World.idOf, h.providerNames]

theorem exportAnswer_eq (p : Ref Pipeline) :
    Script.exportAnswer w' p = Script.exportAnswer w p := by
  simp only [Script.exportAnswer, h.pipelines, h.processors]

theorem providerAnswer_eq (p : Option Provider) :
    Script.providerAnswer w' p = Script.providerAnswer w p := by
  cases p with
  | none => rfl
  | some p => rw [Script.providerAnswer, Script.providerAnswer, h.idOf_eq, h.className_eq]

end

end Reads

/-- The parts of a world that have nothing to do with recorders, taken from another one. -/
def putting (w v : World) : World :=
  { w with
    pipelines := v.pipelines
    idles := v.idles
    installed := v.installed
    catalog := v.catalog
    exitHooks := v.exitHooks
    current := v.current
    names := { w.names with pipelines := v.names.pipelines, providers := v.names.providers } }

theorem Reads.putting_eq {P : Step → Prop} {w w' : World} (h : w.Reads P w') :
    w'.putting w = w' := by
  simp only [putting, ← h.pipelines, ← h.idles, ← h.installed, ← h.catalog, ← h.exitHooks,
    ← h.current, ← h.pipelineNames, ← h.providerNames]

end World

/-! ## Likeness -/

/-- Options that are given by arguments. -/
def Arguments.Gives (args : Arguments) (o : Options) : Prop :=
  match args with
  | none => o = {}
  | some args => Options.ofArguments args = .ok o

/-- Operations keep worlds related by `A`: the steps that satisfy `P`, with answers that `V` relates
and replies that `S` relates. Recorders may be made of options that `O` relates. -/
class Likens (P : outParam (Step → Prop)) (O : outParam (Options → Options → Prop))
    (V : outParam (Answer → Answer → Prop)) (S : outParam (List Reply → List Reply → Prop))
    (A : World → World → Prop) : Prop where
  reads : ∀ {w w'}, A w w' → w.Reads P w'
  put : ∀ {w w'} v, A w w' → A (w.putting v) (w'.putting v)
  processors : ∀ {w w'} (s : Store Processor), A w w' → (∀ q, (s.get q).role.HooksSatisfy P) →
    A { w with processors := s } { w' with processors := s }
  logged : ∀ {w w'} records, A w w' → A (w.logged records) (w'.logged records)
  entered : ∀ {w w'} e, A w w' → A (w.entered e) (w'.entered e)
  answered : ∀ {w w' replies replies'} number, A w w' → S replies replies' →
    A (w.entered (.answered number replies)) (w'.entered (.answered number replies'))
  bindTracer : ∀ {w w' : World} id t, A w w' →
    A { w with names := { w.names with tracers := Names.bind id t w.names.tracers } }
      { w' with names := { w'.names with tracers := Names.bind id t w'.names.tracers } }
  -- recorders
  recorder : ∀ {w w' f} r, A w w' → Recorder.Outer f → A (w.withRecorder r f) (w'.withRecorder r f)
  addRecorder : ∀ {w w' o o'} className sampler asked resource, A w w' → O o o' →
    A { w with recorders := w.recorders.add { className, options := o, sampler, asked, resource } }
      { w' with
        recorders := w'.recorders.add { className, options := o', sampler, asked, resource } }
  options : ∀ {o o'}, O o o' → o'.uncached = o.uncached ∧ o'.check = o.check
  -- steps
  newProvider : ∀ {id args specs sampler resource onExit o},
    P (.newProvider id args specs sampler resource onExit) → args.Gives o → O o o
  create : ∀ {id args o}, P (.create id args) → args.Gives o → O o o
  assign : ∀ {w w' id field v name} r, A w w' → P (.setOption id field v) →
    field.fieldName = .ok name →
    A (w.withRecorder r (·.assign name v)) (w'.withRecorder r (·.assign name v))
  ask : ∀ {w w' s request fault} r, A w w' → P s → (request, fault) ∈ s.asks →
    Together A Eq (Recorder.getTracer r request fault w) (Recorder.getTracer r request fault w')
  tracer : ∀ {w w' id name kind attributes body fault}, A w w' →
    P (.span id name kind attributes body fault) →
    w'.names.tracers.lookup id = w.names.tracers.lookup id
  -- answers and replies
  same : ∀ a, V a a
  stats : ∀ {w w'} r, A w w' →
    V (.stats (w.recorders.get r).stats) (.stats (w'.recorders.get r).stats)
  span : ∀ {body body'} recording sampled, Option.Rel S body body' →
    V (.span recording sampled body) (.span recording sampled body')
  nil : S [] []
  cons : ∀ {w w' : World} {a a' rest rest'} (isLogged : Bool), A w w' → V a a' → S rest rest' →
    S ((a, if isLogged then w.log else []) :: rest) ((a', if isLogged then w'.log else []) :: rest')
  silent : ∀ {w w' : World}, A w w' → A { w with log := [] } { w' with log := [] }
  relog : ∀ {v v' w w' : World}, A v v' → A w w' →
    A { v with log := w.log } { v' with log := w'.log }

section

variable {α β β' : Type} {P : Step → Prop} {O : Options → Options → Prop}
  {V : Answer → Answer → Prop} {S : List Reply → List Reply → Prop} {A : World → World → Prop}
  [likens : Likens P O V S A]
include likens

theorem read_agree {f : World → Act β} {g : World → Act β'} {U : β → β' → Prop}
    (h : ∀ w w', w.Reads P w' → Agree A U (f w) (g w')) : Agree A U (get >>= f) (get >>= g) :=
  Agree.get fun w w' hw => h w w' (likens.reads hw)

/-! ## Operations of all kinds -/

theorem say_steady (level : Level) (logger : String) (message : Wording) :
    Steady A (say level logger message) :=
  Steady.say (fun _ _ _ h => likens.logged _ h) level logger message

theorem note_steady (e : Event) : Steady A (note e) :=
  Agree.modify fun _ _ h => likens.entered e h

/-- The same is put in place of parts that have nothing to do with recorders. -/
theorem put_alike {w w' : World} (h : A w w') (f : World → World)
    (own : ∀ v w : World, v.putting (f w) = f (v.putting w) := by intro v w; rfl) :
    A (f w) (f w') := by
  have put := likens.put (f w) h
  rw [own, own, (likens.reads h).putting_eq] at put
  exact put

/-- A change of parts that have nothing to do with recorders. -/
theorem put_steady {g : World → α × World}
    (own : ∀ w, (g w).2 = w.putting (g w).2 := by intro w; rfl)
    (same : ∀ v w w' : World, w.Reads P w' →
      v.putting (g w').2 = v.putting (g w).2 ∧ (g w').1 = (g w).1 := by
      intro v w w' h
      simp only [World.putting, h.pipelines, h.idles, h.installed, h.catalog, h.exitHooks,
        h.current, h.pipelineNames, h.providerNames, and_self]) :
    Steady A (modifyGet g) := by
  refine Agree.modifyGet ?_
  intro w w' h
  obtain ⟨parts, value⟩ := same w' w w' (likens.reads h)
  rw [own w, own w', parts]
  exact ⟨likens.put _ h, value.symm⟩

theorem modifyPipeline_steady (p : Ref Pipeline) (f : Pipeline → Pipeline) :
    Steady A (modifyPipeline p f) :=
  put_steady

theorem addPipeline_steady (x : Pipeline) : Steady A (addPipeline x) :=
  put_steady

theorem addIdle_steady (x : Idle) : Steady A (addIdle x) :=
  put_steady

theorem catalog_steady (x : Cataloguing α) : Steady A (Act.catalog x) := by
  constructor
  intro w w' h
  have left : ∀ c log, A { w with catalog := c, log := w.log ++ log }
      { w' with catalog := c, log := w'.log ++ log } := fun c log =>
    likens.logged log (put_alike h fun v => { v with catalog := c })
  rw [Act.catalog, Act.catalog, (likens.reads h).catalog]
  cases x (w.catalog, []) with
  | ok a c => exact .ok (left _ _) rfl
  | error e c => exact .error e (left _ _)

/-! ## Processors -/

theorem modifyProcessor_steady (q : Ref Processor) {f : Processor → Processor}
    (hf : ∀ x : Processor, x.role.HooksSatisfy P → (f x).role.HooksSatisfy P) :
    Steady A (modifyProcessor q f) := by
  refine Agree.modify fun w w' h => ?_
  have reads := likens.reads h
  rw [reads.processors]
  refine likens.processors _ h fun t => ?_
  rcases w.processors.get_modify_eq_or q t f with ht | ⟨-, ht⟩
  · exact ht ▸ reads.hooks t
  · exact ht ▸ hf _ (reads.hooks t)

theorem addProcessor_steady {x : Processor} (hx : x.role.HooksSatisfy P) :
    Steady A (addProcessor x) := by
  refine Agree.modifyGet fun w w' h => ?_
  have reads := likens.reads h
  rw [reads.processors]
  refine ⟨likens.processors _ h fun q => ?_, rfl⟩
  by_cases hq : q = w.processors.next
  · subst hq
    rw [w.processors.get_add_self]
    exact hx
  · rw [w.processors.get_add_of_ne x hq]
    exact reads.hooks q

/-! ## Recorders -/

/-- A change that does not concern requests for tracers. -/
theorem modifyRecorder_steady (r : Ref Recorder) {f : Recorder → Recorder}
    (hf : Recorder.Outer f := by exact {}) : Steady A (modifyRecorder r f) :=
  Agree.modify fun _ _ h => likens.recorder r h hf

theorem addRecorder_agree {o o' : Options} (ho : O o o') (className : String) (sampler : Sampler)
    (asked : Option (List SpanRequest)) (resource : List (Value × Value)) :
    Match A (addRecorder { className, options := o, sampler, asked, resource })
      (addRecorder { className, options := o', sampler, asked, resource }) :=
  Agree.modifyGet fun _ _ h =>
    ⟨likens.addRecorder className sampler asked resource h ho, (likens.reads h).next.symm⟩

end

end Tracing
