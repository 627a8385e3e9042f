import Tracing.Proofs.Calls

/-!
# Tracing.Proofs.Shape

Which objects there are and how they are connected, as opposed to what they have gone through.

* `World.SameShape` — the same objects with the same connections, and the same catalog; flags that
  are set stay set and the journal is only written on.
* `World.SameStanding` — besides, nothing is closed, and only tracers and spans enter the journal.
* `World.SameHoldings` — besides, recorders keep the same tracers, counts of them and options.
* `startSpan_leads` — what the start of a span leads to, by what it consists of.
* `startSpan_holdings`, `endSpan_holdings` — spans leave what recorders keep as well.
-/

namespace Tracing

open Act

/-- Events of tracers and spans, which flushes and shutdowns have no part in. -/
def Event.isRoutine : Event → Bool
  | .called _ none (.onStart _ _) => true
  | .called _ none (.onEnd _ _) => true
  | .sought _ _ => true
  | .issued _ _ => true
  | .refused _ _ => true
  | .started _ _ => true
  | .ended _ _ => true
  | _ => false

/-- The key that an event says a recorder looks up. -/
def Event.keySought (r : Ref Recorder) : Event → Option TracerKey
  | .sought source key => if source = r then some key else none
  | _ => none

namespace World

/-- The keys that a recorder looked up so far, in order. -/
def sought (w : World) (r : Ref Recorder) : List TracerKey :=
  w.journal.filterMap (Event.keySought r)

structure SameShape (w w' : World) : Prop where
  telemetryOff : w'.telemetryOff = w.telemetryOff := by rfl
  names : w'.names = w.names := by rfl
  installed : w'.installed = w.installed := by rfl
  exitHooks : w'.exitHooks = w.exitHooks := by rfl
  catalog : w'.catalog = w.catalog := by rfl
  journal : w.journal <+: w'.journal := by simp
  processors : w'.processors.size = w.processors.size := by first | rfl | simp
  pipelines : w'.pipelines.size = w.pipelines.size := by first | rfl | simp
  recorders : w'.recorders.size = w.recorders.size := by first | rfl | simp
  role : ∀ q, (w'.processors.get q).role = (w.processors.get q).role := by intro q; rfl
  processor : ∀ p, (w'.pipelines.get p).processor = (w.pipelines.get p).processor := by
    intro p; rfl
  name : ∀ p, (w'.pipelines.get p).name = (w.pipelines.get p).name := by intro p; rfl
  shut : ∀ p, (w.pipelines.get p).closed = true → (w'.pipelines.get p).closed = true := by
    intro p h; exact h
  owned : ∀ r, (w'.recorders.get r).pipelines = (w.recorders.get r).pipelines := by intro r; rfl
  attached : ∀ r, (w'.recorders.get r).attached = (w.recorders.get r).attached := by
    intro r; rfl
  closed : ∀ r, (w.recorders.get r).closed = true → (w'.recorders.get r).closed = true := by
    intro r h; exact h
  issued : ∀ r, (w.recorders.get r).issued = true → (w'.recorders.get r).issued = true := by
    intro r h; exact h

namespace SameShape

theorem refl (w : World) : w.SameShape w := {}

theorem trans {w w' w'' : World} (h : w.SameShape w') (h' : w'.SameShape w'') :
    w.SameShape w'' where
  telemetryOff := h'.telemetryOff.trans h.telemetryOff
  names := h'.names.trans h.names
  installed := h'.installed.trans h.installed
  exitHooks := h'.exitHooks.trans h.exitHooks
  catalog := h'.catalog.trans h.catalog
  journal := h.journal.trans h'.journal
  processors := h'.processors.trans h.processors
  pipelines := h'.pipelines.trans h.pipelines
  recorders := h'.recorders.trans h.recorders
  role q := (h'.role q).trans (h.role q)
  processor p := (h'.processor p).trans (h.processor p)
  name p := (h'.name p).trans (h.name p)
  shut p hp := h'.shut p (h.shut p hp)
  owned r := (h'.owned r).trans (h.owned r)
  attached r := (h'.attached r).trans (h.attached r)
  closed r hr := h'.closed r (h.closed r hr)
  issued r hr := h'.issued r (h.issued r hr)

theorem onProcessor (w : World) (q : Ref Processor) {f : Processor → Processor}
    (h : (f (w.processors.get q)).role = (w.processors.get q).role) :
    w.SameShape { w with processors := w.processors.modify q f } where
  role t := by
    rcases w.processors.get_modify_eq_or q t f with ht | ⟨rfl, ht⟩
    · rw [ht]
    · rw [ht, h]

theorem onRecorder (w : World) (r : Ref Recorder) {f : Recorder → Recorder}
    (hp : ∀ x, (f x).pipelines = x.pipelines := by intro x; rfl)
    (ha : ∀ x, (f x).attached = x.attached := by intro x; rfl)
    (hc : ∀ x, x.closed = true → (f x).closed = true := by intro x h; exact h)
    (hi : ∀ x, x.issued = true → (f x).issued = true := by intro x h; exact h) :
    w.SameShape { w with recorders := w.recorders.modify r f } where
  owned t := w.recorders.map_get_modify (·.pipelines) r t hp
  attached t := w.recorders.map_get_modify (·.attached) r t ha
  closed t h := by
    rcases w.recorders.get_modify_eq_or r t f with ht | ⟨-, ht⟩
    · rwa [ht]
    · rw [ht]
      exact hc _ h
  issued t h := by
    rcases w.recorders.get_modify_eq_or r t f with ht | ⟨-, ht⟩
    · rwa [ht]
    · rw [ht]
      exact hi _ h

end SameShape

structure SameStanding (w w' : World) : Prop extends SameShape w w' where
  samePipelines : w'.pipelines = w.pipelines := by rfl
  sameClosed : ∀ r, (w'.recorders.get r).closed = (w.recorders.get r).closed := by intro r; rfl
  entries : ∃ events, w'.journal = w.journal ++ events ∧ ∀ e ∈ events, e.isRoutine = true :=
    by exact ⟨[], by simp⟩

namespace SameStanding

theorem refl (w : World) : w.SameStanding w := { toSameShape := .refl w }

theorem trans {w w' w'' : World} (h : w.SameStanding w') (h' : w'.SameStanding w'') :
    w.SameStanding w'' where
  toSameShape := h.toSameShape.trans h'.toSameShape
  samePipelines := h'.samePipelines.trans h.samePipelines
  sameClosed r := (h'.sameClosed r).trans (h.sameClosed r)
  entries := by
    obtain ⟨a, ha, hra⟩ := h.entries
    obtain ⟨b, hb, hrb⟩ := h'.entries
    refine ⟨a ++ b, by rw [hb, ha, List.append_assoc], fun e he => ?_⟩
    rcases List.mem_append.mp he with he | he
    · exact hra e he
    · exact hrb e he

instance : IsPreorder World SameStanding where
  refl := refl
  trans _ _ _ := trans

theorem onRecorder (w : World) (r : Ref Recorder) {f : Recorder → Recorder}
    (hp : ∀ x, (f x).pipelines = x.pipelines := by intro x; rfl)
    (ha : ∀ x, (f x).attached = x.attached := by intro x; rfl)
    (hc : ∀ x, (f x).closed = x.closed := by intro x; rfl)
    (hi : ∀ x, x.issued = true → (f x).issued = true := by intro x h; exact h) :
    w.SameStanding { w with recorders := w.recorders.modify r f } where
  toSameShape := .onRecorder w r hp ha (fun x h => (hc x).trans h) hi
  sameClosed t := w.recorders.map_get_modify (·.closed) r t hc

end SameStanding

structure SameHoldings (w w' : World) : Prop extends SameStanding w w' where
  tracers : ∀ r, (w'.recorders.get r).tracers = (w.recorders.get r).tracers := by intro r; rfl
  hits : ∀ r, (w'.recorders.get r).hits = (w.recorders.get r).hits := by intro r; rfl
  misses : ∀ r, (w'.recorders.get r).misses = (w.recorders.get r).misses := by intro r; rfl
  options : ∀ r, (w'.recorders.get r).options = (w.recorders.get r).options := by intro r; rfl
  sought : ∀ r, w'.sought r = w.sought r := by intro r; simp [World.sought, Event.keySought]

instance : IsPreorder World SameHoldings where
  refl w := { toSameStanding := .refl w }
  trans _ _ _ h h' :=
    { toSameStanding := h.toSameStanding.trans h'.toSameStanding
      tracers := fun r => (h'.tracers r).trans (h.tracers r)
      hits := fun r => (h'.hits r).trans (h.hits r)
      misses := fun r => (h'.misses r).trans (h.misses r)
      options := fun r => (h'.options r).trans (h.options r)
      sought := fun r => (h'.sought r).trans (h.sought r) }

end World

open World

/-! ## Spans -/

section

variable {w : World}

/-- What the start of a span of a recorder consists of; worlds may follow each other along `R` for
each part of it. -/
structure AllowsStart (R : World → World → Prop) (r : Ref Recorder) : Prop where
  journal : ∀ {w w'}, R w w' → w.journal <+: w'.journal
  /-- The sampler is asked. -/
  sampled : ∀ w f, (∀ x : Recorder, ∃ asked decisions, f x = { x with asked, decisions }) →
    R w { w with recorders := w.recorders.modify r f }
  started : ∀ w span, R w (w.entered (.started r span))
  delivered : ∀ w q span, R w (w.entered (.called q none (.onStart r span)))

section

variable {R : World → World → Prop} [IsPreorder World R] {r : Ref Recorder}

theorem sample_leads
    (allowed : ∀ w f, (∀ x : Recorder, ∃ asked decisions, f x = { x with asked, decisions }) →
      R w { w with recorders := w.recorders.modify r f })
    (request : SpanRequest) : Leads R Any (Recorder.sample r request) w := by
  have ofExcept : ∀ {α w'} (x : Except Failure α),
      Leads R Any (MonadExcept.ofExcept x : Act α) w' :=
    fun x => Leads.ofExcept fun _ _ => trivial
  have sampled : ∀ {w'} (f : Recorder → Recorder),
      (∀ x : Recorder, ∃ asked decisions, f x = { x with asked, decisions }) →
      Leads R Any (modifyRecorder r f) w' := fun f hf => Leads.modify (allowed _ f hf)
  have decided : ∀ {w'} (x : Except Failure Decision), Leads R Any (do
      modifyRecorder r fun x => { x with decisions := x.decisions + 1 }
      MonadExcept.ofExcept x : Act Decision) w' := fun x =>
    (sampled _ fun _ => ⟨_, _, rfl⟩).bind fun _ _ _ _ => ofExcept x
  refine Leads.get ?_
  dsimp only
  split
  · exact Leads.pure trivial
  · split
    · split
      · exact Leads.throw_bind
      · refine (ofExcept _).bind fun _ _ _ _ => ?_
        exact (sampled _ fun _ => ⟨_, _, rfl⟩).bind fun _ _ _ _ => decided _
    · exact decided _

theorem onStart_leads (h : AllowsStart R r) (span : Span) (qs : List (Ref Processor)) :
    Leads R Any (Delivery.onStart r span qs) w := by
  induction qs generalizing w with
  | nil => exact Leads.pure trivial
  | cons q rest ih =>
    have noted : Leads R Any (note (.called q none (.onStart r span))) w :=
      Leads.modify (h.delivered w q span)
    refine Leads.get ?_
    dsimp only
    split
    · exact Leads.throw
    · exact noted.bind fun _ _ _ _ => ih

/-- A span that is given is one that was entered as started. -/
theorem startSpan_leads (h : AllowsStart R r) (scope : Scope) (request : SpanRequest) :
    Leads R (fun started w' => ∀ span, started.1 = some span → .started r span ∈ w'.journal)
      (Recorder.startSpan r scope request) w := by
  refine (sample_leads h.sampled request).bind ?_
  intro decision w₁ _ _
  dsimp only
  split
  · exact Leads.pure nofun
  · refine (Leads.ofExcept (Q := Any) fun _ _ => trivial).bind fun attributes w₂ _ _ => Leads.get ?_
    generalize (Span.mk _ _ _ _ _ _ _) = span
    refine Leads.bind (Q := fun _ w' => .started r span ∈ w'.journal)
      (Leads.of_ok rfl (h.started w₂ span) (by simp)) fun _ w₃ _ started => ?_
    refine (onStart_leads h span _).bind fun _ w₄ h₄ _ => Leads.pure ?_
    rintro _ ⟨⟩
    exact (h.journal h₄).subset started

end

theorem entered_holdings (e : Event) (h : e.isRoutine = true) (hs : ∀ r, e.keySought r = none) :
    w.SameHoldings (w.entered e) where
  journal := by simp [World.entered]
  entries := ⟨[e], rfl, by simpa using h⟩
  sought r := by simp [World.sought, World.entered, hs r]

theorem sampled_holdings (r : Ref Recorder) {f : Recorder → Recorder}
    (h : ∀ x, ∃ asked decisions, f x = { x with asked, decisions }) :
    w.SameHoldings { w with recorders := w.recorders.modify r f } := by
  have keeps : ∀ {β : Type} (g : Recorder → β),
      (∀ x asked decisions, g { x with asked, decisions } = g x) → ∀ x, g (f x) = g x := by
    intro β g hg x
    obtain ⟨asked, decisions, hx⟩ := h x
    rw [hx, hg]
  have same : ∀ {β : Type} (g : Recorder → β) (t : Ref Recorder),
      (∀ x asked decisions, g { x with asked, decisions } = g x) →
      g ((w.recorders.modify r f).get t) = g (w.recorders.get t) := fun g t hg =>
    w.recorders.map_get_modify g r t (keeps g hg)
  refine
    { toSameStanding := .onRecorder w r ?_ ?_ ?_ ?_
      tracers := ?_, hits := ?_, misses := ?_, options := ?_ }
  · exact keeps (·.pipelines) fun _ _ _ => rfl
  · exact keeps (·.attached) fun _ _ _ => rfl
  · exact keeps (·.closed) fun _ _ _ => rfl
  · exact fun x hx => (keeps (·.issued) (fun _ _ _ => rfl) x).trans hx
  · exact fun t => same (·.tracers) t fun _ _ _ => rfl
  · exact fun t => same (·.hits) t fun _ _ _ => rfl
  · exact fun t => same (·.misses) t fun _ _ _ => rfl
  · exact fun t => same (·.options) t fun _ _ _ => rfl

theorem startSpan_holdings (r : Ref Recorder) (scope : Scope) (request : SpanRequest) :
    Leads SameHoldings Any (Recorder.startSpan r scope request) w := by
  have allows : AllowsStart SameHoldings r :=
    { journal := fun h => h.journal
      sampled := fun _ _ => sampled_holdings r
      started := fun _ _ => entered_holdings _ rfl fun _ => rfl
      delivered := fun _ _ _ => entered_holdings _ rfl fun _ => rfl }
  exact (startSpan_leads allows scope request).any

theorem onEnding_holdings (attached : List (Ref Processor)) :
    Leads SameHoldings Any (Delivery.onEnding attached) w := by
  induction attached generalizing w with
  | nil => exact Leads.pure trivial
  | cons q rest ih =>
    refine Leads.get ?_
    dsimp only
    split
    · exact Leads.throw
    · exact ih

theorem Processor.accept_role (x : Processor) (record : SpanRecord) :
    (x.accept record).role = x.role := by
  unfold Processor.accept
  split
  · rfl
  · split <;> rfl

theorem onEnd_holdings (r : Ref Recorder) (record : SpanRecord) (attached : List (Ref Processor)) :
    Leads SameHoldings Any (Delivery.onEnd r record attached) w := by
  induction attached generalizing w with
  | nil => exact Leads.pure trivial
  | cons q rest ih =>
    refine (Leads.modify (entered_holdings _ rfl fun _ => rfl)).bind ?_
    intro _ w' _ _
    have accepted : w'.SameShape
        { w' with processors := w'.processors.modify q (·.accept record) } :=
      .onProcessor w' q (Processor.accept_role _ record)
    exact (Leads.modify { toSameStanding := { toSameShape := accepted } }).bind fun _ _ _ _ => ih

theorem endSpan_holdings (r : Ref Recorder) (span : Span) (failed : Bool) :
    Leads SameHoldings Any (Recorder.endSpan r span failed) w := by
  refine Leads.get ((onEnding_holdings _).bind fun _ _ _ _ => ?_)
  exact (Leads.modify (entered_holdings _ rfl fun _ => rfl)).bind fun _ _ _ _ => onEnd_holdings ..

end

end Tracing
