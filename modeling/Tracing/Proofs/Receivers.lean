import Tracing.Proofs.Issuing

/-!
# Tracing.Proofs.Receivers

The spans of a recorder come to the processors of its pipelines.

* `due`                — the calls that pipelines are due by the entries of a journal: of a span
  that starts or ends, one for each time that a pipeline was attached before.
* `startSpan_ends`, `endSpan_delivers` — whom a span comes to as it starts and as it ends.
* `Change.brings`      — what one change brings to processors is due to their pipelines.
* `Reachable.spanCalls` — so it is of all that a world went through.
* `pipelines_receive_spans` — what receives spans is what is flushed.
-/

namespace Tracing

open Act World

/-! ## Calls that are due -/

/-- The call that is due by an entry: a span of the recorder `r` starts or ends. -/
def Event.spanCall? (r : Ref Recorder) : Event → Option Call
  | .started source span => if source = r then some (.onStart r span) else none
  | .ended source record => if source = r then some (.onEnd r record) else none
  | _ => none

/-- The calls for spans of the recorder `r` that pipelines are due by the entries of a journal. The
pipelines `ps` are attached before the first entry. -/
def due (r : Ref Recorder) : List (Ref Pipeline) → List Event → List (Ref Pipeline × Call)
  | _, [] => []
  | ps, e :: rest =>
    (e.spanCall? r).toList.flatMap (fun call => ps.map (·, call)) ++
      due r (ps ++ (e.pipelineAttached r).toList) rest

/-- The call for a span of the recorder `r` that an entry is about. -/
def Event.received? (r : Ref Recorder) : Event → Option (Ref Processor × Call)
  | .called q _ call => if call.source? = some r then some (q, call) else none
  | _ => none

/-- The entries of a call that processors receive one after the other. -/
def deliveries (call : Call) (qs : List (Ref Processor)) : List Event :=
  qs.map fun q => .called q none call

namespace World

/-- The calls for spans of the recorder `r` that processors received. -/
def spanCalls (w : World) (r : Ref Recorder) : List (Ref Processor × Call) :=
  w.journal.filterMap (Event.received? r)

/-- Who receives a call that a pipeline is due. -/
def receiver (w : World) (d : Ref Pipeline × Call) : Ref Processor × Call :=
  ((w.pipelines.get d.1).processor, d.2)

/-- No processor of the recorder lacks the methods that take spans. -/
def TakesSpans (w : World) (r : Ref Recorder) : Prop :=
  ∀ q ∈ w.processorsOf r, (w.processors.get q).role ≠ .bare

end World

section

variable {P : Step → Prop} {w w' v : World} {r : Ref Recorder} {ps : List (Ref Pipeline)}
  {events : List Event} {call : Call}

theorem due_append (r : Ref Recorder) (ps : List (Ref Pipeline)) (a b : List Event) :
    due r ps (a ++ b) = due r ps a ++ due r (ps ++ attachedIn r a) b := by
  induction a generalizing ps with
  | nil => simp [due, attachedIn]
  | cons e rest ih => simp [due, ih, attachedIn_cons]

theorem mem_due {d : Ref Pipeline × Call} (h : d ∈ due r ps events) :
    d.1 ∈ ps ++ attachedIn r events := by
  induction events generalizing ps with
  | nil => cases h
  | cons e rest ih =>
    rw [attachedIn_cons, ← List.append_assoc]
    rcases List.mem_append.mp h with h | h
    · obtain ⟨call, -, hd⟩ := List.mem_flatMap.mp h
      obtain ⟨p, hp, rfl⟩ := List.mem_map.mp hd
      simp [hp]
    · exact ih h

theorem due_nil (h : ∀ e ∈ events, e.spanCall? r = none) : due r ps events = [] := by
  induction events generalizing ps with
  | nil => rfl
  | cons e rest ih =>
    rw [due, h e List.mem_cons_self, ih fun e he => h e (List.mem_cons_of_mem _ he)]
    rfl

theorem deliveries_received (source : call.source? = some r) (qs : List (Ref Processor)) :
    (deliveries call qs).filterMap (Event.received? r) = qs.map (·, call) := by
  simp [deliveries, List.filterMap_map, Function.comp_def, Event.received?, source]

/-- What entries about spans of `r` bring to processors is due to the pipelines attached in `w`. -/
structure World.Brings (r : Ref Recorder) (w : World) (events : List Event) : Prop where
  received : events.filterMap (Event.received? r) =
    (due r (w.recorders.get r).pipelines events).map w.receiver
  attached : ∀ d ∈ due r (w.recorders.get r).pipelines events, d.1 ∈ (w.recorders.get r).pipelines

theorem World.Brings.nothing (received : ∀ e ∈ events, e.received? r = none)
    (undue : ∀ e ∈ events, e.spanCall? r = none) : w.Brings r events where
  received := by rw [List.filterMap_eq_nil_iff.mpr received, due_nil undue, List.map_nil]
  attached := by simp [due_nil undue]

/-- An entry by which the pipelines are due a call, and what their processors receive then. -/
theorem World.Brings.announced {e : Event} (announced : e.spanCall? r = some call)
    (source : call.source? = some r) :
    w.Brings r (e :: deliveries call (w.processorsOf r)) := by
  have unreceived : e.received? r = none := by
    cases e <;> first | rfl | simp [Event.spanCall?] at announced
  have settled : ∀ ps, due r ps (deliveries call (w.processorsOf r)) = [] := fun ps =>
    due_nil fun e he => by
      obtain ⟨q, -, rfl⟩ := List.mem_map.mp he
      rfl
  have dueNow : due r (w.recorders.get r).pipelines (e :: deliveries call (w.processorsOf r)) =
      (w.recorders.get r).pipelines.map (·, call) := by
    rw [due, settled, announced]
    simp
  exact
    { received := by
        rw [List.filterMap_cons_none unreceived, deliveries_received source, dueNow]
        simp [World.processorsOf, World.receiver]
      attached := by simp [dueNow] }

/-! ## The start of a span -/

namespace World

/-- What is heard of spans is the same, and so are those who hear of the spans of `r`. -/
structure SameAudience (r : Ref Recorder) (w w' : World) : Prop where
  journal : w'.journal = w.journal := by rfl
  processors : w'.processors = w.processors := by rfl
  attached : (w'.recorders.get r).attached = (w.recorders.get r).attached := by rfl

instance (r : Ref Recorder) : IsPreorder World (SameAudience r) where
  refl _ := {}
  trans _ _ _ h h' :=
    { journal := h'.journal.trans h.journal
      processors := h'.processors.trans h.processors
      attached := h'.attached.trans h.attached }

end World

theorem sample_audience (r : Ref Recorder) (request : SpanRequest) (w : World) :
    Leads (SameAudience r) Any (Recorder.sample r request) w :=
  sample_leads (fun w f changed =>
    { attached := w.recorders.map_get_modify (·.attached) r r fun x => by
        obtain ⟨asked, decisions, hx⟩ := changed x
        rw [hx] }) request

theorem onStart_run (span : Span) {qs : List (Ref Processor)}
    (methods : ∀ q ∈ qs, (w.processors.get q).role ≠ .bare) :
    Delivery.onStart r span qs w =
      .ok () { w with journal := w.journal ++ deliveries (.onStart r span) qs } := by
  induction qs generalizing w with
  | nil => simp [Delivery.onStart, deliveries]
  | cons q rest ih =>
    have first := methods q List.mem_cons_self
    have others : ∀ t ∈ rest,
        ((w.entered (.called q none (.onStart r span))).processors.get t).role ≠ .bare :=
      fun t ht => methods t (List.mem_cons_of_mem q ht)
    have later := ih others
    simp only [World.entered] at later
    simp [Delivery.onStart, run_bind, note, later, deliveries]

/-- A span that the sampler lets record starts on the processors attached. -/
theorem startSpan_records {scope : Scope} {request : SpanRequest} {decision : Decision}
    {attributes : List (Value × Value)} {w₁ : World}
    (sampled : Recorder.sample r request w = .ok decision w₁)
    (recording : decision.recording = true)
    (kept : spanAttributes decision.attributes = .ok attributes)
    (methods : ∀ q ∈ (w₁.recorders.get r).attached, (w₁.processors.get q).role ≠ .bare) :
    ∃ span context, Recorder.startSpan r scope request w = .ok (some span, context)
      { w₁ with
        journal := w₁.journal ++ [.started r span] ++
          deliveries (.onStart r span) (w₁.recorders.get r).attached } := by
  obtain ⟨span, hspan⟩ : ∃ span : Span, span =
      { name := request.name, kind := request.kind, attributes, scope
        parent := w₁.current.map (·.name), sampled := decision.sampled
        service := (w₁.recorders.get r).service } := ⟨_, rfl⟩
  have started : Delivery.onStart r span (w₁.recorders.get r).attached
      (w₁.entered (.started r span)) = .ok () _ := onStart_run span methods
  rw [World.entered] at started
  refine ⟨span, ⟨span.name, span.sampled⟩, ?_⟩
  simp only [Recorder.startSpan, run_bind, sampled, recording, Bool.not_true, Bool.false_eq_true,
    if_false, kept, run_ofExcept_ok, run_get, ← hspan, note, run_modify, started, run_pure]
  rw [hspan]

/-- How the start of a span of the recorder `r` ends if the processors `qs` receive its spans. -/
inductive StartEnds (r : Ref Recorder) (scope : Scope) (request : SpanRequest)
    (qs : List (Ref Processor)) (w : World) : Prop where
  | records (span : Span) (context : SpanContext) (w' : World)
      (run : Recorder.startSpan r scope request w = .ok (some span, context) w')
      (journal : w'.journal = w.journal ++ .started r span :: deliveries (.onStart r span) qs)
  /-- A span that does not record. -/
  | drops (context : SpanContext) (w' : World)
      (run : Recorder.startSpan r scope request w = .ok (none, context) w')
      (journal : w'.journal = w.journal)
  | fails (e : Failure) (w' : World) (run : Recorder.startSpan r scope request w = .error e w')
      (journal : w'.journal = w.journal)

theorem startSpan_ends (scope : Scope) (request : SpanRequest)
    (methods : ∀ q ∈ (w.recorders.get r).attached, (w.processors.get q).role ≠ .bare) :
    StartEnds r scope request (w.recorders.get r).attached w := by
  have audience := sample_audience r request w
  cases sampled : Recorder.sample r request w with
  | error e w₁ =>
    rw [Leads, sampled] at audience
    exact .fails e w₁ (by simp [Recorder.startSpan, run_bind, sampled]) audience.journal
  | ok decision w₁ =>
    obtain ⟨same, -⟩ := audience.of_eq sampled
    cases recording : decision.recording with
    | false =>
      refine .drops ⟨request.name, false⟩ w₁ ?_ same.journal
      simp [Recorder.startSpan, run_bind, sampled, recording]
    | true =>
      cases kept : spanAttributes decision.attributes with
      | error e =>
        refine .fails e w₁ ?_ same.journal
        simp [Recorder.startSpan, run_bind, sampled, recording, kept]
      | ok attributes =>
        rw [← same.attached, ← same.processors] at methods
        obtain ⟨span, context, run⟩ := startSpan_records sampled recording kept methods
        exact .records span context _ run (by simp [same.journal, same.attached])

theorem endSpan_delivers (span : Span) (failed : Bool)
    (methods : ∀ q ∈ (w.recorders.get r).attached, (w.processors.get q).role ≠ .bare) :
    ∃ w', Recorder.endSpan r span failed w = .ok () w' ∧
      w'.journal = w.journal ++ .ended r ⟨span, failed⟩ ::
        deliveries (.onEnd r ⟨span, failed⟩) (w.recorders.get r).attached := by
  rcases endSpan_run r span failed w with hrun | ⟨q, hq, e, bare, -⟩
  · refine ⟨_, hrun, ?_⟩
    rw [delivered_journal]
    simp [World.entered, deliveries]
  · exact absurd bare (methods q hq)

/-! ## What changes bring to processors -/

/-- What is entered is about spans of other recorders. -/
theorem World.SpansOnly.brings {S : Ref Recorder → Prop} (h : SpansOnly S w w') (other : ¬ S r) :
    ∃ events, w'.journal = w.journal ++ events ∧ w.Brings r events := by
  obtain ⟨events, hj, spans⟩ := h
  have elsewhere : ∀ e ∈ events, e.spanSource? ≠ some r := fun e he hr => other (spans e he r hr)
  refine ⟨events, hj, .nothing (fun e he => ?_) fun e he => ?_⟩
  · have hs := elsewhere e he
    cases e <;> simp_all [Event.received?, Event.spanSource?]
  · have hs := elsewhere e he
    cases e <;> simp_all [Event.spanCall?, Event.spanSource?]

theorem StartEnds.brings {scope : Scope} {request : SpanRequest}
    (h : StartEnds r scope request (w.processorsOf r) w) :
    ∃ events, ((Recorder.startSpan r scope request).after w).journal = w.journal ++ events ∧
      w.Brings r events := by
  have none : w.Brings r [] := .nothing nofun nofun
  cases h with
  | records span context w' run journal =>
    rw [after_of_ok run]
    exact ⟨_, journal, .announced (by simp [Event.spanCall?]) rfl⟩
  | drops context w' run journal =>
    rw [after_of_ok run]
    exact ⟨[], by rw [journal, List.append_nil], none⟩
  | fails e w' run journal =>
    rw [after_of_error run]
    exact ⟨[], by rw [journal, List.append_nil], none⟩

/-- What a change brings to processors is due to the pipelines attached before it. -/
theorem Change.brings (h : Change P w w') (attaches : w.Attaches) (methods : w.TakesSpans r) :
    ∃ events, w'.journal = w.journal ++ events ∧ w.Brings r events := by
  rcases h.spans_or with none | ⟨t, -, spans⟩
  · exact none.brings id
  · by_cases ht : r = t
    · subst ht
      rw [World.TakesSpans, ← attaches r] at methods
      rcases spans with ⟨scope, request, rfl⟩ | ⟨span, failed, rfl⟩
      · exact StartEnds.brings (attaches r ▸ startSpan_ends scope request methods)
      · obtain ⟨w', run, journal⟩ := endSpan_delivers span failed methods
        rw [attaches r] at journal
        rw [after_of_ok run]
        exact ⟨_, journal, .announced (by simp [Event.spanCall?]) rfl⟩
    · rcases spans with ⟨scope, request, rfl⟩ | ⟨span, failed, rfl⟩
      · exact (startSpan_spansOnly t scope request w).brings ht
      · exact (endSpan_spansOnly t span failed w).brings ht

/-- Processors keep the methods that they have. -/
theorem World.TakesSpans.before (h : w'.TakesSpans r) (hw : w.InOrder P) (later : w.Extends w') :
    w.TakesSpans r := by
  by_cases hr : w.recorders.Has r
  · intro q hq
    obtain ⟨p, hp, rfl⟩ := List.mem_map.mp hq
    rw [← later.role _ (hw.wraps p (hw.owns r p hp))]
    exact h _ ((later.processorsOf hw hr).subset hq)
  · intro q hq
    rw [World.processorsOf, Store.get_of_not_has hr] at hq
    cases hq

/-- Processors have received all that was due to the pipelines of a recorder, in this order, and
nothing else of its spans. -/
theorem Reachable.spanCalls (hw : Reachable P w) (methods : w.TakesSpans r) :
    w.spanCalls r = (due r [] w.journal).map w.receiver := by
  revert methods
  refine hw.invariant (I := fun w => w.TakesSpans r →
    w.spanCalls r = (due r [] w.journal).map w.receiver) (fun _ _ => rfl) ?_
  intro v v' hv change ih methods
  have earlier := methods.before hv.inOrder change.extends
  obtain ⟨events, hj, brings⟩ := change.brings hv.attaches earlier
  have owned := hv.recounts.pipelines r
  have total : due r [] v'.journal =
      due r [] v.journal ++ due r (v.recorders.get r).pipelines events := by
    rw [hj, due_append, List.nil_append, owned]
  have received : v'.spanCalls r = (due r [] v'.journal).map v.receiver := by
    rw [total, List.map_append, ← ih earlier, ← brings.received, World.spanCalls, hj,
      List.filterMap_append, World.spanCalls]
  rw [received]
  refine List.map_congr_left fun d hd => ?_
  have attached : d.1 ∈ (v.recorders.get r).pipelines := by
    rw [total] at hd
    rcases List.mem_append.mp hd with hd | hd
    · rw [owned]
      simpa using mem_due hd
    · exact brings.attached d hd
  have same := change.extends.processor d.1 (hv.inOrder.owns r d.1 attached)
  rw [World.receiver, World.receiver, same]

/-! ## Pipelines and receivers -/

/-- A processor that is added stands last, as a pipeline and among those that receive spans. The
recorder may be closed, and the record of it may fail. -/
theorem addSpanProcessor_last (has : w.recorders.Has r) (q : Ref Processor) (name : Value) :
    ∃ w', (Recorder.addSpanProcessor r q name w =
        match (Pipeline.nameOr name (w.processors.get q).className).unwritten? with
        | none => .ok w.pipelines.next w'
        | some e => .error e w') ∧
      (w'.pipelines.get w.pipelines.next).processor = q ∧
      (w'.recorders.get r).pipelines = (w.recorders.get r).pipelines ++ [w.pipelines.next] ∧
      (w'.recorders.get r).attached = (w.recorders.get r).attached ++ [q] := by
  have added := fun x => w.pipelines.get_add_self x
  have self := fun f => w.recorders.get_modify_self f has
  have attached (x : Pipeline) : addPipeline x w = .ok w.pipelines.next
      { w with pipelines := w.pipelines.add x } := rfl
  cases hu : (Pipeline.nameOr name (w.processors.get q).className).unwritten? <;>
    refine ⟨_, by
      simp only [Recorder.addSpanProcessor, Recorder.attach, note, modifyRecorder, run_bind, run_get,
        run_modify, run_pure, attached, run_say, Wording.fault?_append, Value.wording, hu]
      rfl, ?_⟩ <;>
    simp [added, self]

/-- The processors of the pipelines of the recorder `r` are those that receive its spans. -/
structure ReceivesSpans (P : Step → Prop) (r : Ref Recorder) (w : World) : Prop where
  /-- As often and in the same order. -/
  attached : (w.recorders.get r).attached = w.processorsOf r
  registered : (w.recorders.get r).pipelines = attachedIn r w.journal
  /-- Pipelines only join, and only at the end, whatever is done. -/
  grow : ∀ v, Changes P w v →
    (w.recorders.get r).pipelines <+: (v.recorders.get r).pipelines ∧
      (w.recorders.get r).attached <+: (v.recorders.get r).attached
  /-- A recorder that has just been made has the pipelines of its plan. -/
  made : ∀ plan w₀, Recorder.make plan w₀ = .ok r w →
    ∃ w₁, plan.build w₀ = .ok (w.recorders.get r).pipelines w₁
  added : w.recorders.Has r → ∀ q name, ∃ w',
    (Recorder.addSpanProcessor r q name w =
        match (Pipeline.nameOr name (w.processors.get q).className).unwritten? with
        | none => .ok w.pipelines.next w'
        | some e => .error e w') ∧
      (w'.pipelines.get w.pipelines.next).processor = q ∧
      (w'.recorders.get r).pipelines = (w.recorders.get r).pipelines ++ [w.pipelines.next] ∧
      (w'.recorders.get r).attached = (w.recorders.get r).attached ++ [q]
  /-- A span that records starts on the processors of the pipelines that there are then. -/
  starts : w.TakesSpans r → ∀ scope request, StartEnds r scope request (w.processorsOf r) w
  ends : w.TakesSpans r → ∀ span failed, ∃ w', Recorder.endSpan r span failed w = .ok () w' ∧
    w'.journal = w.journal ++ .ended r ⟨span, failed⟩ ::
      deliveries (.onEnd r ⟨span, failed⟩) (w.processorsOf r)
  /-- So it was with all spans until now. -/
  received : w.TakesSpans r → w.spanCalls r = (due r [] w.journal).map w.receiver

theorem pipelines_receive_spans (hw : Reachable P w) (r : Ref Recorder) : ReceivesSpans P r w where
  attached := hw.attaches r
  registered := hw.recounts.pipelines r
  grow v later := by
    rw [hw.attaches r, (hw.changes later).attaches r]
    by_cases hr : w.recorders.Has r
    · exact ⟨later.extends.owned r hr, later.extends.processorsOf hw.inOrder hr⟩
    · rw [World.processorsOf, Store.get_of_not_has hr]
      exact ⟨List.nil_prefix, List.nil_prefix⟩
  made plan w₀ made := by
    obtain ⟨resource, ps, processors, pipelines, log, -, build, rfl, rfl⟩ := make_ok made
    have self := plan.carriedOut_get resource ps { w₀ with processors, pipelines, log }
    exact ⟨_, build.trans (by rw [self]; rfl)⟩
  added has := addSpanProcessor_last has
  starts methods scope request := by
    rw [World.TakesSpans, ← hw.attaches r] at methods
    rw [← hw.attaches r]
    exact startSpan_ends scope request methods
  ends methods span failed := by
    rw [World.TakesSpans, ← hw.attaches r] at methods
    rw [← hw.attaches r]
    exact endSpan_delivers span failed methods
  received := hw.spanCalls

end

/-! ## Pipelines that join while spans are open -/

instance (role : Role) : Decidable (role = .bare) :=
  match role with
  | .bare => isTrue rfl
  | .scripted _ => isFalse nofun
  | .simple => isFalse nofun
  | .batch => isFalse nofun
  | .base => isFalse nofun

instance (w : World) (r : Ref Recorder) : Decidable (w.TakesSpans r) :=
  inferInstanceAs (Decidable (∀ q ∈ w.processorsOf r, ¬ _ = _))

/-- A pipeline is given twice. Its processor joins once more in a flush inside a span, and another
one after a shutdown inside a span. -/
def growingProgram : List Step :=
  [.newPipeline "x" (.str "x") (.scripted {}),
    .newProvider "p" none
      (some [.known "x",
        .make "a" (.str "a") (.scripted
          { onFlush := [[.addProcessor "p" "b" (.str "b") (.shared "x")]] }),
        .known "x"]) none none false,
    .getTracer "p" (some "t") (.identity { name := .str "lib" }) none,
    .span "t" (.str "outer") (.str "INTERNAL") .null
      (some [.forceFlush "p", .span "t" (.str "inner") (.str "INTERNAL") .null none none]) none,
    .span "t" (.str "last") (.str "INTERNAL") .null
      (some [.shutdown "p", .addProcessor "p" "c" (.str "c") .base]) none]

def growingWorld : World := (Script.run growingProgram {}).2

theorem growing_pipelines_receive_spans :
    ReceivesSpans (fun _ => True) ⟨0⟩ growingWorld ∧ growingWorld.TakesSpans ⟨0⟩ ∧
      (growingWorld.recorders.get ⟨0⟩).pipelines = [⟨0⟩, ⟨1⟩, ⟨0⟩, ⟨2⟩, ⟨3⟩] ∧
      growingWorld.processorsOf ⟨0⟩ = [⟨0⟩, ⟨1⟩, ⟨0⟩, ⟨0⟩, ⟨2⟩] ∧
      (growingWorld.spanCalls ⟨0⟩).map (·.1) =
        [⟨0⟩, ⟨1⟩, ⟨0⟩] ++ [⟨0⟩, ⟨1⟩, ⟨0⟩, ⟨0⟩] ++ [⟨0⟩, ⟨1⟩, ⟨0⟩, ⟨0⟩] ++ [⟨0⟩, ⟨1⟩, ⟨0⟩, ⟨0⟩] ++
          [⟨0⟩, ⟨1⟩, ⟨0⟩, ⟨0⟩] ++ [⟨0⟩, ⟨1⟩, ⟨0⟩, ⟨0⟩, ⟨2⟩] := by
  have reachable : Reachable (fun _ => True) growingWorld := Script.run_reachable_any _
  exact ⟨pipelines_receive_spans reachable ⟨0⟩, by decide +kernel, by decide +kernel,
    by decide +kernel, by decide +kernel⟩

end Tracing
