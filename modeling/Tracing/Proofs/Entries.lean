import Tracing.Proofs.Order

/-!
# Tracing.Proofs.Entries

What the journal tells of the spans of recorders.

* `World.Enters`      — what one change enters: spans start on open recorders, end once started, and
  come to the processors attached when they end. `Change.enters` — every change enters such entries.
* `World.EntersSince` — the same of any number of changes; `Changes.entersSince`.
* `Reachable.attaches` — a recorder delivers spans to the processors of its pipelines.
* `Reachable.begun_split` — no span of a recorder starts once its first shutdown has begun.
-/

namespace Tracing

open Act

/-- Entries of spans and tracers, and those between which a shutdown runs. -/
def Event.isOfSpans : Event → Bool
  | .called _ _ (.onStart _ _) => true
  | .called _ _ (.onEnd _ _) => true
  | .sought _ _ => true
  | .issued _ _ => true
  | .refused _ _ => true
  | .started _ _ => true
  | .ended _ _ => true
  | .shuttingDown _ _ => true
  | .shutDown _ => true
  | _ => false

theorem Event.isOfOpen_source {r t : Ref Recorder} {e : Event} (h : e.isOfOpen r = true)
    (h' : e.isOfOpen t = true) : r = t := by
  cases e with
  | called q via call =>
    cases call <;> simp [isOfOpen] at h h'
    rw [← h, ← h']
  | _ =>
    simp [isOfOpen] at h h'
    try rw [← h, ← h']

namespace World

/-- What a change enters into the journal, as far as it is about spans. -/
structure Enters (w w' : World) (events : List Event) : Prop where
  journal : w'.journal = w.journal ++ events
  ofOpen : ∀ r, ∀ e ∈ events, e.isOfOpen r = true → (w.recorders.get r).closed = false
  started : ∀ r record, .ended r record ∈ events → .started r record.span ∈ w.journal
  reaches : ∀ r record, .ended r record ∈ events → ∀ q ∈ (w.recorders.get r).attached,
    .called q none (.onEnd r record) ∈ events
  ended : ∀ q via r record, .called q via (.onEnd r record) ∈ events → .ended r record ∈ events
  begun : ∀ r ps, .shuttingDown r ps ∈ events → events = [.shuttingDown r ps] ∧
    w'.recorders.Has r ∧ (w'.recorders.get r).closed = true
  complete : ∀ r, .shutDown r ∈ events → events = [.shutDown r]

namespace Enters

variable {w w' : World} {events : List Event}

theorem of_others (hj : w'.journal = w.journal ++ events)
    (h : ∀ e ∈ events, e.isOfSpans = false) : Enters w w' events where
  journal := hj
  ofOpen r e he ho := by
    have hn := h e he
    cases e with
    | called q via call => cases call <;> simp [Event.isOfOpen, Event.isOfSpans] at ho hn
    | _ => simp [Event.isOfOpen, Event.isOfSpans] at ho hn
  started r record he := by cases h _ he
  reaches r record he := by cases h _ he
  ended q via r record he := by cases h _ he
  begun r ps he := by cases h _ he
  complete r he := by cases h _ he

theorem of_serves {r : Ref Recorder} (h : Serves r w w')
    (hc : (w.recorders.get r).closed = true → w'.journal = w.journal) :
    ∃ events, Enters w w' events := by
  obtain ⟨events, hj, ho⟩ := h.entries
  refine ⟨events, ?_⟩
  exact
    { journal := hj
      ofOpen := fun t e he ht => by
        obtain rfl := Event.isOfOpen_source (ho e he) ht
        cases hclosed : (w.recorders.get r).closed with
        | false => rfl
        | true =>
          rw [hc hclosed] at hj
          rw [List.self_eq_append_right.mp hj] at he
          cases he
      started := fun t record he => by cases ho _ he
      reaches := fun t record he => by cases ho _ he
      ended := fun q via t record he => by cases ho _ he
      begun := fun t ps he => by cases ho _ he
      complete := fun t he => by cases ho _ he }

theorem endSpan {r : Ref Recorder} {span : Span} (failed : Bool)
    (started : .started r span ∈ w.journal) :
    ∃ events, Enters w ((Recorder.endSpan r span failed).after w) events := by
  rcases endSpan_run r span failed w with hrun | ⟨q, hq, e, bare, hrun⟩
  · rw [after_of_ok hrun]
    generalize hrec : SpanRecord.mk span failed = record
    refine ⟨.ended r record :: (w.recorders.get r).attached.map
      fun q => .called q none (.onEnd r record), ?_⟩
    have same : ∀ {t record'}, .ended t record' ∈ Event.ended r record ::
        (w.recorders.get r).attached.map (fun q => .called q none (.onEnd r record)) →
        t = r ∧ record' = record := by simp
    exact
      { journal := by
          rw [delivered_journal]
          simp [World.entered]
        ofOpen := by simp [Event.isOfOpen]
        started := fun t record' he => by
          obtain ⟨rfl, rfl⟩ := same he
          rw [← hrec]
          exact started
        reaches := fun t record' he q hq => by
          obtain ⟨rfl, rfl⟩ := same he
          exact List.mem_cons_of_mem _ (List.mem_map_of_mem hq)
        ended := fun q via t record' he => by
          simp only [List.mem_cons, List.mem_map, reduceCtorEq, false_or] at he
          obtain ⟨_, -, ⟨⟩⟩ := he
          exact List.mem_cons_self
        begun := by simp
        complete := by simp }
  · rw [after_of_error hrun]
    exact ⟨[], .of_others (List.append_nil _).symm (by simp)⟩

end Enters

end World

section

variable {P : Step → Prop} {w w' v : World} {r : Ref Recorder}

theorem Change.enters (h : Change P w w') : ∃ events, World.Enters w w' events := by
  have silent : w'.journal = w.journal → ∃ events, World.Enters w w' events := fun hj =>
    ⟨[], .of_others (by simpa using hj) (by simp)⟩
  have single : ∀ e : Event, w'.journal = w.journal ++ [e] → e.isOfSpans = false →
      ∃ events, World.Enters w w' events := fun e hj he =>
    ⟨[e], .of_others hj (by simpa using he)⟩
  cases h with
  | aside => exact silent rfl
  | name => exact silent rfl
  | addProcessor => exact silent rfl
  | addPipeline => exact silent rfl
  | addRecorder => exact silent rfl
  | attach r p => exact single _ rfl rfl
  | addHook => exact silent rfl
  | takeHook => exact silent rfl
  | ask _ _ r request fault =>
    refine World.Enters.of_serves (getTracer_serves r request fault w) ?_
    intro hc
    obtain ⟨failures, log, hrun⟩ := getTracer_closed hc request fault
    rw [after_of_ok hrun]
    rfl
  | assign => exact silent rfl
  | startSpan r scope request =>
    refine World.Enters.of_serves (startSpan_serves r scope request w).after ?_
    intro hc
    rw [after_of_ok (startSpan_closed hc scope request)]
  | endSpan r span failed _ started => exact World.Enters.endSpan failed started
  | flush p timeout => exact single _ rfl rfl
  | close p => exact single _ rfl rfl
  | stop q => exact single _ rfl rfl
  | answer => exact single _ rfl rfl
  | shuttingDown r isOpen =>
    have has := Recorder.has_of_open isOpen
    refine ⟨[.shuttingDown r (w.recorders.get r).pipelines], ?_⟩
    exact
      { journal := rfl
        ofOpen := by simp [Event.isOfOpen]
        started := by simp
        reaches := by simp
        ended := by simp
        begun := fun t ps he => by
          obtain ⟨⟩ := List.mem_singleton.mp he
          exact ⟨rfl, (shuttingDown_shape r).extends.hasRecorder has,
            shuttingDown_closed has⟩
        complete := by simp }
  | shutDown r =>
    refine ⟨[.shutDown r], ?_⟩
    exact
      { journal := rfl
        ofOpen := by simp [Event.isOfOpen]
        started := by simp
        reaches := by simp
        ended := by simp
        begun := by simp
        complete := fun t he => by
          obtain ⟨⟩ := List.mem_singleton.mp he
          rfl }
  | install p => exact single _ rfl rfl

/-! ## Reachable worlds -/

/-- An entry of a journal that grew stands in the old part, or in what was added. -/
theorem append_eq_split {α : Type} {old new before after : List α} {a : α}
    (h : old ++ new = before ++ a :: after) :
    (∃ rest, old = before ++ a :: rest ∧ after = rest ++ new) ∨
      ∃ rest, before = old ++ rest ∧ new = rest ++ a :: after := by
  rcases List.append_eq_append_iff.mp h with ⟨rest, hbefore, hnew⟩ | ⟨rest, hold, hafter⟩
  · exact .inr ⟨rest, hbefore, hnew⟩
  · cases rest with
    | nil => exact .inr ⟨[], by simpa using hold.symm, hafter.symm⟩
    | cons b rest =>
      obtain ⟨rfl, rfl⟩ := List.cons.inj hafter
      exact .inl ⟨rest, hold, rfl⟩

/-- The beginning of the first shutdown closes a recorder. -/
theorem Reachable.closed_of_begun (hw : Reachable P w) {ps : List (Ref Pipeline)}
    (h : .shuttingDown r ps ∈ w.journal) : w.recorders.Has r ∧ (w.recorders.get r).closed = true := by
  revert h
  refine hw.invariant (I := fun w => .shuttingDown r ps ∈ w.journal →
    w.recorders.Has r ∧ (w.recorders.get r).closed = true) nofun ?_
  intro v v' _ change ih h
  obtain ⟨events, entered⟩ := change.enters
  rw [entered.journal] at h
  rcases List.mem_append.mp h with h | h
  · obtain ⟨has, closed⟩ := ih h
    exact ⟨change.extends.hasRecorder has, change.extends.closed r has closed⟩
  · exact (entered.begun r ps h).2

/-- Once the first shutdown of a recorder has begun, it starts no span and looks up no tracer. -/
theorem Reachable.begun_split (hw : Reachable P w) {before after : List Event}
    {ps : List (Ref Pipeline)} (h : w.journal = before ++ .shuttingDown r ps :: after) :
    ∀ e ∈ after, e.isOfOpen r = false := by
  revert before after
  refine hw.invariant (I := fun w => ∀ {before after},
    w.journal = before ++ .shuttingDown r ps :: after → ∀ e ∈ after, e.isOfOpen r = false)
    (by simp) ?_
  intro v v' hv change ih before after h
  obtain ⟨events, entered⟩ := change.enters
  rw [entered.journal] at h
  rcases append_eq_split h with ⟨rest, hv', rfl⟩ | ⟨rest, -, hevents⟩
  · intro e he
    rcases List.mem_append.mp he with he | he
    · exact ih hv' e he
    · have begun : .shuttingDown r ps ∈ v.journal := by simp [hv']
      have closed := (hv.closed_of_begun begun).2
      cases ho : e.isOfOpen r with
      | false => rfl
      | true =>
        rw [entered.ofOpen r e he ho] at closed
        cases closed
  · have begun : .shuttingDown r ps ∈ events := by simp [hevents]
    have alone := congrArg List.length (entered.begun r ps begun).1
    rw [hevents] at alone
    have hnil : after = [] := List.eq_nil_of_length_eq_zero (by simp at alone; omega)
    simp [hnil]

/-- A first shutdown that is complete was so in an earlier world. -/
theorem Reachable.complete_split (hv : Reachable P v) {earlier events : List Event}
    (h : v.journal = earlier ++ .shutDown r :: events) :
    ∃ w, Reachable P w ∧ Changes P w v ∧ w.journal = earlier ++ [.shutDown r] := by
  revert earlier events
  refine hv.invariant (I := fun v => ∀ {earlier events},
    v.journal = earlier ++ .shutDown r :: events →
    ∃ w, Reachable P w ∧ Changes P w v ∧ w.journal = earlier ++ [.shutDown r]) (by simp) ?_
  intro v v' hv change ih earlier events h
  obtain ⟨added, entered⟩ := change.enters
  rw [entered.journal] at h
  rcases append_eq_split h with ⟨rest, hj, -⟩ | ⟨rest, rfl, hadded⟩
  · obtain ⟨w, hw, hc, hw'⟩ := ih hj
    exact ⟨w, hw, hc.tail change, hw'⟩
  · have complete : .shutDown r ∈ added := by simp [hadded]
    have alone := entered.complete r complete
    rw [alone] at hadded
    obtain ⟨rfl, -⟩ := List.singleton_eq_append_iff.mp hadded |>.resolve_right (by simp)
    exact ⟨v', hv.changes (.single change), .refl, by rw [entered.journal, alone, List.append_nil]⟩

/-- A span that ended had started. -/
theorem Reachable.started_of_ended (hw : Reachable P w) {record : SpanRecord}
    (h : .ended r record ∈ w.journal) : .started r record.span ∈ w.journal := by
  revert h
  refine hw.invariant (I := fun w => .ended r record ∈ w.journal →
    .started r record.span ∈ w.journal) nofun ?_
  intro v v' _ change ih h
  obtain ⟨events, entered⟩ := change.enters
  rw [entered.journal] at h ⊢
  rcases List.mem_append.mp h with h | h
  · exact List.mem_append_left _ (ih h)
  · exact List.mem_append_left _ (entered.started r record h)

/-! ## Attached processors -/

namespace World

/-- The processors of the pipelines of a recorder. -/
def processorsOf (w : World) (r : Ref Recorder) : List (Ref Processor) :=
  (w.recorders.get r).pipelines.map fun p => (w.pipelines.get p).processor

/-- Recorders deliver spans to the processors of their pipelines. -/
def Attaches (w : World) : Prop := ∀ r, (w.recorders.get r).attached = w.processorsOf r

theorem SameShape.processorsOf (h : w.SameShape w') (r : Ref Recorder) :
    w'.processorsOf r = w.processorsOf r := by
  rw [World.processorsOf, h.owned, World.processorsOf]
  exact List.map_congr_left fun p _ => h.processor p

theorem Attaches.of_shape (hw : w.Attaches) (h : w.SameShape w') : w'.Attaches := by
  intro r
  rw [h.attached, h.processorsOf]
  exact hw r

/-- The processors attached stay attached, in their order. -/
theorem Extends.processorsOf (h : w.Extends w') (hw : w.InOrder P) (hr : w.recorders.Has r) :
    w.processorsOf r <+: w'.processorsOf r := by
  have same : w.processorsOf r =
      (w.recorders.get r).pipelines.map fun p => (w'.pipelines.get p).processor :=
    List.map_congr_left fun p hp => (h.processor p (hw.owns r p hp)).symm
  rw [same]
  exact (h.owned r hr).map _

end World

theorem Change.attaches (h : Change P w w') (hw : w.InOrder P) (ha : w.Attaches) :
    w'.Attaches := by
  cases h with
  | aside => exact ha
  | name => exact ha
  | addProcessor => exact ha
  | addPipeline q name =>
    intro r
    have same : ∀ p ∈ (w.recorders.get r).pipelines,
        ((w.pipelines.add { processor := q, name }).get p).processor =
          (w.pipelines.get p).processor := fun p hp => by
      rw [w.pipelines.get_add_of_lt _ (hw.owns r p hp)]
    exact (ha r).trans (List.map_congr_left fun p hp => (same p hp).symm)
  | addRecorder className options sampler asked resource =>
    intro r
    by_cases hr : r = w.recorders.next
    · subst hr
      simp [World.processorsOf, w.recorders.get_add_self]
    · simp only [World.processorsOf, w.recorders.get_add_of_ne _ hr]
      exact ha r
  | attach r p has =>
    intro t
    by_cases ht : t = r
    · subst ht
      have hget : (w.attachedTo t p).recorders.get t = _ := w.recorders.get_modify_self _ has
      rw [World.processorsOf, hget]
      simp only [Recorder.attaching, List.map_append, ha t]
      rfl
    · have hget : (w.attachedTo r p).recorders.get t = _ := w.recorders.get_modify_ne _ ht
      rw [World.processorsOf, hget]
      exact ha t
  | addHook => exact ha
  | takeHook => exact ha
  | ask _ _ r request fault => exact ha.of_shape (ask_after r request fault).toSameShape
  | assign _ field v _ r => exact ha.of_shape (assign_standing r field v).toSameShape
  | startSpan r scope request => exact ha.of_shape (startSpan_after r scope request).toSameShape
  | endSpan r span failed => exact ha.of_shape (endSpan_after r span failed).toSameShape
  | flush p timeout => exact ha.of_shape (flushBegun_shape p timeout)
  | close p => exact ha.of_shape (closeBegun_shape p)
  | stop q => exact ha.of_shape (called_shape q none .shutdown (Processor.onShutdown_role _))
  | answer => exact ha.of_shape (entered_shape _)
  | shuttingDown r => exact ha.of_shape (shuttingDown_shape r)
  | shutDown r => exact ha
  | install p => exact ha

theorem Reachable.attaches (hw : Reachable P w) : w.Attaches :=
  hw.invariant (fun _ _ => rfl) fun hv change ha => change.attaches hv.inOrder ha

/-! ## Later worlds -/

/-- What any number of changes enter about the spans of a recorder that is there. -/
structure World.EntersSince (r : Ref Recorder) (w v : World) (events : List Event) : Prop where
  journal : v.journal = w.journal ++ events
  /-- A closed recorder starts no span and looks up no tracer. -/
  ofOpen : (w.recorders.get r).closed = true → ∀ e ∈ events, e.isOfOpen r = false
  /-- An ended span comes to all processors that were attached, and perhaps to later ones. -/
  reaches : ∀ record, .ended r record ∈ events → ∀ q ∈ w.processorsOf r,
    .called q none (.onEnd r record) ∈ events
  ended : ∀ q via record, .called q via (.onEnd r record) ∈ events → .ended r record ∈ events

theorem World.EntersSince.tail {events : List Event} (hw : Reachable P w) (has : w.recorders.Has r)
    (h : Changes P w v) (since : World.EntersSince r w v events) {v' : World}
    (change : Change P v v') : ∃ events, World.EntersSince r w v' events := by
  obtain ⟨added, entered⟩ := change.enters
  refine ⟨events ++ added, ?_⟩
  have attached : ∀ q ∈ w.processorsOf r, q ∈ (v.recorders.get r).attached := by
    intro q hq
    rw [(hw.changes h).attaches r]
    exact (h.extends.processorsOf hw.inOrder has).subset hq
  exact
    { journal := by rw [entered.journal, since.journal, List.append_assoc]
      ofOpen := fun closed e he => by
        rcases List.mem_append.mp he with he | he
        · exact since.ofOpen closed e he
        · cases ho : e.isOfOpen r with
          | false => rfl
          | true =>
            have closed' := h.extends.closed r has closed
            rw [entered.ofOpen r e he ho] at closed'
            cases closed'
      reaches := fun record he q hq => by
        rcases List.mem_append.mp he with he | he
        · exact List.mem_append_left _ (since.reaches record he q hq)
        · exact List.mem_append_right _ (entered.reaches r record he q (attached q hq))
      ended := fun q via record he => by
        rcases List.mem_append.mp he with he | he
        · exact List.mem_append_left _ (since.ended q via record he)
        · exact List.mem_append_right _ (entered.ended q via r record he) }

theorem Changes.entersSince (hw : Reachable P w) (has : w.recorders.Has r) (h : Changes P w v) :
    ∃ events, World.EntersSince r w v events := by
  induction h with
  | refl =>
    refine ⟨[], ?_⟩
    exact
      { journal := (List.append_nil _).symm
        ofOpen := by simp
        reaches := by simp
        ended := by simp }
  | tail h change ih =>
    obtain ⟨events, since⟩ := ih
    exact since.tail hw has h change

end

end Tracing
