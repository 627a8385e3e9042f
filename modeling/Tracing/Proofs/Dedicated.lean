import Mathlib.Data.List.TakeWhile
import Tracing.Proofs.Entries
import Tracing.Proofs.LatePipelines

/-!
# Tracing.Proofs.Dedicated

A processor that exports the spans of one recorder through one pipeline.

* `endedWhileOpen`  — the sampled spans that a journal says ended while a pipeline was attached and
  open.
* `World.Dedicated` — a processor that only one pipeline of one recorder feeds and closes.
* `World.Holds`     — it has exported the spans that ended while the pipeline was attached and open,
  or lets them wait. `Change.holds` — every change keeps that so.
-/

namespace Tracing

open Act

/-! ## Spans that end while a pipeline is open -/

def Event.closesThrough (p : Ref Pipeline) : Event → Bool
  | .called _ (some t) .shutdown => t = p
  | _ => false

def Event.attaches (r : Ref Recorder) (p : Ref Pipeline) : Event → Bool
  | .attached t s => t = r && s = p
  | _ => false

/-- The span of a recorder that an entry says ended, if it is sampled. -/
def Event.sampledEnd (r : Ref Recorder) : Event → Option SpanRecord
  | .ended source record => if source = r ∧ record.span.sampled = true then some record else none
  | _ => none

/-- The sampled spans of the recorder `r` that ended between the attachment of the pipeline `p` and
the shutdown of its processor through it, in the order in which they ended. -/
def endedWhileOpen (r : Ref Recorder) (p : Ref Pipeline) (events : List Event) : List SpanRecord :=
  ((events.takeWhile (!·.closesThrough p)).dropWhile (!·.attaches r p)).filterMap
    (Event.sampledEnd r)

theorem takeWhile_append_of_any {α : Type} {f : α → Bool} {l : List α} (m : List α)
    (h : ∃ a ∈ l, f a = false) : (l ++ m).takeWhile f = l.takeWhile f := by
  induction l with
  | nil => simp at h
  | cons a rest ih =>
    cases ha : f a with
    | false => simp [ha]
    | true =>
      have hrest : ∃ b ∈ rest, f b = false := by simpa [ha] using h
      simp [ha, ih hrest]

theorem dropWhile_append_of_any {α : Type} {f : α → Bool} {l : List α} (m : List α)
    (h : ∃ a ∈ l, f a = false) : (l ++ m).dropWhile f = l.dropWhile f ++ m := by
  induction l with
  | nil => simp at h
  | cons a rest ih =>
    cases ha : f a with
    | false => simp [ha]
    | true =>
      have hrest : ∃ b ∈ rest, f b = false := by simpa [ha] using h
      simp [ha, ih hrest]

section

variable {r : Ref Recorder} {p : Ref Pipeline} {old new : List Event}

theorem endedWhileOpen_unattached (h : ∀ e ∈ old, e.attaches r p = false) :
    endedWhileOpen r p old = [] := by
  have none : (old.takeWhile (!·.closesThrough p)).dropWhile (!·.attaches r p) = [] := by
    rw [List.dropWhile_eq_nil_iff]
    intro e he
    simp [h e ((List.takeWhile_prefix _).subset he)]
  rw [endedWhileOpen, none, List.filterMap_nil]

theorem endedWhileOpen_closed (new : List Event) (h : ∃ e ∈ old, e.closesThrough p = true) :
    endedWhileOpen r p (old ++ new) = endedWhileOpen r p old := by
  rw [endedWhileOpen, takeWhile_append_of_any new (by simpa using h), endedWhileOpen]

theorem endedWhileOpen_attached (hc : ∀ e ∈ old ++ new, e.closesThrough p = false)
    (ha : ∃ e ∈ old, e.attaches r p = true) :
    endedWhileOpen r p (old ++ new) =
      endedWhileOpen r p old ++ new.filterMap (Event.sampledEnd r) := by
  have all : ∀ {l : List Event}, (∀ e ∈ l, e.closesThrough p = false) →
      l.takeWhile (!·.closesThrough p) = l := fun h => by
    rw [List.takeWhile_eq_self_iff]
    intro e he
    simp [h e he]
  rw [endedWhileOpen, all hc, endedWhileOpen, all fun e he => hc e (List.mem_append_left _ he),
    dropWhile_append_of_any new (by simpa using ha), List.filterMap_append]

/-- Entries of other things than sampled spans of the recorder make no difference. -/
theorem endedWhileOpen_others (h : ∀ e ∈ new, e.sampledEnd r = none) :
    endedWhileOpen r p (old ++ new) = endedWhileOpen r p old := by
  have silent : ∀ {l : List Event}, l.Sublist new → l.filterMap (Event.sampledEnd r) = [] :=
    fun hl => List.filterMap_eq_nil_iff.mpr fun e he => h e (hl.subset he)
  by_cases hc : ∃ e ∈ old, e.closesThrough p = true
  · exact endedWhileOpen_closed new hc
  · have taken : ∀ e ∈ old, (!e.closesThrough p) = true := by simpa using hc
    have hnew := List.takeWhile_sublist (l := new) (p := (!·.closesThrough p))
    rw [endedWhileOpen, List.takeWhile_append_of_pos taken, endedWhileOpen,
      List.takeWhile_eq_self_iff.mpr taken]
    by_cases ha : ∃ e ∈ old, e.attaches r p = true
    · rw [dropWhile_append_of_any _ (by simpa using ha), List.filterMap_append, silent hnew,
        List.append_nil]
    · have unattached : ∀ e ∈ old, (!e.attaches r p) = true := by simpa using ha
      rw [List.dropWhile_append_of_pos unattached, List.dropWhile_eq_nil_iff.mpr unattached,
        silent ((List.dropWhile_sublist _).trans hnew), List.filterMap_nil]

theorem mem_endedWhileOpen {record : SpanRecord} (h : record ∈ endedWhileOpen r p old) :
    .ended r record ∈ old ∧ record.span.sampled = true := by
  obtain ⟨e, he, hrecord⟩ := List.mem_filterMap.mp h
  have hmem := (List.takeWhile_prefix _).subset ((List.dropWhile_suffix _).subset he)
  cases e with
  | ended source record' =>
    simp only [Event.sampledEnd, Option.ite_none_right_eq_some, Option.some.injEq] at hrecord
    obtain ⟨⟨rfl, sampled⟩, rfl⟩ := hrecord
    exact ⟨hmem, sampled⟩
  | _ => simp [Event.sampledEnd] at hrecord

end

/-! ## Dedicated processors -/

/-- The processor `q` exports spans for the pipeline `p` of the recorder `r` alone. -/
structure World.Dedicated (r : Ref Recorder) (p : Ref Pipeline) (q : Ref Processor) (w : World) :
    Prop where
  wraps : w.pipelines.Has p → (w.pipelines.get p).processor = q
  exporting : w.processors.Has q → (w.processors.get q).isExporting = true
  /-- No other pipeline of a recorder wraps it, and no other recorder has the pipeline. -/
  registered : ∀ t, ∀ s ∈ (w.recorders.get t).pipelines, (w.pipelines.get s).processor = q →
    s = p ∧ t = r
  once : (w.recorders.get r).pipelines.count p ≤ 1
  /-- It was shut down through the pipeline only, if at all. -/
  closedThrough : ∀ via, .called q via .shutdown ∈ w.journal → via = some p

/-- The processor `q` is shut down, but not through the pipeline `p`. -/
def Event.closesOtherwise (p : Ref Pipeline) (q : Ref Processor) : Event → Bool
  | .called t via .shutdown => t = q && via ≠ some p
  | _ => false

instance (r : Ref Recorder) (p : Ref Pipeline) (q : Ref Processor) (w : World) :
    Decidable (w.Dedicated r p q) :=
  decidable_of_iff
    ((p.index < w.pipelines.size → (w.pipelines.get p).processor = q) ∧
      (q.index < w.processors.size → (w.processors.get q).isExporting = true) ∧
      (∀ i < w.recorders.size, ∀ s ∈ (w.recorders.get ⟨i⟩).pipelines,
        (w.pipelines.get s).processor = q → s = p ∧ ⟨i⟩ = r) ∧
      (w.recorders.get r).pipelines.count p ≤ 1 ∧
      ∀ e ∈ w.journal, e.closesOtherwise p q = false) <| by
    constructor
    · rintro ⟨wraps, exporting, registered, once, closed⟩
      refine ⟨wraps, exporting, fun t s hs => ?_, once, fun via hv => ?_⟩
      · by_cases ht : w.recorders.Has t
        · exact registered t.index ht s hs
        · rw [Store.get_of_not_has ht] at hs
          cases hs
      · simpa [Event.closesOtherwise] using closed _ hv
    · rintro ⟨wraps, exporting, registered, once, closed⟩
      refine ⟨wraps, exporting, fun i _ => registered ⟨i⟩, once, fun e he => ?_⟩
      unfold Event.closesOtherwise
      split
      next t via =>
        by_cases ht : t = q
        · subst ht
          simp [closed via he]
        · simp [ht]
      · rfl

/-- The processor `q` of the pipeline `p` has exported the sampled spans of the recorder `r` that
ended while the pipeline was attached and open, or lets them wait. -/
structure World.Holds (r : Ref Recorder) (p : Ref Pipeline) (q : Ref Processor) (w : World) :
    Prop where
  spans : (w.processors.get q).exported ++ (w.processors.get q).waiting =
    endedWhileOpen r p w.journal
  simple : (w.processors.get q).role = .simple → (w.processors.get q).waiting = []
  closed : w.processors.Has q → ((w.processors.get q).closed = true ↔ w.ShutThrough p)

section

variable {P : Step → Prop} {w w' : World} {r : Ref Recorder} {p : Ref Pipeline}
  {q : Ref Processor}

/-- A processor that is dedicated was so before. -/
theorem World.Dedicated.before (h : w'.Dedicated r p q) (hw : w.InOrder P) (he : w.Extends w') :
    w.Dedicated r p q where
  wraps hp := by
    rw [← he.processor p hp]
    exact h.wraps (he.hasPipeline hp)
  exporting hq := by
    have role := he.role q hq
    have exporting := h.exporting (he.hasProcessor hq)
    rwa [Processor.isExporting, role] at exporting
  registered t s hs hq := by
    have ht : w.recorders.Has t := by
      by_contra hno
      rw [Store.get_of_not_has hno] at hs
      cases hs
    refine h.registered t s ((he.owned t ht).subset hs) ?_
    rwa [he.processor s (hw.owns t s hs)]
  once := by
    by_cases hr : w.recorders.Has r
    · exact ((he.owned r hr).sublist.count_le p).trans h.once
    · rw [Store.get_of_not_has hr]
      exact Nat.zero_le 1
  closedThrough via hv := h.closedThrough via (he.journal.subset hv)

theorem World.Dedicated.pipeline (h : w.Dedicated r p q) {t : Ref Pipeline}
    (ht : w.pipelines.Has t) (hq : (w.pipelines.get t).processor ≠ q) : t ≠ p := by
  rintro rfl
  exact hq (h.wraps ht)

/-- The processor receives a span once if the pipeline is attached to the recorder of the span. -/
theorem World.Dedicated.count_processorsOf (h : w.Dedicated r p q) (hw : w.InOrder P)
    (t : Ref Recorder) :
    (w.processorsOf t).count q = if t = r then (w.recorders.get r).pipelines.count p else 0 := by
  by_cases ht : t = r
  · subst ht
    rw [if_pos rfl, World.processorsOf, List.count, List.count, List.countP_map]
    refine List.countP_congr fun s hs => ?_
    simp only [Function.comp_apply, beq_iff_eq]
    constructor
    · exact fun hq => (h.registered t s hs hq).1
    · rintro rfl
      exact h.wraps (hw.owns t s hs)
  · rw [if_neg ht, List.count_eq_zero]
    intro hq
    obtain ⟨s, hs, hsq⟩ := List.mem_map.mp hq
    exact ht (h.registered t s hs hsq).2

theorem shutThrough_iff : w.ShutThrough p ↔ ∃ e ∈ w.journal, e.closesThrough p = true := by
  constructor
  · rintro ⟨q, hq⟩
    exact ⟨_, hq, by simp [Event.closesThrough]⟩
  · rintro ⟨e, he, hp⟩
    unfold Event.closesThrough at hp
    split at hp
    next q t =>
      obtain rfl : t = p := by simpa using hp
      exact ⟨q, he⟩
    · cases hp

theorem attached_iff (h : w.Recounts) :
    p ∈ (w.recorders.get r).pipelines ↔ ∃ e ∈ w.journal, e.attaches r p = true := by
  rw [h.pipelines r, attachedIn, List.mem_filterMap]
  refine exists_congr fun e => and_congr_right fun _ => ?_
  cases e with
  | attached t s =>
    simp only [Event.pipelineAttached, Event.attaches, Bool.and_eq_true, decide_eq_true_eq]
    split <;> simp_all
  | _ => simp [Event.pipelineAttached, Event.attaches]

theorem shutThrough_of_append {events : List Event} (hj : w'.journal = w.journal ++ events)
    (hc : ∀ e ∈ events, e.closesThrough p = false) : w'.ShutThrough p ↔ w.ShutThrough p := by
  refine shutThrough_append hj fun t ht => ?_
  have closes := hc _ ht
  simp [Event.closesThrough] at closes

/-- What is entered of other things makes no difference to a processor that stays the same. -/
theorem World.Holds.of_others (h : w.Holds r p q)
    (hq : w'.processors.get q = w.processors.get q)
    (has : w'.processors.Has q → w.processors.Has q) {events : List Event}
    (hj : w'.journal = w.journal ++ events) (hs : ∀ e ∈ events, e.sampledEnd r = none)
    (hc : ∀ e ∈ events, e.closesThrough p = false) : w'.Holds r p q where
  spans := by rw [hq, h.spans, hj, endedWhileOpen_others hs]
  simple := by
    rw [hq]
    exact h.simple
  closed hq' := by rw [hq, h.closed (has hq'), shutThrough_of_append hj hc]

theorem World.Holds.of_same (h : w.Holds r p q) (hq : w'.processors.get q = w.processors.get q)
    (has : w'.processors.Has q → w.processors.Has q) (hj : w'.journal = w.journal) :
    w'.Holds r p q :=
  h.of_others hq has (hj.trans (List.append_nil _).symm) (by simp) (by simp)

theorem World.Holds.of_entry (h : w.Holds r p q) (hq : w'.processors.get q = w.processors.get q)
    (has : w'.processors.Has q → w.processors.Has q) {e : Event}
    (hj : w'.journal = w.journal ++ [e]) (hs : e.sampledEnd r = none)
    (hc : e.closesThrough p = false) : w'.Holds r p q :=
  h.of_others hq has hj (by simpa using hs) (by simpa using hc)

theorem World.Holds.of_serves (h : w.Holds r p q) {t : Ref Recorder} (hs : World.Serves t w w') :
    w'.Holds r p q := by
  obtain ⟨events, hj, ho⟩ := hs.entries
  refine h.of_others (by rw [hs.processors]) (by rw [hs.processors]; exact id) hj ?_ ?_
  · intro e he
    have opening := ho e he
    cases e <;> first | rfl | simp [Event.isOfOpen] at opening
  · intro e he
    have opening := ho e he
    cases e with
    | called q via call =>
      cases via <;> cases call <;> first | rfl | simp [Event.isOfOpen] at opening
    | _ => rfl

/-! ## The end of a span -/

namespace Processor

theorem accept_closed (x : Processor) (record : SpanRecord) :
    (x.accept record).closed = x.closed := by
  unfold accept
  split
  · rfl
  · split <;> rfl

theorem accept_of_closed {x : Processor} (h : x.closed = true) (record : SpanRecord) :
    x.accept record = x := by
  simp [accept, h]

/-- An open processor that exports takes a span if it is sampled. -/
theorem accept_spans {x : Processor} (exporting : x.isExporting = true) (isOpen : x.closed = false)
    (simple : x.role = .simple → x.waiting = []) (record : SpanRecord) :
    (x.accept record).exported ++ (x.accept record).waiting =
      x.exported ++ x.waiting ++ if record.span.sampled = true then [record] else [] := by
  cases hs : record.span.sampled with
  | false => simp [accept, hs]
  | true =>
    cases hr : x.role with
    | simple => simp [accept, isOpen, hs, hr, simple hr]
    | batch => simp [accept, isOpen, hs, hr]
    | _ => simp [isExporting, hr] at exporting

theorem accept_simple {x : Processor} (simple : x.role = .simple → x.waiting = [])
    (record : SpanRecord) (h : (x.accept record).role = .simple) :
    (x.accept record).waiting = [] := by
  have hr : x.role = .simple := by rwa [accept_role] at h
  unfold accept
  split
  · exact simple hr
  · rw [hr]
    exact simple hr

end Processor

/-- The entries of a span that ends. -/
def endEntries (t : Ref Recorder) (record : SpanRecord) (qs : List (Ref Processor)) : List Event :=
  .ended t record :: qs.map fun q => .called q none (.onEnd t record)

theorem endEntries_sampledEnd (t : Ref Recorder) (record : SpanRecord) (qs : List (Ref Processor)) :
    (endEntries t record qs).filterMap (Event.sampledEnd r) =
      if t = r ∧ record.span.sampled = true then [record] else [] := by
  have calls : (qs.map fun q => Event.called q none (.onEnd t record)).filterMap
      (Event.sampledEnd r) = [] := by
    simp [List.filterMap_eq_nil_iff, Event.sampledEnd]
  simp only [endEntries, List.filterMap_cons, Event.sampledEnd, calls]
  split_ifs <;> rfl

theorem endEntries_closesThrough (t : Ref Recorder) (record : SpanRecord)
    (qs : List (Ref Processor)) : ∀ e ∈ endEntries t record qs, e.closesThrough p = false := by
  simp [endEntries, Event.closesThrough]

/-- A span of the recorder comes to the processor while the pipeline is attached. -/
theorem World.Holds.taken (h : w.Holds r p q) {record : SpanRecord} {qs : List (Ref Processor)}
    (accepted : w'.processors.get q = (w.processors.get q).accept record)
    (has : w.processors.Has q) (exporting : (w.processors.get q).isExporting = true)
    (attached : ∃ e ∈ w.journal, e.attaches r p = true)
    (journal : w'.journal = w.journal ++ endEntries r record qs) : w'.Holds r p q := by
  have uncloses := endEntries_closesThrough (p := p) r record qs
  have shut := shutThrough_of_append journal uncloses
  refine
    { spans := ?_
      simple := accepted ▸ Processor.accept_simple h.simple record
      closed := fun _ => by rw [accepted, Processor.accept_closed, h.closed has, shut] }
  rw [accepted, journal]
  cases hc : (w.processors.get q).closed with
  | true =>
    have closed := shutThrough_iff.mp ((h.closed has).mp hc)
    rw [Processor.accept_of_closed hc, h.spans, endedWhileOpen_closed _ closed]
  | false =>
    have unshut : ∀ e ∈ w.journal, e.closesThrough p = false := by
      intro e he
      by_contra hp
      have closed := (h.closed has).mpr (shutThrough_iff.mpr ⟨e, he, by simpa using hp⟩)
      rw [hc] at closed
      cases closed
    have all : ∀ e ∈ w.journal ++ endEntries r record qs, e.closesThrough p = false := by
      intro e he
      rcases List.mem_append.mp he with he | he
      · exact unshut e he
      · exact uncloses e he
    rw [Processor.accept_spans exporting hc h.simple, h.spans, endedWhileOpen_attached all attached,
      endEntries_sampledEnd]
    simp

/-- A span ends that does not come to the processor. -/
theorem World.Holds.passed (h : w.Holds r p q) {t : Ref Recorder} {record : SpanRecord}
    {qs : List (Ref Processor)} (same : w'.processors.get q = w.processors.get q)
    (has : w'.processors.Has q → w.processors.Has q)
    (unattached : t = r → ∀ e ∈ w.journal, e.attaches r p = false)
    (journal : w'.journal = w.journal ++ endEntries t record qs) : w'.Holds r p q := by
  have uncloses := endEntries_closesThrough (p := p) t record qs
  by_cases ht : t = r
  · subst ht
    have none : endedWhileOpen t p w'.journal = endedWhileOpen t p w.journal := by
      rw [endedWhileOpen_unattached (unattached rfl), journal]
      refine endedWhileOpen_unattached fun e he => ?_
      rcases List.mem_append.mp he with he | he
      · exact unattached rfl e he
      · simp only [endEntries, List.mem_cons, List.mem_map] at he
        rcases he with rfl | ⟨_, -, rfl⟩ <;> rfl
    exact
      { spans := by rw [same, none, h.spans]
        simple := same ▸ h.simple
        closed := fun hq => by
          rw [same, h.closed (has hq), shutThrough_of_append journal uncloses] }
  · refine h.of_others same has journal ?_ uncloses
    rw [← List.filterMap_eq_nil_iff, endEntries_sampledEnd, if_neg fun h => ht h.1]

theorem World.Holds.endSpan (h : w.Holds r p q) (hw : Reachable P w) (d : w.Dedicated r p q)
    (t : Ref Recorder) (span : Span) (failed : Bool) :
    ((Recorder.endSpan t span failed).after w).Holds r p q := by
  have size := (endSpan_after (w := w) t span failed).processors
  rcases endSpan_run t span failed w with hrun | ⟨_, _, _, _, hrun⟩
  · generalize SpanRecord.mk span failed = record at hrun
    rw [after_of_ok hrun, hw.attaches t] at size ⊢
    have get := World.delivered_get t record (w.processorsOf t) (w.entered (.ended t record)) q
    rw [d.count_processorsOf hw.inOrder t] at get
    have journal : ((w.entered (.ended t record)).delivered t record (w.processorsOf t)).journal =
        w.journal ++ endEntries t record (w.processorsOf t) := by
      rw [World.delivered_journal]
      simp [World.entered, endEntries]
    by_cases hp : t = r ∧ p ∈ (w.recorders.get r).pipelines
    · obtain ⟨rfl, hp⟩ := hp
      have once : (w.recorders.get t).pipelines.count p = 1 :=
        Nat.le_antisymm d.once (List.count_pos_iff.mpr hp)
      rw [if_pos rfl, once] at get
      have known := hw.inOrder.owns t p hp
      have has : w.processors.Has q := d.wraps known ▸ hw.inOrder.wraps p known
      exact h.taken get has (d.exporting has) ((attached_iff hw.recounts).mp hp) journal
    · have never : (if t = r then (w.recorders.get r).pipelines.count p else 0) = 0 := by
        split
        · rw [List.count_eq_zero]
          exact fun hmem => hp ⟨‹_›, hmem⟩
        · rfl
      rw [never] at get
      refine h.passed get (fun hq => Nat.lt_of_lt_of_eq hq size) ?_ journal
      intro ht e he
      by_contra hattached
      exact hp ⟨ht, (attached_iff hw.recounts).mpr ⟨e, he, by simpa using hattached⟩⟩
  · rw [after_of_error hrun]
    exact h

/-! ## New processors, flushes and shutdowns -/

/-- A new processor holds nothing, and no span has ended while the pipeline could wrap it. -/
theorem World.Holds.created (h : w.Holds r p q) (hw : Reachable P w) (d : w.Dedicated r p q)
    {x : Processor} (new : x.IsNew) :
    { w with processors := w.processors.add x }.Holds r p q := by
  by_cases hq : q = w.processors.next
  · subst hq
    have unknown : ¬ w.processors.Has w.processors.next := Nat.lt_irrefl _
    have unshut : ¬ w.ShutThrough p := by
      intro shut
      have known := ((hw.closedByCalls p).mp shut).1
      exact unknown (d.wraps known ▸ hw.inOrder.wraps p known)
    have spans := h.spans
    rw [Store.get_of_not_has unknown] at spans
    exact
      { spans := by
          rw [w.processors.get_add_self, new.exported, new.waiting]
          exact spans
        simple := fun _ => by rw [w.processors.get_add_self, new.waiting]
        closed := fun _ => by
          rw [w.processors.get_add_self, new.isOpen]
          exact ⟨nofun, fun shut => absurd shut unshut⟩ }
  · exact h.of_same (w.processors.get_add_of_ne x hq) (Store.has_add_iff hq).mp rfl

/-- A flush of an exporting processor changes nothing, or exports what waits. -/
theorem Processor.onForceFlush_exporting {x : Processor} (exporting : x.isExporting = true) :
    x.onForceFlush.processor = x ∨ x.onForceFlush.processor = x.drain := by
  cases hr : x.role with
  | simple => simp [onForceFlush, hr]
  | batch => cases hc : x.closed <;> simp [onForceFlush, hr, hc]
  | _ => simp [isExporting, hr] at exporting

theorem Processor.onShutdown_exporting {x : Processor} (exporting : x.isExporting = true) :
    x.onShutdown.processor = x.close := by
  cases hr : x.role with
  | simple => simp [onShutdown, hr]
  | batch => simp [onShutdown, hr]
  | _ => simp [isExporting, hr] at exporting

theorem called_has {t s : Ref Processor} {via : Option (Ref Pipeline)} {call : Call} {x : Processor}
    (h : (w.called t via call x).processors.Has s) : w.processors.Has s := by
  simpa [World.called, Store.Has] using h

/-- A call of another processor. -/
theorem World.Holds.called (h : w.Holds r p q) {t : Ref Processor} (ht : q ≠ t)
    {via : Option (Ref Pipeline)} {call : Call} (hs : (Event.called t via call).sampledEnd r = none)
    (hc : (Event.called t via call).closesThrough p = false) (x : Processor) :
    (w.called t via call x).Holds r p q :=
  h.of_entry (World.called_get w ht) called_has rfl hs hc

theorem World.Holds.flush (h : w.Holds r p q) (hw : w.InOrder P) (d : w.Dedicated r p q)
    {s : Ref Pipeline} (isOpen : (w.pipelines.get s).closed = false) (timeout : Value) :
    (Pipeline.flushBegun w s timeout).Holds r p q := by
  by_cases hq : q = (w.pipelines.get s).processor
  · have has : w.processors.Has q := hq ▸ hw.wraps s (Pipeline.has_of_open isOpen)
    have get : (Pipeline.flushBegun w s timeout).processors.get q =
        (w.processors.get q).onForceFlush.processor :=
      hq ▸ w.processors.get_modify_const _ (f := (·.onForceFlush.processor)) rfl
    rcases Processor.onForceFlush_exporting (d.exporting has) with same | drained
    · exact h.of_entry (get.trans same) called_has rfl rfl rfl
    · have entry : endedWhileOpen r p (Pipeline.flushBegun w s timeout).journal =
          endedWhileOpen r p w.journal := endedWhileOpen_others (by simp [Event.sampledEnd])
      have shut : (Pipeline.flushBegun w s timeout).ShutThrough p ↔ w.ShutThrough p :=
        shutThrough_of_append rfl (by simp [Event.closesThrough])
      rw [drained] at get
      exact
        { spans := by
            rw [get]
            exact (List.append_nil _).trans (h.spans.trans entry.symm)
          simple := fun _ => by
            rw [get]
            rfl
          closed := fun _ => by
            rw [get, shut]
            exact h.closed has }
  · exact h.called hq rfl rfl _

theorem World.Holds.close (h : w.Holds r p q) (hw : w.InOrder P) (d : w.Dedicated r p q)
    {s : Ref Pipeline} (isOpen : (w.pipelines.get s).closed = false)
    (d' : (Pipeline.closeBegun w s).Dedicated r p q) : (Pipeline.closeBegun w s).Holds r p q := by
  have known := Pipeline.has_of_open isOpen
  have called : .called (w.pipelines.get s).processor (some s) .shutdown ∈
      (Pipeline.closeBegun w s).journal := by
    simp [Pipeline.closeBegun, World.called]
  by_cases hq : q = (w.pipelines.get s).processor
  · -- Through any other pipeline it would not be dedicated.
    obtain rfl : s = p := by simpa using d'.closedThrough (some s) (hq ▸ called)
    have has : w.processors.Has q := hq ▸ hw.wraps s known
    have get : (Pipeline.closeBegun w s).processors.get q = (w.processors.get q).close := by
      rw [← Processor.onShutdown_exporting (d.exporting has), hq]
      exact w.processors.get_modify_const _ (f := (·.onShutdown.processor)) rfl
    have entry : endedWhileOpen r s (Pipeline.closeBegun w s).journal =
        endedWhileOpen r s w.journal := endedWhileOpen_others (by simp [Event.sampledEnd])
    exact
      { spans := by
          rw [get]
          exact (List.append_nil _).trans (h.spans.trans entry.symm)
        simple := fun _ => by
          rw [get]
          rfl
        closed := fun _ => by
          rw [get]
          exact ⟨fun _ => ⟨_, called⟩, fun _ => rfl⟩ }
  · have other := d.pipeline known (Ne.symm hq)
    have shut : (w.shut s).Holds r p q := h.of_same rfl id rfl
    exact shut.called hq rfl (by simpa [Event.closesThrough] using other) _

/-! ## Changes -/

theorem Change.holds (change : Change P w w') (hw : Reachable P w) (d' : w'.Dedicated r p q)
    (h : w.Holds r p q) : w'.Holds r p q := by
  have he := change.extends
  have d := d'.before hw.inOrder he
  cases change with
  | aside => exact h.of_same rfl id rfl
  | name => exact h.of_same rfl id rfl
  | addProcessor x _ new => exact h.created hw d new
  | addPipeline => exact h.of_same rfl id rfl
  | addRecorder => exact h.of_same rfl id rfl
  | attach t s => exact h.of_entry rfl id rfl rfl rfl
  | addHook => exact h.of_same rfl id rfl
  | takeHook => exact h.of_same rfl id rfl
  | ask _ _ t request fault => exact h.of_serves (getTracer_serves t request fault w)
  | assign => exact h.of_same rfl id rfl
  | startSpan t scope request => exact h.of_serves (startSpan_serves t scope request w).after
  | endSpan t span failed => exact h.endSpan hw d t span failed
  | flush s timeout isOpen => exact h.flush hw.inOrder d isOpen timeout
  | close s isOpen => exact h.close hw.inOrder d isOpen d'
  | stop t =>
    have other : q ≠ t := by
      rintro rfl
      cases d'.closedThrough none (by simp [World.called])
    exact h.called other rfl rfl _
  | answer => exact h.of_entry rfl id rfl rfl rfl
  | shuttingDown t => exact h.of_entry rfl id rfl rfl rfl
  | shutDown t => exact h.of_entry rfl id rfl rfl rfl
  | install => exact h.of_entry rfl id rfl rfl rfl

theorem Reachable.holds (hw : Reachable P w) (d : w.Dedicated r p q) : w.Holds r p q := by
  revert d
  refine hw.invariant (I := fun w => w.Dedicated r p q → w.Holds r p q) ?_ ?_
  · intro telemetryOff _
    exact
      { spans := rfl
        simple := fun _ => rfl
        closed := nofun }
  · intro v v' hv change ih d'
    exact change.holds hv d' (ih (d'.before hv.inOrder change.extends))

end

end Tracing
