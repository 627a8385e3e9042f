import Tracing.Proofs.Entries
import Tracing.Proofs.LatePipelines

/-!
# Tracing.Proofs.LateSpans

Spans of a recorder after its first shutdown. None starts then, but a span that is open when the
shutdown begins still comes to the processors of the closed pipelines when it ends.

* `Call.source?`         — the recorder whose span a processor receives.
* `SpansAfterShutdown`   — what processors receive of the spans of a recorder that is shut down.
* `late_spans_iff`       — they receive nothing exactly if no span that was open then ends later.
-/

namespace Tracing

open Act

/-- The recorder of the span that a call brings to a processor. -/
def Call.source? : Call → Option (Ref Recorder)
  | .onStart source _ => some source
  | .onEnd source _ => some source
  | _ => none

/-- What is entered of the spans of the recorder `r` once its first shutdown is complete, up to the
world `v`: `before` is the journal as the shutdown began, and `events` what is entered after it. -/
structure SpansAfterShutdown (r : Ref Recorder) (v : World) (before events : List Event) :
    Prop where
  /-- The pipelines that the shutdown went through stay closed. -/
  closed : ∀ p ∈ attachedIn r before, (v.pipelines.get p).closed = true
  starts : ∀ q via span, .called q via (.onStart r span) ∉ events
  ended : ∀ q via record, .called q via (.onEnd r record) ∈ events → .ended r record ∈ events
  /-- A span that ends was started before the shutdown began. -/
  started : ∀ record, .ended r record ∈ events → .started r record.span ∈ before
  /-- It comes to the processors of all the closed pipelines. -/
  reaches : ∀ record, .ended r record ∈ events → ∀ p ∈ attachedIn r before,
    .called (v.pipelines.get p).processor none (.onEnd r record) ∈ events

section

variable {P : Step → Prop} {v : World} {r : Ref Recorder} {earlier events : List Event}

theorem Reachable.spansAfterShutdown (hv : Reachable P v)
    (h : v.journal = earlier ++ .shutDown r :: events) :
    ∃ before between, earlier = before ++ .shuttingDown r (attachedIn r before) :: between ∧
      SpansAfterShutdown r v before events := by
  -- `w` is the world in which the shutdown is complete.
  obtain ⟨w, hw, later, hj⟩ := hv.complete_split h
  have recounts := hw.recounts
  obtain ⟨ps, begun, closed⟩ := recounts.complete r (by simp [hj])
  have hasPipeline := recounts.hasPipeline hw.inOrder begun
  obtain ⟨has, closedRecorder⟩ := hw.closed_of_begun begun
  obtain ⟨before, after, hsplit, rfl⟩ := recounts.begun r ps begun
  rw [hj] at hsplit
  obtain ⟨between, rfl, -⟩ | ⟨rest, -, hnone⟩ := append_eq_split hsplit
  · obtain ⟨events', since⟩ := later.entersSince hw has
    obtain rfl : events' = events := by
      have grown := since.journal
      rw [h, hj, List.append_assoc] at grown
      simpa using grown.symm
    have whole : v.journal = before ++ .shuttingDown r (attachedIn r before) ::
        (between ++ .shutDown r :: events') := by
      rw [h, List.append_assoc]
      rfl
    have unstarted := hv.begun_split whole
    refine ⟨before, between, rfl, ?_⟩
    exact
      { closed := fun p hp => later.extends.shut p (hasPipeline p hp) (closed p hp)
        starts := fun q via span he => by
          have opening := since.ofOpen closedRecorder _ he
          simp [Event.isOfOpen] at opening
        ended := since.ended
        started := fun record he => by
          have ending : .ended r record ∈ v.journal := by simp [h, he]
          have started := hv.started_of_ended ending
          rw [whole] at started
          rcases List.mem_append.mp started with started | started
          · exact started
          · have opening := unstarted (.started r record.span) (by simpa using started)
            simp [Event.isOfOpen] at opening
        reaches := fun record he p hp => by
          rw [later.extends.processor p (hasPipeline p hp)]
          refine since.reaches record he _ (List.mem_map_of_mem ?_)
          rw [recounts.pipelines r, hj]
          simp [attachedIn_append, hp] }
  · have begun : .shuttingDown r (attachedIn r before) ∈ [Event.shutDown r] := by simp [hnone]
    simp at begun

/-- Processors receive nothing more of the spans of a recorder that is shut down exactly if no span
ends that was open when the shutdown began. A recorder without pipelines has no processors. -/
theorem late_spans_iff (hv : Reachable P v) (h : v.journal = earlier ++ .shutDown r :: events) :
    ∃ before between, earlier = before ++ .shuttingDown r (attachedIn r before) :: between ∧
      SpansAfterShutdown r v before events ∧
      (attachedIn r before ≠ [] →
        ((∀ q via call, call.source? = some r → .called q via call ∉ events) ↔
          ∀ record, .started r record.span ∈ before → .ended r record ∉ events)) := by
  obtain ⟨before, between, hearlier, spans⟩ := hv.spansAfterShutdown h
  refine ⟨before, between, hearlier, spans, fun attached => ⟨?_, ?_⟩⟩
  · intro silent record _ ended
    obtain ⟨p, hp⟩ := List.exists_mem_of_ne_nil _ attached
    exact silent _ none _ rfl (spans.reaches record ended p hp)
  · intro unended q via call source received
    cases call with
    | onStart t span =>
      cases source
      exact spans.starts q via span received
    | onEnd t record =>
      cases source
      have ended := spans.ended q via record received
      exact unended record (spans.started record ended) ended
    | forceFlush timeout => cases source
    | shutdown => cases source

end

/-! ## A span around a shutdown -/

/-- The recorder is shut down in the body of a span. -/
def openSpanProgram : List Step :=
  [.newProvider "p" none (some [.make "a" (.str "a") (.scripted {})]) none none true,
    .getTracer "p" (some "t") (.identity { name := .str "lib" }) none,
    .span "t" (.str "work") (.str "INTERNAL") .null (some [.shutdown "p"]) none]

def openSpanWorld : World := (Script.run openSpanProgram {}).2

theorem openSpanWorld_reachable : Reachable (fun _ => True) openSpanWorld := by
  rw [openSpanWorld]
  exact Script.run_reachable_any _

def Event.isEndTo (q : Ref Processor) (r : Ref Recorder) : Event → Bool
  | .called p _ (.onEnd source _) => p = q && source = r
  | _ => false

theorem mem_of_any_isEndTo {q : Ref Processor} {r : Ref Recorder} {events : List Event}
    (h : events.any (Event.isEndTo q r) = true) :
    ∃ via record, .called q via (.onEnd r record) ∈ events := by
  obtain ⟨e, he, hr⟩ := List.any_eq_true.mp h
  cases e with
  | called p via call =>
    cases call with
    | onEnd source record =>
      obtain ⟨rfl, rfl⟩ : p = q ∧ source = r := by simpa [Event.isEndTo] using hr
      exact ⟨via, record, he⟩
    | _ => simp [Event.isEndTo] at hr
  | _ => simp [Event.isEndTo] at hr

/-- The entries up to the completion of a shutdown, and those after it. -/
def untilShutDown (r : Ref Recorder) (events : List Event) : List Event :=
  events.takeWhile (!·.isShutDown r)

def sinceShutDown (r : Ref Recorder) (events : List Event) : List Event :=
  (events.dropWhile (!·.isShutDown r)).tail

theorem split_shutDown {r : Ref Recorder} {events : List Event}
    (h : events.any (Event.isShutDown r) = true) :
    events = untilShutDown r events ++ .shutDown r :: sinceShutDown r events := by
  induction events with
  | nil => cases h
  | cons e rest ih =>
    cases he : e.isShutDown r with
    | true =>
      obtain rfl := Event.eq_shutDown he
      simp [untilShutDown, sinceShutDown, he]
    | false =>
      have hrest := ih (by simpa [he] using h)
      simp only [untilShutDown, sinceShutDown, List.takeWhile_cons, List.dropWhile_cons, he,
        Bool.not_false, if_true, List.cons_append, List.cons.injEq, true_and]
      exact hrest

/-- The span of the program is open when the shutdown begins, and ends after it. -/
theorem open_span_late :
    ∃ before between, untilShutDown ⟨0⟩ openSpanWorld.journal =
        before ++ .shuttingDown ⟨0⟩ (attachedIn ⟨0⟩ before) :: between ∧
      SpansAfterShutdown ⟨0⟩ openSpanWorld before (sinceShutDown ⟨0⟩ openSpanWorld.journal) ∧
      (attachedIn ⟨0⟩ before ≠ [] →
        ((∀ q via call, call.source? = some ⟨0⟩ →
            .called q via call ∉ sinceShutDown ⟨0⟩ openSpanWorld.journal) ↔
          ∀ record, .started ⟨0⟩ record.span ∈ before →
            .ended ⟨0⟩ record ∉ sinceShutDown ⟨0⟩ openSpanWorld.journal)) :=
  late_spans_iff openSpanWorld_reachable (split_shutDown (by decide +kernel))

/-- After the shutdown the processor of the closed pipeline receives the end of the span. -/
theorem open_span_delivered :
    Reachable (fun _ => True) openSpanWorld ∧
      openSpanWorld.journal = untilShutDown ⟨0⟩ openSpanWorld.journal ++
        .shutDown ⟨0⟩ :: sinceShutDown ⟨0⟩ openSpanWorld.journal ∧
      (openSpanWorld.pipelines.get ⟨0⟩).closed = true ∧
      ∃ via record, .called (openSpanWorld.pipelines.get ⟨0⟩).processor via (.onEnd ⟨0⟩ record) ∈
        sinceShutDown ⟨0⟩ openSpanWorld.journal :=
  ⟨openSpanWorld_reachable, split_shutDown (by decide +kernel), by decide +kernel,
    mem_of_any_isEndTo (by decide +kernel)⟩

end Tracing
