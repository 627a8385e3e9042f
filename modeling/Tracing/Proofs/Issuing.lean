import Tracing.Proofs.LateSpans
import Tracing.Proofs.Requests

/-!
# Tracing.Proofs.Issuing

When a recorder counts as having issued a tracer, and what that says of its spans.

* `World.madeBy`, `refusedBy`, `droppedBy` — the tracers that a recorder made, could not make, and
  made but keeps no longer.
* `World.Issues`       — the recorder counts as having issued a tracer exactly if it made one.
* `Change.spans_or`    — changes that are about spans: a span starts, or it ends.
* `Reachable.spans`    — only recorders that have issued a tracer have spans.
* `skipped_flush_safe` — a flush that is skipped has nothing to export.
-/

namespace Tracing

open Act World

/-! ## Tracers made -/

def Event.isIssued : Event → Bool
  | .issued _ _ => true
  | _ => false

namespace World

/-- How many tracers a recorder made. -/
def madeBy (w : World) (r : Ref Recorder) : Nat := (w.lookupEvents r).countP Event.isIssued

/-- How many tracers a recorder was to make and could not. -/
def refusedBy (w : World) (r : Ref Recorder) : Nat := (w.lookupEvents r).countP Event.isRefused

/-- How many of the tracers that a recorder made it keeps no longer. -/
def droppedBy (w : World) (r : Ref Recorder) : Nat :=
  w.madeBy r - (w.recorders.get r).tracers.size

/-- The recorder counts as having issued a tracer exactly if it made one, and it made all that it
keeps. -/
structure Issues (w : World) (r : Ref Recorder) : Prop where
  issued : (w.recorders.get r).issued = true ↔ 0 < w.madeBy r
  kept : (w.recorders.get r).tracers.size ≤ w.madeBy r

end World

namespace Ending

/-- Whether a request that ends so has a tracer made. -/
def issues : Ending → Nat
  | .made | .overrun => 1
  | _ => 0

end Ending

section

variable {P : Step → Prop} {w w' v : World} {r : Ref Recorder} {request : Request}
  {fault : Option Failure} {ending : Ending}

theorem countP_isMiss (events : List Event) :
    events.countP Event.isMiss = events.countP Event.isIssued + events.countP Event.isRefused := by
  induction events with
  | nil => rfl
  | cons e rest ih =>
    simp only [List.countP_cons, ih]
    cases e <;> simp [Event.isMiss, Event.isIssued, Event.isRefused] <;> omega

theorem madeBy_append {events : List Event} (h : w'.journal = w.journal ++ events) :
    w'.madeBy r = w.madeBy r + (events.filter (Event.isLookup r)).countP Event.isIssued := by
  rw [World.madeBy, World.lookupEvents, h, List.filter_append, List.countP_append, World.madeBy,
    World.lookupEvents]

theorem madeBy_pos_iff : 0 < w.madeBy r ↔ ∃ key, .issued r key ∈ w.journal := by
  rw [World.madeBy, List.countP_pos_iff]
  constructor
  · rintro ⟨e, he, issued⟩
    obtain ⟨hj, ours⟩ := List.mem_filter.mp he
    cases e with
    | issued source key =>
      obtain rfl : source = r := by simpa [Event.isLookup] using ours
      exact ⟨key, hj⟩
    | _ => cases issued
  · rintro ⟨key, hj⟩
    exact ⟨_, List.mem_filter.mpr ⟨hj, by simp [Event.isLookup]⟩, rfl⟩

namespace EndsIn

/-- A request that has a tracer made adds one to those made, and no other request does. -/
theorem madeBy (h : EndsIn r request fault w w' ending) :
    w'.madeBy r = w.madeBy r + ending.issues := by
  cases h with
  | idle _ same => exact same ▸ rfl
  | failed _ _ _ _ entries => rw [madeBy_append (entries.trans (List.append_nil _).symm)]; rfl
  | found _ _ _ _ _ _ _ _ _ entries =>
    simp [madeBy_append entries, Event.isLookup, Event.isIssued, Ending.issues]
  | made _ _ _ _ _ _ _ _ _ _ _ entries =>
    simp [madeBy_append entries, Event.isLookup, Event.isIssued, Ending.issues]
  | refused _ _ _ _ _ _ _ _ _ entries =>
    simp [madeBy_append entries, Event.isLookup, Event.isIssued, Ending.issues]
  | interrupted _ _ _ _ _ _ _ _ _ entries =>
    simp [madeBy_append entries, Event.isLookup, Event.isIssued, Ending.issues]
  | unsaid _ _ _ _ _ _ _ _ _ _ _ entries =>
    simp [madeBy_append entries, Event.isLookup, Event.isIssued, Ending.issues]
  | overrun _ _ _ _ _ _ _ _ _ entries =>
    simp [madeBy_append entries, Event.isLookup, Event.isIssued, Ending.issues]

/-- A recorder comes to count as having issued a tracer by a request that has one made. -/
theorem issued (h : EndsIn r request fault w w' ending) :
    (w'.recorders.get r).issued = true ↔
      (w.recorders.get r).issued = true ∨ 0 < ending.issues := by
  cases h with
  | idle _ same => simp [same, Ending.issues]
  | found _ _ _ _ _ _ _ _ recorder => simp [recorder, Recorder.reuse, Ending.issues]
  | made _ _ _ _ _ _ _ _ _ _ recorder =>
    simp [recorder, Recorder.forget, Recorder.keep, Ending.issues]
  | failed _ _ _ recorder => simp [recorder, Recorder.failed, Ending.issues]
  | refused _ _ _ _ _ _ _ _ recorder =>
    simp [recorder, Recorder.failed, Recorder.missed, Ending.issues]
  | interrupted _ _ _ _ _ _ _ _ recorder => simp [recorder, Recorder.missed, Ending.issues]
  | unsaid _ _ _ _ _ _ _ _ _ _ recorder =>
    simp [recorder, Recorder.failed, Recorder.missed, Ending.issues]
  | overrun _ _ _ _ _ _ _ _ recorder =>
    simp [recorder, Recorder.failed, Recorder.forget, Recorder.keep, Ending.issues]

/-- The tracer made is kept, and others may go for it. -/
theorem size_le (h : EndsIn r request fault w w' ending) :
    (w'.recorders.get r).tracers.size ≤ (w.recorders.get r).tracers.size + ending.issues := by
  have forgotten : ∀ key name version n,
      (((w.recorders.get r).keep w.telemetryOff key name version).forget n).tracers.size ≤
        (w.recorders.get r).tracers.size + 1 := by
    intro key name version n
    simp [Recorder.forget, Recorder.keep, Recorder.missed, Lru.push, Lru.size]
  cases h with
  | idle _ same => exact same ▸ Nat.le_refl _
  | found _ _ _ _ _ _ _ _ recorder => simp [recorder, Recorder.reuse, Lru.size_touch]
  | made key name version _ n _ _ _ _ _ recorder => exact recorder ▸ forgotten key name version n
  | failed _ _ _ recorder => exact recorder ▸ Nat.le_refl _
  | refused _ _ _ _ _ _ _ _ recorder => exact recorder ▸ Nat.le_refl _
  | interrupted _ _ _ _ _ _ _ _ recorder => exact recorder ▸ Nat.le_refl _
  | unsaid _ _ _ _ _ _ _ _ _ _ recorder => exact recorder ▸ Nat.le_refl _
  | overrun key name version n _ _ _ _ recorder => exact recorder ▸ forgotten key name version n

theorem issuing (h : EndsIn r request fault w w' ending) (issues : w.Issues r) : w'.Issues r where
  issued := by
    rw [h.issued, issues.issued, h.madeBy]
    omega
  kept := by
    have before := issues.kept
    have after := h.size_le
    rw [h.madeBy]
    omega

end EndsIn

/-- Nothing but a request for a tracer lets a recorder count as having issued one. -/
theorem Change.issued_or (h : Change P w w') (r : Ref Recorder) :
    (w'.recorders.get r).issued = (w.recorders.get r).issued ∨
      ∃ request fault, w' = (Recorder.getTracer r request fault).after w := by
  have still : (w.recorders.get r).issued = true →
      (w'.recorders.get r).issued = (w.recorders.get r).issued := fun issued =>
    (h.extends.issued r issued).trans issued.symm
  cases h with
  | ask s _ t request fault =>
    by_cases ht : r = t
    · exact .inr ⟨request, fault, by rw [ht]⟩
    · exact .inl (by rw [(getTracer_serves t request fault w).elsewhere r ht])
  | addRecorder className options sampler asked resource =>
    left
    by_cases hr : r = w.recorders.next
    · have new : ¬ w.recorders.Has r := by simp [hr, Store.Has, Store.next]
      rw [Store.get_of_not_has new, hr, w.recorders.get_add_self]
      rfl
    · rw [w.recorders.get_add_of_ne _ hr]
  | attach t p =>
    exact .inl (w.recorders.map_get_modify (·.issued) t r
      (f := (·.attaching p (w.pipelines.get p).processor)) fun _ => rfl)
  | assign id field v _ t =>
    refine .inl (w.recorders.map_get_modify (·.issued) t r (f := (·.assign field v)) fun x => ?_)
    unfold Recorder.assign
    split <;> rfl
  | startSpan t scope request issued =>
    by_cases ht : r = t
    · exact .inl (still (ht ▸ issued))
    · exact .inl (by rw [(startSpan_serves t scope request w).after.elsewhere r ht])
  | endSpan t span failed =>
    left
    rcases endSpan_run t span failed w with hrun | ⟨_, _, _, _, hrun⟩
    · rw [after_of_ok hrun, World.delivered_recorders]
      rfl
    · rw [after_of_error hrun]
  | shuttingDown t =>
    exact .inl (w.recorders.map_get_modify (·.issued) t r
      (f := fun x => { x with closed := true }) fun _ => rfl)
  | _ => exact .inl rfl

theorem World.Issues.same (h : w.Issues r) (same : SameLibrary r w w')
    (issued : (w'.recorders.get r).issued = (w.recorders.get r).issued) : w'.Issues r where
  issued := by rw [issued, h.issued, World.madeBy, World.madeBy, same.lookups]
  kept := by rw [same.tracers, World.madeBy, same.lookups]; exact h.kept

/-- Whatever happens, a recorder keeps and counts the same, or a request to it ends. -/
theorem Change.issuing (h : Change P w w') (owns : w.Owns r) :
    SameLibrary r w w' ∧ (w'.recorders.get r).issued = (w.recorders.get r).issued ∨
      ∃ request fault ending, EndsIn r request fault w w' ending := by
  rcases h.ends owns with same | ends
  · rcases h.issued_or r with issued | ⟨request, fault, rfl⟩
    · exact .inl ⟨same, issued⟩
    · by_cases hr : w.recorders.Has r
      · obtain ⟨ending, ends⟩ := getTracer_ends hr owns request fault
        exact .inr ⟨request, fault, ending, ends⟩
      · have closed : (w.recorders.get r).closed = true := by
          rw [Store.get_of_not_has hr]
          rfl
        obtain ⟨failures, log, hrun⟩ := getTracer_closed closed request fault
        refine .inl ⟨same, ?_⟩
        rw [after_of_ok hrun]
        exact w.recorders.map_get_modify (·.issued) r r (f := fun x => { x with failures })
          fun _ => rfl
  · exact .inr ends

theorem Reachable.issues (h : Reachable P w) (r : Ref Recorder) : w.Issues r := by
  refine h.invariant (I := (·.Issues r)) ?_ ?_
  · intro telemetryOff
    constructor <;> simp [Store.get, Store.get?, default, World.madeBy, World.lookupEvents, Lru.size]
  · intro v v' reachable change issues
    rcases change.issuing (reachable.owns r) with ⟨same, issued⟩ | ⟨_, _, _, ends⟩
    · exact issues.same same issued
    · exact ends.issuing issues

/-- Tracers that were dropped stay dropped: no tracer is kept again, others are made for it. -/
theorem Reachable.droppedBy_le (hw : Reachable P w) (h : Changes P w v) :
    w.droppedBy r ≤ v.droppedBy r := by
  induction h with
  | refl => exact Nat.le_refl _
  | @tail u u' earlier change ih =>
    have reachable := hw.changes earlier
    refine ih.trans ?_
    rcases change.issuing (reachable.owns r) with ⟨same, -⟩ | ⟨_, _, _, ends⟩
    · rw [World.droppedBy, World.droppedBy, World.madeBy, World.madeBy, same.lookups, same.tracers]
    · have kept := (reachable.issues r).kept
      have after := ends.size_le
      have made := ends.madeBy
      rw [World.droppedBy, World.droppedBy, made]
      omega

/-! ## Spans -/

/-- The recorder whose span an entry is about. -/
def Event.spanSource? : Event → Option (Ref Recorder)
  | .called _ _ call => call.source?
  | .started source _ => some source
  | .ended source _ => some source
  | _ => none

/-- The journal grows by entries of which those about spans are about recorders of `S`. -/
def World.SpansOnly (S : Ref Recorder → Prop) (w w' : World) : Prop :=
  ∃ events, w'.journal = w.journal ++ events ∧ ∀ e ∈ events, ∀ t, e.spanSource? = some t → S t

namespace World.SpansOnly

variable {S : Ref Recorder → Prop}

theorem silent (h : w'.journal = w.journal) : SpansOnly S w w' := ⟨[], by simp [h], by simp⟩

theorem single {e : Event} (h : w'.journal = w.journal ++ [e])
    (he : ∀ t, e.spanSource? = some t → S t) : SpansOnly S w w' := ⟨[e], h, by simpa using he⟩

theorem aside {e : Event} (h : w'.journal = w.journal ++ [e]) (he : e.spanSource? = none) :
    SpansOnly S w w' :=
  single h (by simp [he])

instance : IsPreorder World (SpansOnly S) where
  refl _ := silent rfl
  trans _ _ _ := by
    rintro ⟨a, ha, hsa⟩ ⟨b, hb, hsb⟩
    refine ⟨a ++ b, by rw [hb, ha, List.append_assoc], fun e he => ?_⟩
    rcases List.mem_append.mp he with he | he
    · exact hsa e he
    · exact hsb e he

theorem journal (h : SpansOnly S w w') : w.journal <+: w'.journal := by
  obtain ⟨events, hj, -⟩ := h
  exact ⟨events, hj.symm⟩

end World.SpansOnly

theorem World.SpansOnly.mono {S T : Ref Recorder → Prop} (h : SpansOnly S w w')
    (hst : ∀ t, S t → T t) : SpansOnly T w w' := by
  obtain ⟨events, hj, spans⟩ := h
  exact ⟨events, hj, fun e he t ht => hst t (spans e he t ht)⟩

theorem startSpan_spansOnly (r : Ref Recorder) (scope : Scope) (request : SpanRequest) (w : World) :
    SpansOnly (· = r) w ((Recorder.startSpan r scope request).after w) := by
  have allows : AllowsStart (SpansOnly (· = r)) r :=
    { journal := World.SpansOnly.journal
      sampled := fun _ _ _ => .silent rfl
      started := fun _ _ => .single rfl (by rintro _ ⟨⟩; rfl)
      delivered := fun _ _ _ => .single rfl (by rintro _ ⟨⟩; rfl) }
  exact (startSpan_leads allows scope request).after

theorem endSpan_spansOnly (r : Ref Recorder) (span : Span) (failed : Bool) (w : World) :
    SpansOnly (· = r) w ((Recorder.endSpan r span failed).after w) := by
  rcases endSpan_run r span failed w with hrun | ⟨_, _, _, _, hrun⟩
  · rw [after_of_ok hrun]
    refine ⟨_, (delivered_journal ..).trans (List.append_assoc ..), ?_⟩
    intro e he t ht
    rcases List.mem_append.mp he with he | he
    · obtain rfl := List.mem_singleton.mp he
      cases ht
      rfl
    · obtain ⟨q, -, rfl⟩ := List.mem_map.mp he
      cases ht
      rfl
  · rw [after_of_error hrun]
    exact .silent rfl

/-- Entries about spans are made where spans start and end, and nowhere else. -/
theorem Change.spans_or (h : Change P w w') :
    SpansOnly (fun _ => False) w w' ∨
      ∃ r, (w.recorders.get r).issued = true ∧
        ((∃ scope request, w' = (Recorder.startSpan r scope request).after w) ∨
          ∃ span failed, w' = (Recorder.endSpan r span failed).after w) := by
  cases h with
  | startSpan r scope request issued => exact .inr ⟨r, issued, .inl ⟨scope, request, rfl⟩⟩
  | endSpan r span failed issued => exact .inr ⟨r, issued, .inr ⟨span, failed, rfl⟩⟩
  | ask s _ r request fault =>
    left
    have allows : AllowsRequest (SpansOnly fun _ => False) r :=
      { entered := fun _ e h => .single rfl fun t ht => by
          cases e <;> simp [Event.isLookup, Event.spanSource?] at h ht
        changed := fun _ _ _ => .silent rfl
        logged := fun _ _ => .silent rfl }
    exact getTracer_allowed allows request fault w
  | attach r p => exact .inl (.aside rfl rfl)
  | flush p timeout => exact .inl (.aside rfl rfl)
  | close p => exact .inl (.aside rfl rfl)
  | stop q => exact .inl (.aside rfl rfl)
  | answer => exact .inl (.aside rfl rfl)
  | shuttingDown r => exact .inl (.aside rfl rfl)
  | shutDown r => exact .inl (.aside rfl rfl)
  | install p => exact .inl (.aside rfl rfl)
  | _ => exact .inl (.silent rfl)

theorem Change.spansOnly (h : Change P w w') :
    SpansOnly (fun t => (w.recorders.get t).issued = true) w w' := by
  rcases h.spans_or with none | ⟨r, issued, ⟨scope, request, rfl⟩ | ⟨span, failed, rfl⟩⟩
  · exact none.mono nofun
  · exact (startSpan_spansOnly r scope request w).mono fun t ht => ht ▸ issued
  · exact (endSpan_spansOnly r span failed w).mono fun t ht => ht ▸ issued

/-- Only recorders that have issued a tracer have spans. -/
theorem Reachable.spans (h : Reachable P w) {e : Event} (he : e ∈ w.journal)
    (hr : e.spanSource? = some r) : (w.recorders.get r).issued = true := by
  revert e
  refine h.invariant (I := fun w => ∀ {e}, e ∈ w.journal → e.spanSource? = some r →
    (w.recorders.get r).issued = true) nofun ?_
  intro v v' _ change ih e he hr
  obtain ⟨events, hj, spans⟩ := change.spansOnly
  rw [hj] at he
  refine change.extends.issued r ?_
  rcases List.mem_append.mp he with he | he
  · exact ih he hr
  · exact spans e he r hr

/-! ## Flushes that are skipped -/

/-- What it says of the recorder `r` that it has issued a tracer, or that it has not. -/
structure SkipsSafely (P : Step → Prop) (r : Ref Recorder) (w : World) : Prop where
  issued_iff : (w.recorders.get r).issued = true ↔ ∃ key, .issued r key ∈ w.journal
  issued_iff_misses : (w.recorders.get r).issued = true ↔
    w.refusedBy r < (w.recorders.get r).misses
  permanent : ∀ v, Changes P w v → (w.recorders.get r).issued = true →
    (v.recorders.get r).issued = true
  kept : (w.recorders.get r).tracers.entries ≠ [] → (w.recorders.get r).issued = true
  /-- Every tracer made is kept or was dropped, and what was dropped stays dropped. -/
  made : w.madeBy r = (w.recorders.get r).tracers.size + w.droppedBy r
  dropped : 0 < w.droppedBy r → (w.recorders.get r).issued = true
  droppedStay : ∀ v, Changes P w v → w.droppedBy r ≤ v.droppedBy r
  /-- As long as none was issued, flushes call no processor. -/
  flush : (w.recorders.get r).issued = false → ∀ runner, Recorder.flush runner r w = .ok [] w
  /-- No processor has received a span then. -/
  silent : (w.recorders.get r).issued = false → ∀ q via call, call.source? = some r →
    .called q via call ∉ w.journal
  /-- A request has a tracer issued exactly if one is made for it. -/
  requests : ∀ request fault, ∃! ending,
    EndsIn r request fault w ((Recorder.getTracer r request fault).after w) ending ∧
      ((((Recorder.getTracer r request fault).after w).recorders.get r).issued = true ↔
        (w.recorders.get r).issued = true ∨ ending = .made ∨ ending = .overrun)
  /-- The tracer made is given, unless a limit that fails its check was assigned, or a tracer that is
  kept, be it the new one, has a name or a version that cannot be written into a record. -/
  checked : ∀ plan w₀ w₁, Recorder.make plan w₀ = .ok r w₁ → Changes Step.ChecksLimit w₁ w →
    ∀ request fault w', EndsIn r request fault w w' .overrun → ∃ key name version,
      (w.recorders.get r).Misses request key name version ∧
        ¬ ((w.recorders.get r).keep w.telemetryOff key name version).AllWritten

theorem Ending.issues_pos_iff (ending : Ending) :
    0 < ending.issues ↔ ending = .made ∨ ending = .overrun := by
  cases ending <;> simp [Ending.issues]

/-- Until a recorder has issued a tracer nothing is lost by not flushing its pipelines. -/
theorem skipped_flush_safe (hw : Reachable P w) (hr : w.recorders.Has r) : SkipsSafely P r w where
  issued_iff := (hw.issues r).issued.trans madeBy_pos_iff
  issued_iff_misses := by
    have misses := (hw.accounts r).misses
    rw [countP_isMiss] at misses
    rw [(hw.issues r).issued, misses, World.madeBy, World.refusedBy]
    omega
  permanent v later := later.extends.issued r
  kept := hw.inOrder.kept r
  made := by
    have kept := (hw.issues r).kept
    rw [World.droppedBy]
    omega
  dropped h := by
    rw [(hw.issues r).issued]
    rw [World.droppedBy] at h
    omega
  droppedStay v := hw.droppedBy_le
  flush unissued runner := recorderFlush_unissued runner unissued
  silent unissued q via call hs he := by
    rw [hw.spans he hs] at unissued
    cases unissued
  requests request fault := by
    obtain ⟨ending, ends⟩ := getTracer_ends hr (hw.owns r) request fault
    refine ⟨ending, ⟨ends, ?_⟩, fun other h => ends.unique h.1⟩
    rw [ends.issued, ending.issues_pos_iff]
  checked plan w₀ w₁ made later request fault w' h := by
    cases h with
    | overrun key name version _ misses _ cause =>
      refine ⟨key, name, version, misses, cause.resolve_left fun unchecked => ?_⟩
      exact unchecked (later.limitChecked (make_has made) (make_limit made))

end

/-- Requests for a suppressed library, without an identity and for a tracer that cannot be made, then
a flush. -/
def unissuedProgram : List Step :=
  [.newProvider "p" (some [("suppressed_instrumentations", .list [.str "noisy"])])
      (some [.make "a" (.str "a") (.scripted {})]) none none false,
    .getTracer "p" none (.identity { name := .str "noisy" }) none,
    .getTracer "p" none (.object "object" none none) none,
    .getTracer "p" none (.identity { name := .str "a" }) (some (.foreign ⟨"RuntimeError", []⟩)),
    .forceFlush "p"]

def unissuedWorld : World := (Script.run unissuedProgram {}).2

theorem unissued_flush_safe : SkipsSafely (fun _ => True) ⟨0⟩ unissuedWorld :=
  skipped_flush_safe (Script.run_reachable_any unissuedProgram)
    (show 0 < unissuedWorld.recorders.size by decide +kernel)

example : (unissuedWorld.recorders.get ⟨0⟩).issued = false ∧
    (unissuedWorld.recorders.get ⟨0⟩).pipelines.length = 1 ∧
    (unissuedWorld.recorders.get ⟨0⟩).misses = 1 ∧ unissuedWorld.calls.length = 0 := by
  decide +kernel

/-! ## A request that fails after its tracer was made -/

/-- A recorder whose limit is assigned a value that no number of tracers can be compared with. -/
def failingProgram : List Step :=
  [.newProvider "p" none (some [.make "a" (.str "a") (.scripted {})]) none none false,
    .setOption "p" (.str "max_cached_tracers") .null]

def failingWorld : World := (Script.run failingProgram {}).2

/-- The world that a request for the default tracer leaves. -/
def failingAfter : World := (Recorder.getTracer ⟨0⟩ .default none).after failingWorld

/-- The request fails and gives the idle tracer. Yet a tracer counts as issued then, and a flush calls
the processor. -/
theorem failed_request_issues :
    Reachable (fun _ => True) failingWorld ∧
      Recorder.getTracer ⟨0⟩ .default none failingWorld = .ok .idle failingAfter ∧
      (failingAfter.recorders.get ⟨0⟩).failures = (failingWorld.recorders.get ⟨0⟩).failures + 1 ∧
      (failingWorld.recorders.get ⟨0⟩).issued = false ∧
      (failingAfter.recorders.get ⟨0⟩).issued = true ∧
      failingAfter.calls.length = 0 ∧
      ((Recorder.flush (Script.runWithin 1) ⟨0⟩).after failingAfter).calls.length = 1 := by
  have reachable : Reachable (fun _ => True) failingWorld := Script.run_reachable_any _
  have has : failingWorld.recorders.Has ⟨0⟩ := show 0 < failingWorld.recorders.size by
    decide +kernel
  have shown : EndsIn.shown ⟨0⟩ .default none failingWorld failingAfter = .overrun := by
    decide +kernel
  obtain ⟨ending, ends⟩ := getTracer_ends has (reachable.owns ⟨0⟩) .default none
  have run : Recorder.getTracer ⟨0⟩ .default none failingWorld = .ok .idle failingAfter := by
    obtain rfl : ending = .overrun := ends.eq_shown.trans shown
    cases ends with
    | overrun _ _ _ _ _ _ _ run => exact run
  exact ⟨reachable, run, by decide +kernel, by decide +kernel, by decide +kernel,
    by decide +kernel, by decide +kernel⟩

end Tracing
