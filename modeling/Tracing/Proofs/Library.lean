import Tracing.Proofs.Order

/-!
# Tracing.Proofs.Library

The tracers that a recorder keeps, with their scopes, and what it counts of them.

* `World.SameLibrary` — a recorder keeps and counts the same, and looks no tracer up.
* `Change.library`    — whatever happens, it does, unless it is asked for a tracer.
* `World.SameOptions` — all recorders have the same options.
-/

namespace Tracing

open Act

namespace World

/-- What the journal says of the tracers that a recorder looked up, made and could not make. -/
def lookupEvents (w : World) (r : Ref Recorder) : List Event := w.journal.filter (Event.isLookup r)

theorem sought_lookupEvents (w : World) (r : Ref Recorder) :
    w.sought r = (w.lookupEvents r).filterMap (Event.keySought r) := by
  rw [lookupEvents, List.filterMap_filter, sought]
  congr 1
  funext e
  cases e <;> simp [Event.isLookup, Event.keySought]

structure SameLibrary (r : Ref Recorder) (w w' : World) : Prop where
  journal : w.journal <+: w'.journal := by first | exact List.prefix_rfl | simp
  tracers : (w'.recorders.get r).tracers = (w.recorders.get r).tracers := by rfl
  scopes : (w'.recorders.get r).scopes = (w.recorders.get r).scopes := by rfl
  hits : (w'.recorders.get r).hits = (w.recorders.get r).hits := by rfl
  misses : (w'.recorders.get r).misses = (w.recorders.get r).misses := by rfl
  lookups : w'.lookupEvents r = w.lookupEvents r := by rfl

namespace SameLibrary

variable {r t : Ref Recorder} {w w' w'' : World}

theorem trans (h : SameLibrary r w w') (h' : SameLibrary r w' w'') : SameLibrary r w w'' where
  journal := h.journal.trans h'.journal
  tracers := h'.tracers.trans h.tracers
  scopes := h'.scopes.trans h.scopes
  hits := h'.hits.trans h.hits
  misses := h'.misses.trans h.misses
  lookups := h'.lookups.trans h.lookups

instance : IsPreorder World (SameLibrary r) where
  refl _ := {}
  trans _ _ _ := trans

theorem of_recorder {events : List Event} (hj : w'.journal = w.journal ++ events)
    (he : ∀ e ∈ events, e.isLookup r = false)
    (hr : w'.recorders.get r = w.recorders.get r) : SameLibrary r w w' where
  journal := by simp [hj]
  tracers := by rw [hr]
  scopes := by rw [hr]
  hits := by rw [hr]
  misses := by rw [hr]
  lookups := by
    have none : events.filter (Event.isLookup r) = [] := by simpa using he
    rw [World.lookupEvents, hj, List.filter_append, none, List.append_nil, World.lookupEvents]

theorem entered {e : Event} (h : e.isLookup r = false) : SameLibrary r w (w.entered e) :=
  of_recorder rfl (by simpa using h) rfl

theorem onRecorder (t : Ref Recorder) {f : Recorder → Recorder}
    (ht : ∀ x, (f x).tracers = x.tracers := by intro x; rfl)
    (hs : ∀ x, (f x).scopes = x.scopes := by intro x; rfl)
    (hh : ∀ x, (f x).hits = x.hits := by intro x; rfl)
    (hm : ∀ x, (f x).misses = x.misses := by intro x; rfl) :
    SameLibrary r w (w.withRecorder t f) where
  tracers := w.recorders.map_get_modify (·.tracers) t r ht
  scopes := w.recorders.map_get_modify (·.scopes) t r hs
  hits := w.recorders.map_get_modify (·.hits) t r hh
  misses := w.recorders.map_get_modify (·.misses) t r hm

/-- What another recorder does for its callers. -/
theorem of_serves (h : Serves t w w') (hne : r ≠ t) : SameLibrary r w w' := by
  obtain ⟨events, hj, hall⟩ := h.entries
  refine of_recorder hj ?_ (h.elsewhere r hne)
  intro e he
  have ours := hall e he
  cases e <;> first | rfl | simp_all [Event.isOfOpen, Event.isLookup, Ne.symm hne]

theorem startSpan (t : Ref Recorder) (scope : Scope) (request : SpanRequest) (w : World) :
    SameLibrary r w ((Recorder.startSpan t scope request).after w) := by
  have allows : AllowsStart (SameLibrary r) t :=
    { journal := fun h => h.journal
      sampled := fun w f h => by
        have keeps : ∀ {β : Type} (g : Recorder → β),
            (∀ x asked decisions, g { x with asked, decisions } = g x) → ∀ x, g (f x) = g x := by
          intro β g hg x
          obtain ⟨asked, decisions, hx⟩ := h x
          rw [hx, hg]
        refine onRecorder t ?_ ?_ ?_ ?_
        · exact keeps (·.tracers) fun _ _ _ => rfl
        · exact keeps (·.scopes) fun _ _ _ => rfl
        · exact keeps (·.hits) fun _ _ _ => rfl
        · exact keeps (·.misses) fun _ _ _ => rfl
      started := fun _ _ => entered rfl
      delivered := fun _ _ _ => entered rfl }
  exact (startSpan_leads allows scope request).after

theorem endSpan (t : Ref Recorder) (span : Span) (failed : Bool) (w : World) :
    SameLibrary r w ((Recorder.endSpan t span failed).after w) := by
  rcases endSpan_run t span failed w with hrun | ⟨q, -, e, -, hrun⟩
  · have ended : SameLibrary r w (w.entered (.ended t ⟨span, failed⟩)) := entered rfl
    rw [after_of_ok hrun]
    refine ended.trans (of_recorder (delivered_journal ..) ?_ ?_)
    · intro e he
      obtain ⟨q, -, rfl⟩ := List.mem_map.mp he
      rfl
    · rw [delivered_recorders]
  · rw [after_of_error hrun]
    exact {}

end SameLibrary

def SameOptions (w w' : World) : Prop :=
  ∀ r, (w'.recorders.get r).options = (w.recorders.get r).options

instance : IsPreorder World SameOptions where
  refl _ _ := rfl
  trans _ _ _ h h' r := (h' r).trans (h r)

end World

open World

section

variable {P : Step → Prop} {w w' : World}

/-- Nothing but a request for a tracer changes what a recorder keeps and counts. -/
theorem Change.library (h : Change P w w') (r : Ref Recorder) :
    SameLibrary r w w' ∨
      ∃ request fault, w' = (Recorder.getTracer r request fault).after w := by
  have called : ∀ w q via call x, SameLibrary r w (World.called w q via call x) :=
    fun w q via call x => .of_recorder rfl (by simp [Event.isLookup]) rfl
  cases h with
  | ask s _ t request fault =>
    by_cases ht : r = t
    · exact .inr ⟨request, fault, by rw [ht]⟩
    · exact .inl (.of_serves (getTracer_serves t request fault w) ht)
  | addRecorder className options sampler asked resource =>
    left
    by_cases hr : r = w.recorders.next
    · have new : ¬ w.recorders.Has r := by simp [hr, Store.Has, Store.next]
      have before : w.recorders.get r = default := Store.get_of_not_has new
      have after := w.recorders.get_add_self { className, options, sampler, asked, resource }
      rw [← hr] at after
      exact
        { tracers := by rw [before, after]; rfl
          scopes := by rw [before, after]; rfl
          hits := by rw [before, after]; rfl
          misses := by rw [before, after]; rfl }
    · exact .of_recorder (List.append_nil _).symm (by simp) (w.recorders.get_add_of_ne _ hr)
  | attach t p =>
    have attached : SameLibrary r w (w.entered (.attached t p)) := .entered rfl
    exact .inl (attached.trans (.onRecorder t))
  | assign id field v allowed t =>
    refine .inl (.onRecorder t ?_ ?_ ?_ ?_) <;> intro x <;> unfold Recorder.assign <;> split <;> rfl
  | startSpan t scope request => exact .inl (.startSpan t scope request w)
  | endSpan t span failed => exact .inl (.endSpan t span failed w)
  | flush p timeout => exact .inl (called ..)
  | close p =>
    have shut : SameLibrary r w (w.shut p) := {}
    exact .inl (shut.trans (called ..))
  | stop q => exact .inl (called ..)
  | answer number replies => exact .inl (.entered rfl)
  | shuttingDown t =>
    have closing : SameLibrary r w (w.withRecorder t fun x => { x with closed := true }) :=
      .onRecorder t
    exact .inl (closing.trans (.entered rfl))
  | shutDown t => exact .inl (SameLibrary.trans {} (.entered rfl))
  | install p => exact .inl (.of_recorder rfl (by simp [Event.isLookup]) rfl)
  | _ => exact .inl {}

end

end Tracing
