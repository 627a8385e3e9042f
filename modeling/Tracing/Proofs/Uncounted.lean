import Mathlib.Data.List.Forall2
import Tracing.Proofs.Answers
import Tracing.Proofs.Fit

/-!
# Tracing.Proofs.Uncounted

Worlds that differ by the counts of failed requests, where some requests were left out.

* `SparedReplies`    — the same replies, but for those counts and the requests left out.
* `World.Spared`     — worlds that are equal but for those counts, such replies in the journal and
  the tracers of some names. Operations keep worlds so.
* `getTracer_spared` — a request is answered the same.
-/

namespace Tracing

open Act

/-! ## Replies -/

mutual

/-- The same answer, but for the count of failed requests; `.span` with the replies of its body. -/
inductive SparedAnswer : Answer → Answer → Prop where
  | same (a : Answer) : SparedAnswer a a
  | stats (s : Stats) (failures : Nat) : SparedAnswer (.stats s) (.stats { s with failures })
  | span (recording sampled : Bool) {body body' : List (Answer × List LogRecord)}
      (h : SparedReplies body body') :
      SparedAnswer (.span recording sampled (some body)) (.span recording sampled (some body'))

/-- The replies of the same steps: those to kept ones are the same, and where a request was left out
it had got the idle tracer. -/
inductive SparedReplies :
    List (Answer × List LogRecord) → List (Answer × List LogRecord) → Prop where
  | nil : SparedReplies [] []
  | kept {a a' : Answer} {rest rest' : List (Answer × List LogRecord)} (h : SparedAnswer a a')
      (log : List LogRecord) (others : SparedReplies rest rest') :
      SparedReplies ((a, log) :: rest) ((a', log) :: rest')
  | left {rest rest' : List (Answer × List LogRecord)} (log : List LogRecord)
      (others : SparedReplies rest rest') :
      SparedReplies ((.tracer (some .idle), log) :: rest) ((.nothing, []) :: rest')

end

theorem SparedReplies.refl (replies : List Reply) : SparedReplies replies replies := by
  induction replies with
  | nil => exact .nil
  | cons reply rest ih => exact .kept (.same reply.1) reply.2 ih

/-- The same event, but for the replies of a hook. -/
inductive SparedEvent : Event → Event → Prop where
  | same (e : Event) : SparedEvent e e
  | answered (call : Nat) {replies replies' : List Reply} (h : SparedReplies replies replies') :
      SparedEvent (.answered call replies) (.answered call replies')

/-- The same call, but for the replies of a hook. -/
structure SparedCall (c c' : Call × Option (List Reply)) : Prop where
  call : c'.1 = c.1 := by rfl
  hook : Option.Rel SparedReplies c.2 c'.2

/-! ## Worlds -/

/-- A step that starts no span by one of the names. -/
def Step.SpansOther (unused : Text → Bool) : Step → Prop
  | .span id _ _ _ _ _ => unused id = false
  | _ => True

/-- The same worlds, but for the counts of failed requests, for what `unused` names and for the
replies of hooks. -/
structure World.Spared (unused : Text → Bool) (w w' : World) : Prop where
  processors : w'.processors = w.processors := by rfl
  pipelines : w'.pipelines = w.pipelines := by rfl
  idles : w'.idles = w.idles := by rfl
  installed : w'.installed = w.installed := by rfl
  catalog : w'.catalog = w.catalog := by rfl
  exitHooks : w'.exitHooks = w.exitHooks := by rfl
  current : w'.current = w.current := by rfl
  telemetryOff : w'.telemetryOff = w.telemetryOff := by rfl
  pipelineNames : w'.names.pipelines = w.names.pipelines := by rfl
  providerNames : w'.names.providers = w.names.providers := by rfl
  tracerNames : ∀ id, unused id = false →
    w'.names.tracers.lookup id = w.names.tracers.lookup id := by intro id _; rfl
  size : w'.recorders.size = w.recorders.size := by rfl
  recorders : ∀ r, (w'.recorders.get r).uncounted = (w.recorders.get r).uncounted := by
    intro r; rfl
  log : w'.log = w.log := by rfl
  journal : List.Forall₂ SparedEvent w.journal w'.journal
  hooks : ∀ q, (w.processors.get q).role.HooksSatisfy (Step.SpansOther unused)

namespace World.Spared

variable {unused : Text → Bool} {w w' : World}

theorem calls (h : w.Spared unused w') : w'.calls = w.calls := by
  have journal := h.journal
  rw [World.calls, World.calls]
  generalize w.journal = events, w'.journal = events' at journal
  induction journal with
  | nil => rfl
  | cons first _ ih => cases first <;> simp only [List.filterMap_cons, ih]

theorem hookReplies (h : w.Spared unused w') (number : Nat) :
    Option.Rel SparedReplies (w.hookReplies number) (w'.hookReplies number) := by
  have journal := h.journal
  rw [World.hookReplies, World.hookReplies]
  generalize w.journal = events, w'.journal = events' at journal
  induction journal with
  | nil => exact .none
  | cons first _ ih =>
    rw [List.findSome?_cons, List.findSome?_cons]
    cases first with
    | same e =>
      split
      · exact .some (.refl _)
      · exact ih
    | answered call h =>
      by_cases hc : call = number
      · simp only [hc, if_true]
        exact .some h
      · simp only [hc, if_false]
        exact ih

/-- A processor received the same calls, and its hooks got the same replies. -/
theorem callsOf (h : w.Spared unused w') (q : Ref Processor) :
    List.Forall₂ SparedCall (w.callsOf q) (w'.callsOf q) := by
  rw [World.callsOf, World.callsOf, h.calls]
  induction w.calls.zipIdx with
  | nil => exact .nil
  | cons entry rest ih =>
    obtain ⟨⟨p, call⟩, number⟩ := entry
    rw [List.filterMap_cons, List.filterMap_cons]
    by_cases hp : p = q
    · simp only [hp, if_true]
      exact .cons { hook := h.hookReplies number } ih
    · simp only [hp, if_false]
      exact ih

theorem reads (h : w.Spared unused w') (r : Ref Recorder) {β : Type} (g : Recorder → β)
    (hg : ∀ x : Recorder, g x.uncounted = g x) :
    g (w'.recorders.get r) = g (w.recorders.get r) := by
  rw [← hg, h.recorders r, hg]

/-- A change that is the same whatever the count of failed requests. -/
theorem withRecorder (h : w.Spared unused w') (r : Ref Recorder) {f : Recorder → Recorder}
    (hf : ∀ x, (f x.uncounted).uncounted = (f x).uncounted) :
    (w.withRecorder r f).Spared unused (w'.withRecorder r f) :=
  { h with
    size := by simp [World.withRecorder, h.size]
    recorders := fun t => by
      rw [World.withRecorder, World.withRecorder]
      rcases Store.get_modify_both h.size r t f f with ⟨ht, ht'⟩ | ⟨rfl, ht, ht'⟩
      · rw [ht, ht', h.recorders]
      · rw [ht, ht', ← hf, h.recorders, hf] }

theorem addRecorder (h : w.Spared unused w') (x : Recorder) :
    World.Spared unused { w with recorders := w.recorders.add x }
      { w' with recorders := w'.recorders.add x } :=
  { h with
    size := by simp [h.size]
    recorders := fun t => by
      rcases Store.get_add_both h.size x x t with ⟨ht, ht'⟩ | ⟨ht, ht'⟩
      · rw [ht, ht']
      · rw [ht, ht', h.recorders] }

end World.Spared

/-! ## Requests for tracers -/

section

variable {unused : Text → Bool}

/-- A change of a recorder that is the same whatever its count of failed requests. -/
theorem modifyRecorder_spared (r : Ref Recorder) {f : Recorder → Recorder}
    (hf : ∀ x, (f x.uncounted).uncounted = (f x).uncounted := by intro x; rfl) :
    Steady (World.Spared unused) (modifyRecorder r f) :=
  Agree.modify fun _ _ h => h.withRecorder r hf

theorem World.Spared.logged {w w' : World} (h : w.Spared unused w') (records : List LogRecord) :
    (w.logged records).Spared unused (w'.logged records) :=
  { h with log := by simp [World.logged, h.log] }

theorem say_spared (level : Level) (logger : String) (message : Wording) :
    Steady (World.Spared unused) (say level logger message) :=
  Steady.say (fun _ _ _ h => h.logged _) level logger message

theorem World.Spared.entered {w w' : World} (h : w.Spared unused w') {e e' : Event}
    (he : SparedEvent e e') : (w.entered e).Spared unused (w'.entered e') :=
  { h with journal := List.rel_append h.journal (.cons he .nil) }

theorem isOver_spared (r : Ref Recorder) (size : Nat) :
    Steady (World.Spared unused) (Recorder.isOver r size) := by
  refine Agree.get fun w w' h => ?_
  rw [h.reads r (·.options.maxCachedTracers) fun _ => rfl]
  exact Steady.ofExcept _

theorem evict_spared (r : Ref Recorder) (size : Nat) :
    Steady (World.Spared unused) (Recorder.evict r size) := by
  induction size with
  | zero =>
    refine (isOver_spared r 0).bind fun _ => ?_
    split
    · exact Agree.throw _
    · exact Agree.pure rfl
  | succ size ih =>
    refine (isOver_spared r (size + 1)).bind fun _ => ?_
    split
    · refine Agree.get fun w w' h => ?_
      rw [h.reads r Recorder.tracers fun _ => rfl]
      refine (modifyRecorder_spared r).bind fun _ => ?_
      exact (say_spared ..).bind fun _ => ih
    · exact Agree.pure rfl

theorem createTracer_spared (r : Ref Recorder) (key : TracerKey) (name version : Value)
    (fault : Option Failure) :
    Steady (World.Spared unused) (Recorder.createTracer r key name version fault) := by
  refine (modifyRecorder_spared r).bind fun _ => ?_
  have note_spared : ∀ e, Steady (World.Spared unused) (note e) := fun e =>
    Agree.modify fun _ _ h => h.entered (.same e)
  cases fault with
  | some e => exact (note_spared _).bind fun _ => Agree.throw_bind e
  | none =>
    refine Agree.get fun w w' h => ?_
    have scopes := h.reads r Recorder.scopes fun _ => rfl
    obtain ⟨scope, withScope⟩ := Recorder.scopeFor_congr scopes name version
    dsimp only
    rw [h.telemetryOff, scope, withScope]
    refine (note_spared _).bind fun _ => (modifyRecorder_spared r ?_).bind fun _ => ?_
    · intro x
      split <;> rfl
    · refine Agree.get fun w w' h => ?_
      rw [h.reads r Recorder.tracers fun _ => rfl]
      refine (evict_spared r _).bind fun _ => ?_
      exact (say_spared ..).bind fun _ => Agree.pure rfl

theorem lookUp_spared (r : Ref Recorder) (key : TracerKey) (name version : Value)
    (fault : Option Failure) :
    Steady (World.Spared unused) (Recorder.lookUp r key name version fault) := by
  refine Match.bind (Agree.modify fun _ _ h => h.entered (.same _)) fun _ => ?_
  refine Agree.get fun w w' h => ?_
  rw [h.reads r Recorder.tracers fun _ => rfl]
  split
  · exact (modifyRecorder_spared r).bind fun _ => Agree.pure rfl
  · exact createTracer_spared r key name version fault

theorem seek_spared (r : Ref Recorder) (request : Request) (fault : Option Failure) :
    Steady (World.Spared unused) (Recorder.seek r request fault) := by
  refine (Steady.ofExcept _).bind fun (name, version) => Agree.get fun w w' h => ?_
  dsimp only
  rw [h.reads r Recorder.closed fun _ => rfl, h.reads r (·.suppresses name) fun _ => rfl]
  split
  · exact Agree.pure rfl
  · refine (Steady.ofExcept _).bind fun suppressed => ?_
    split
    · exact Agree.pure rfl
    · exact (Steady.ofExcept _).bind fun key => lookUp_spared r key name version fault

/-- Neither whether a tracer is made nor which ones are dropped depends on what had failed. -/
theorem getTracer_spared (r : Ref Recorder) (request : Request) (fault : Option Failure) :
    Steady (World.Spared unused) (Recorder.getTracer r request fault) := by
  refine Agree.bind (Agree.attempt (seek_spared r request fault)) fun _ _ ended => ?_
  cases ended with
  | ok h => exact Agree.pure h
  | error e =>
    dsimp only
    split
    · exact Agree.throw_bind e
    · refine (modifyRecorder_spared r).bind fun _ => ?_
      exact (say_spared ..).bind fun _ => Agree.pure rfl

end

/-! ## Likeness -/

/-- An object is found by the name it was given last. -/
theorem Names.lookup_bind {α : Type} (id other : Text) (a : α) (names : List (Text × α)) :
    (Names.bind id a names).lookup other = if other = id then some a else names.lookup other := by
  rw [Names.bind, List.lookup_cons]
  by_cases same : other = id
  · simp [same]
  · have others : (names.filter (·.1 ≠ id)).lookup other = names.lookup other := by
      induction names with
      | nil => rfl
      | cons entry rest ih =>
        by_cases replaced : entry.1 = id
        · have apart : (other == entry.1) = false := by simp [replaced, same]
          rw [List.filter_cons_of_neg (by simpa using replaced), List.lookup_cons, apart]
          exact ih
        · rw [List.filter_cons_of_pos (by simpa using replaced), List.lookup_cons,
            List.lookup_cons, ih]
    rw [beq_false_of_ne same, if_neg same]
    exact others

instance (unused : Text → Bool) :
    Likens (Step.SpansOther unused) Eq SparedAnswer SparedReplies (World.Spared unused) where
  reads h :=
    { processors := h.processors
      pipelines := h.pipelines
      idles := h.idles
      installed := h.installed
      catalog := h.catalog
      exitHooks := h.exitHooks
      current := h.current
      pipelineNames := h.pipelineNames
      providerNames := h.providerNames
      size := h.size
      recorders := fun r => h.reads r Recorder.core fun _ => rfl
      calls := h.calls
      hooks := h.hooks }
  put v h :=
    { h with
      pipelines := rfl
      idles := rfl
      installed := rfl
      catalog := rfl
      exitHooks := rfl
      current := rfl
      pipelineNames := rfl
      providerNames := rfl }
  processors s h hooks := { h with processors := rfl, hooks := hooks }
  logged records h := h.logged records
  entered e h := h.entered (.same e)
  answered number h same := h.entered (.answered number same)
  bindTracer id t h :=
    { h with
      tracerNames := fun other hu => by
        rw [Names.lookup_bind, Names.lookup_bind, h.tracerNames other hu] }
  recorder r h hf := h.withRecorder r fun x => by
    rw [hf.uncounted]
    rfl
  addRecorder className sampler asked resource h ho := ho ▸ h.addRecorder _
  options ho := by
    subst ho
    exact ⟨rfl, rfl⟩
  newProvider _ _ := rfl
  create _ _ := rfl
  assign := by
    intro w w' id field v name r h _ _
    refine h.withRecorder r fun x => ?_
    unfold Recorder.assign
    split <;> rfl
  ask r h _ _ := (getTracer_spared r _ _).together _ _ h
  tracer h spans := h.tracerNames _ spans
  same := .same
  stats {w w'} r h := by
    have counted : (w'.recorders.get r).stats =
        { (w.recorders.get r).stats with failures := (w'.recorders.get r).failures } :=
      h.reads r (fun x => { x.stats with failures := (w'.recorders.get r).failures }) fun _ => rfl
    rw [counted]
    exact .stats _ _
  span recording sampled h := by
    cases h with
    | none => exact .same _
    | some h => exact .span recording sampled h
  nil := .nil
  cons isLogged h ha hrest := by
    rw [h.log]
    exact .kept ha _ hrest
  silent h := { h with log := rfl }
  relog h h' := { h with log := h'.log }

end Tracing
