import Tracing.Proofs.Answers
import Tracing.Proofs.Fit
import Tracing.Proofs.Registry

/-!
# Tracing.Proofs.Alike

Worlds that differ by the caches of tracers alone.

* `Step.IsPlain`    — the steps that cannot tell such worlds apart.
* `World.Alike`     — worlds that are equal but for caches, with fitting recorders in both.
* `SameAnswer`, `SameReplies` — the same answer, but for what the cache counts.
* `getTracer_steady` — from worlds alike, a request gives the same tracer. So do other operations,
  as an instance of `Likens`.
-/

namespace Tracing

open Act

/-- Limits given among the fields of options are whole numbers. -/
def Arguments.IsLimited (args : Arguments) : Prop :=
  ∀ v : Value, (("max_cached_tracers" : Text), v) ∈ args.getD [] → ∃ n : Nat, v = .int n

/-- A step that asks for tracers by texts, all of which can be made, and that sets the limit of a
cache only where a recorder is made. -/
@[mk_iff]
structure Step.IsPlain (s : Step) : Prop where
  textual : ∀ a ∈ s.asks, a.1.isTextual = true
  faultless : ∀ a ∈ s.asks, a.2 = none
  keepsLimit : s.KeepsLimit
  limited : match s with
    | .newProvider _ args _ _ _ _ => args.IsLimited
    | .create _ args => args.IsLimited
    | _ => True

namespace Options

/-- Options that differ by the limit of the cache, a whole number in both of them. -/
structure Alike (o o' : Options) : Prop where
  uncached : o'.uncached = o.uncached
  check : o'.check = o.check
  limit : ∃ n : Nat, o.maxCachedTracers = .int n
  limit' : ∃ n : Nat, o'.maxCachedTracers = .int n

end Options

structure World.Alike (w w' : World) : Prop where
  processors : w'.processors = w.processors := by rfl
  pipelines : w'.pipelines = w.pipelines := by rfl
  idles : w'.idles = w.idles := by rfl
  installed : w'.installed = w.installed := by rfl
  catalog : w'.catalog = w.catalog := by rfl
  exitHooks : w'.exitHooks = w.exitHooks := by rfl
  names : w'.names = w.names := by rfl
  current : w'.current = w.current := by rfl
  telemetryOff : w'.telemetryOff = w.telemetryOff := by rfl
  size : w'.recorders.size = w.recorders.size := by rfl
  recorders : ∀ r, (w'.recorders.get r).uncached = (w.recorders.get r).uncached := by intro r; rfl
  log : uncachedLog w'.log = uncachedLog w.log := by rfl
  journal : uncachedJournal w'.journal = uncachedJournal w.journal := by rfl
  fit : ∀ r, (w.recorders.get r).Fit w.telemetryOff
  fit' : ∀ r, (w'.recorders.get r).Fit w'.telemetryOff
  hooks : ∀ q, (w.processors.get q).role.HooksSatisfy Step.IsPlain

/-- The same answer, but for what the cache counts. -/
def SameAnswer (a a' : Answer) : Prop := a'.uncached = a.uncached

/-- The same replies, but for what concerns the cache. -/
def SameReplies (replies replies' : List Reply) : Prop :=
  uncachedReplies replies' = uncachedReplies replies

namespace World.Alike

variable {w w' : World}

/-! ## What is read of a recorder -/

/-- What can be read of a recorder without its cache reads the same. -/
theorem reads (h : w.Alike w') (r : Ref Recorder) {β : Type} (g : Recorder → β)
    (hg : ∀ x : Recorder, g x.uncached = g x) :
    g (w'.recorders.get r) = g (w.recorders.get r) := by
  rw [← hg, h.recorders r, hg]

theorem scopes (h : w.Alike w') (r : Ref Recorder) :
    (w'.recorders.get r).scopes = (w.recorders.get r).scopes :=
  h.reads r Recorder.scopes fun _ => rfl

theorem inquire (h : w.Alike w') (r : Ref Recorder) (request : Request) :
    (w'.recorders.get r).inquire request = (w.recorders.get r).inquire request :=
  h.reads r (·.inquire request) fun _ => rfl

theorem stats (h : w.Alike w') (r : Ref Recorder) :
    (w'.recorders.get r).stats.uncached = (w.recorders.get r).stats.uncached :=
  h.reads r (·.stats.uncached) fun _ => rfl

/-! ## Changes of a recorder -/

theorem withRecorder (h : w.Alike w') (r : Ref Recorder) {f g : Recorder → Recorder}
    (hr : (g (w'.recorders.get r)).uncached = (f (w.recorders.get r)).uncached)
    (fit : (f (w.recorders.get r)).Fit w.telemetryOff)
    (fit' : (g (w'.recorders.get r)).Fit w'.telemetryOff) :
    (w.withRecorder r f).Alike (w'.withRecorder r g) := by
  have at_each := fun t => Store.get_modify_both h.size r t f g
  exact
    { h with
      size := by simp [World.withRecorder, h.size]
      recorders := fun t => by
        rw [World.withRecorder, World.withRecorder]
        rcases at_each t with ⟨ht, ht'⟩ | ⟨rfl, ht, ht'⟩
        · rw [ht, ht', h.recorders]
        · rw [ht, ht', hr]
      fit := fun t => by
        rw [World.withRecorder]
        rcases at_each t with ⟨ht, -⟩ | ⟨rfl, ht, -⟩
        · exact ht ▸ h.fit t
        · exact ht ▸ fit
      fit' := fun t => by
        rw [World.withRecorder]
        rcases at_each t with ⟨-, ht⟩ | ⟨rfl, -, ht⟩
        · exact ht ▸ h.fit' t
        · exact ht ▸ fit' }

theorem addRecorder (h : w.Alike w') {x y : Recorder} (hu : y.uncached = x.uncached)
    (fit : ∀ off, x.Fit off) (fit' : ∀ off, y.Fit off) :
    World.Alike { w with recorders := w.recorders.add x }
      { w' with recorders := w'.recorders.add y } := by
  have at_each := Store.get_add_both h.size x y
  exact
    { h with
      size := by simp [h.size]
      recorders := fun t => by
        rcases at_each t with ⟨ht, ht'⟩ | ⟨ht, ht'⟩
        · rw [ht, ht', hu]
        · rw [ht, ht', h.recorders]
      fit := fun t => by
        dsimp only
        rcases at_each t with ⟨ht, -⟩ | ⟨ht, -⟩
        · rw [ht]
          exact fit _
        · rw [ht]
          exact h.fit t
      fit' := fun t => by
        dsimp only
        rcases at_each t with ⟨-, ht⟩ | ⟨-, ht⟩
        · rw [ht]
          exact fit' _
        · rw [ht]
          exact h.fit' t }

end World.Alike

/-! ## Options -/

theorem Options.assign_limited {o o' : Options} {name : Text} {v : Value}
    (h : o.assign name v = some o') (ho : ∃ n : Nat, o.maxCachedTracers = .int n)
    (hv : name = "max_cached_tracers" → ∃ n : Nat, v = .int n) :
    ∃ n : Nat, o'.maxCachedTracers = .int n := by
  by_cases hn : name = "max_cached_tracers"
  · obtain ⟨n, rfl⟩ := hv hn
    subst hn
    have assigned : o.assign "max_cached_tracers" (.int n) =
        some { o with maxCachedTracers := .int n } := by
      simp [Options.assign]
    rw [assigned] at h
    cases h
    exact ⟨n, rfl⟩
  · rw [Options.assign_limit h hn]
    exact ho

theorem Options.assignAll_limited {args : List (Text × Value)} {o o' : Options}
    (h : Options.assignAll args o = .ok o') (ho : ∃ n : Nat, o.maxCachedTracers = .int n)
    (hargs : Arguments.IsLimited (some args)) : ∃ n : Nat, o'.maxCachedTracers = .int n := by
  induction args generalizing o with
  | nil =>
    cases h
    exact ho
  | cons arg rest ih =>
    obtain ⟨name, v⟩ := arg
    rw [Options.assignAll] at h
    cases ha : o.assign name v with
    | none => simp [ha] at h
    | some o₁ =>
      rw [ha] at h
      refine ih h (Options.assign_limited ha ho ?_) ?_
      · intro hn
        exact hargs v (by simp [hn])
      · intro v hv
        exact hargs v (List.mem_cons_of_mem _ hv)

theorem Options.ofArguments_eq (args : List (Text × Value)) :
    Options.ofArguments args =
      match (match args.lookup ("batch_config" : Text) with
        | some v => Batching.ofArgument v
        | none => .ok (.options {})), Options.assignAll args {} with
      | .error e, _ => .error e
      | .ok _, .error e => .error e
      | .ok batching, .ok o => .ok { o with batching } := by
  rw [Options.ofArguments]
  cases args.lookup ("batch_config" : Text) with
  | none => cases Options.assignAll args {} <;> rfl
  | some v =>
    dsimp only
    cases Batching.ofArgument v <;> cases Options.assignAll args {} <;> rfl

theorem Options.ofArguments_limited {args : List (Text × Value)} {o : Options}
    (h : Options.ofArguments args = .ok o) (hargs : Arguments.IsLimited (some args)) :
    ∃ n : Nat, o.maxCachedTracers = .int n := by
  rw [Options.ofArguments_eq] at h
  split at h <;> cases h
  next o ho =>
    obtain ⟨n, hn⟩ := Options.assignAll_limited ho ⟨1000, rfl⟩ hargs
    exact ⟨n, hn⟩

theorem Options.Alike.refl {o : Options} (h : ∃ n : Nat, o.maxCachedTracers = .int n) :
    o.Alike o where
  uncached := rfl
  check := rfl
  limit := h
  limit' := h

theorem Options.assign_uncached (o : Options) {field : Text} (v : Value)
    (hf : field ≠ "max_cached_tracers") :
    o.uncached.assign field v = (o.assign field v).map Options.uncached := by
  unfold Options.assign
  split <;> try rfl
  next hs => exact absurd (Text.ofString_of_toString? hs).symm hf

theorem assign_uncached (x : Recorder) {field : Text} (v : Value)
    (hf : field ≠ "max_cached_tracers") :
    (x.assign field v).uncached = x.uncached.assign field v := by
  unfold Recorder.assign
  split
  · rfl
  · simp only [Recorder.uncached, Options.assign_uncached x.options v hf]
    cases x.options.assign field v <;> rfl

/-- A new recorder is fit. -/
theorem Recorder.Fit.of_new {x : Recorder} (hl : ∃ n : Nat, x.options.maxCachedTracers = .int n)
    (ht : x.tracers = {}) (off : Bool) : x.Fit off where
  limit := hl
  issued h := by simp [ht] at h
  kept e he := by simp [ht] at he

theorem Recorder.handOut_congr {w w' : World} (h : w.Alike w') (r : Ref Recorder)
    (name version : Value) :
    handOut r ((w'.recorders.get r).keptFor w'.telemetryOff name version) =
      handOut r ((w.recorders.get r).keptFor w.telemetryOff name version) := by
  rw [h.telemetryOff, Recorder.keptFor_congr (h.scopes r)]

/-- Whether the tracer is kept in one world and made anew in the other does not show. -/
theorem getTracer_steady (r : Ref Recorder) {request : Request}
    (textual : request.isTextual = true) :
    Steady World.Alike (Recorder.getTracer r request none) := by
  constructor
  intro w w' h
  have inquire := h.inquire r request
  cases hq : (w.recorders.get r).inquire request with
  | idle =>
    rw [Recorder.getTracer_idle hq, Recorder.getTracer_idle (inquire.trans hq)]
    exact .ok h rfl
  | fails e =>
    rw [Recorder.getTracer_fails hq, Recorder.getTracer_fails (inquire.trans hq)]
    have failing : (w.withRecorder r Recorder.failed).Alike (w'.withRecorder r Recorder.failed) :=
      h.withRecorder r (congrArg Recorder.failed (h.recorders r))
        ((h.fit r).of_eq rfl rfl id rfl) ((h.fit' r).of_eq rfl rfl id rfl)
    exact .ok { failing with log := by simp [World.logged, failing.log] } rfl
  | seeks key name version =>
    obtain ⟨f, events, records, hrun, hrec, hevents, hf, fit⟩ :=
      Recorder.getTracer_supplied (h.fit r) textual hq
    obtain ⟨g, events', records', hrun', hrec', hevents', hg, fit'⟩ :=
      Recorder.getTracer_supplied (h.fit' r) textual (inquire.trans hq)
    rw [hrun, hrun']
    have same : (g (w'.recorders.get r)).uncached = (f (w.recorders.get r)).uncached := by
      rw [hg, hf, h.telemetryOff, Recorder.supplied_uncached, Recorder.supplied_uncached,
        h.recorders]
    refine .ok ?_ (Recorder.handOut_congr h r name version).symm
    exact
      { h.withRecorder r same fit fit' with
        log := by simp [h.log, uncachedLog_ofCache hrec, uncachedLog_ofCache hrec']
        journal := by simp [h.journal, hevents, hevents'] }

/-! ## Likeness -/

/-- The limit of given options is a whole number. -/
theorem Arguments.IsLimited.alike {args : Arguments} (h : args.IsLimited) {o : Options}
    (gives : args.Gives o) : o.Alike o := by
  cases args with
  | none =>
    subst gives
    exact .refl ⟨1000, rfl⟩
  | some args => exact .refl (Options.ofArguments_limited gives h)

instance : Likens Step.IsPlain Options.Alike SameAnswer SameReplies World.Alike where
  reads h :=
    { processors := h.processors
      pipelines := h.pipelines
      idles := h.idles
      installed := h.installed
      catalog := h.catalog
      exitHooks := h.exitHooks
      current := h.current
      pipelineNames := by rw [h.names]
      providerNames := by rw [h.names]
      size := h.size
      recorders := fun r => congrArg Recorder.uncounted (h.recorders r)
      calls := World.calls_eq h.journal
      hooks := h.hooks }
  put v h :=
    { h with
      pipelines := rfl
      idles := rfl
      installed := rfl
      catalog := rfl
      exitHooks := rfl
      current := rfl
      names := by simp only [World.putting, h.names] }
  processors s h hooks := { h with processors := rfl, hooks := hooks }
  logged records h := { h with log := by simp [World.logged, h.log] }
  entered e h := { h with journal := by simp [World.entered, h.journal] }
  answered := by
    intro w w' replies replies' number h same
    have entry : uncachedJournal [.answered number replies'] =
        uncachedJournal [.answered number replies] := by
      rw [SameReplies] at same
      simp [uncachedJournal, Event.uncached, same]
    exact { h with journal := by simp [World.entered, h.journal, entry] }
  bindTracer id t h := { h with names := by rw [h.names] }
  recorder r h hf := h.withRecorder r (by rw [hf.uncached, h.recorders r, ← hf.uncached])
    ((h.fit r).of_eq (hf.tracers _) (hf.limit _) (hf.issued _) (hf.scopes _))
    ((h.fit' r).of_eq (hf.tracers _) (hf.limit _) (hf.issued _) (hf.scopes _))
  addRecorder className sampler asked resource h ho := by
    have same := congrArg
      (fun o => Recorder.uncached { className, options := o, sampler, asked, resource }) ho.uncached
    exact h.addRecorder same (.of_new ho.limit rfl) (.of_new ho.limit' rfl)
  options ho := ⟨ho.uncached, ho.check⟩
  newProvider plain := plain.limited.alike
  create plain := plain.limited.alike
  assign := by
    intro w w' id field v name r h plain hname
    have hf : name ≠ "max_cached_tracers" := by
      rintro rfl
      cases field <;> cases hname
      exact plain.keepsLimit id v rfl
    have parts : ∀ x : Recorder, (x.assign name v).issued = x.issued ∧
        (x.assign name v).scopes = x.scopes := by
      intro x
      unfold Recorder.assign
      split <;> exact ⟨rfl, rfl⟩
    have fits : ∀ {x : Recorder} {off : Bool}, x.Fit off → (x.assign name v).Fit off := fun fit =>
      fit.of_eq (assign_tracers _ name v) ((assign_limit _ name v).resolve_right fun h => hf h.1)
        (fun h => (parts _).1.trans h) (parts _).2
    refine h.withRecorder r ?_ (fits (h.fit r)) (fits (h.fit' r))
    rw [assign_uncached _ v hf, assign_uncached _ v hf, h.recorders r]
  ask r h plain asked := by
    obtain rfl := plain.faultless _ asked
    exact (getTracer_steady r (plain.textual _ asked)).together _ _ h
  tracer h _ := by rw [h.names]
  same _ := rfl
  stats r h := by rw [SameAnswer, Answer.uncached, Answer.uncached, h.stats]
  span recording sampled h := by
    cases h with
    | none => rfl
    | some h => rw [SameAnswer, Answer.uncached, Answer.uncached, uncachedBody, uncachedBody, h]
  nil := rfl
  cons isLogged h ha hrest := by
    have entries : ∀ {v v' : World}, v.Alike v' →
        uncachedLog (if isLogged then v'.log else []) =
          uncachedLog (if isLogged then v.log else []) := by
      intro v v' hv
      split
      · exact hv.log
      · rfl
    rw [SameReplies, uncachedReplies, uncachedReplies, uncachedReply, uncachedReply, entries h,
      hrest, ha]
  silent h := { h with log := rfl }
  relog h h' := { h with log := h'.log }

end Tracing
