import Tracing.Proofs.Issuing

/-!
# Tracing.Proofs.Disabled

A recorder whose options are disabled, beside an idle provider.

* `Demand`              — what may be asked of a provider of either kind, and what is given for it.
* `World.Dormant`       — the recorder is disabled, and nothing is known of it to processors.
* `Change.dormant`      — it stays so unless its options are assigned, whatever is attached to it.
* `demand_indistinct`   — without pipelines each demand is met as an idle provider meets it.
* `disabled_indistinct` — and so are all of them, of a recorder made of disabled options.
-/

namespace Tracing

open Act World

/-! ## Demands -/

/-- What may be asked of any provider. -/
inductive Demand where
  | getTracer (request : Request) (fault : Option Failure)
  | flush
  | shutdown

/-- What is given for a demand. A provider of outside code may give no tracer and no reports. -/
inductive Given where
  | tracer (tracer : Option Tracer)
  | reports (reports : Option (List FlushReport))

namespace Demand

def put (runner : Runner) (p : Provider) : Demand → Act Given
  | .getTracer request fault => .tracer <$> p.getTracer request fault
  | .flush => .reports <$> p.flush runner
  | .shutdown => (.reports <| some ·) <$> p.shutdown runner

/-- The demands one after the other. -/
def putAll (runner : Runner) (p : Provider) (demands : List Demand) : Act (List Given) :=
  demands.mapM (put runner p)

/-- What is given where nothing is recorded: the idle tracer and no reports. -/
def idly : Demand → Given
  | .getTracer _ _ => .tracer (some .idle)
  | .flush | .shutdown => .reports (some [])

end Demand

/-- A step that does not enable the options of a recorder. -/
def Step.KeepsDisabled (s : Step) : Prop := ∀ id v, s = .setOption id (.str "enabled") v →
  v.isTruthy = false

/-- A disabled recorder that has issued no tracer. -/
structure Recorder.IsDormant (x : Recorder) : Prop where
  disabled : x.options.enabled.isTruthy = false
  unissued : x.issued = false

/-- The recorder `r` is dormant, and no span of it came to a processor. -/
structure World.Dormant (r : Ref Recorder) (w : World) : Prop where
  has : w.recorders.Has r
  dormant : (w.recorders.get r).IsDormant
  unseen : ∀ e ∈ w.journal, e.spanSource? ≠ some r

section

variable {P : Step → Prop} {w w' v : World} {r : Ref Recorder} {i : Ref Idle}

/-! ## Disabled recorders -/

/-- Disabled options suppress every library, so nothing is looked up. -/
theorem inquire_disabled {x : Recorder} (h : x.options.enabled.isTruthy = false)
    (request : Request) (key : TracerKey) (name version : Value) :
    x.inquire request ≠ .seeks key name version := by
  have suppressed : ∀ name, x.suppresses name ≠ .ok false := by
    intro name
    unfold Recorder.suppresses
    split
    · nofun
    · simp [Options.suppresses, h]
  intro hq
  unfold Recorder.inquire at hq
  split at hq
  · cases hq
  · split at hq
    · cases hq
    · split at hq
      · cases hq
      · cases hq
      · next hs => exact suppressed _ hs

theorem getTracer_disabled (h : (w.recorders.get r).options.enabled.isTruthy = false)
    (request : Request) (fault : Option Failure) :
    ∃ failures log, Recorder.getTracer r request fault w =
      .ok .idle { w.withRecorder r fun x => { x with failures } with log } :=
  getTracer_unsought (inquire_disabled h request) fault

theorem Options.assign_enabled {o o' : Options} {field : Text} {v : Value}
    (h : o.assign field v = some o') (hf : field ≠ "enabled") : o'.enabled = o.enabled := by
  unfold Options.assign at h
  split at h <;> cases h <;> try rfl
  next hs => exact absurd (Text.ofString_of_toString? hs).symm hf

theorem Change.disabled (h : Change Step.KeepsDisabled w w') (hr : w.recorders.Has r)
    (disabled : (w.recorders.get r).options.enabled.isTruthy = false) :
    (w'.recorders.get r).options.enabled.isTruthy = false := by
  rcases h.options_or hr with same | ⟨id, field, v, keeps, assigned⟩
  · rwa [same]
  · rw [assigned]
    rcases assign_or (fun _ _ => rfl) Options.assign_enabled (w.recorders.get r) field v with
      same | ⟨rfl, new⟩
    · rwa [same]
    · rw [new]
      exact keeps id v rfl

theorem Change.dormant (h : Change Step.KeepsDisabled w w') (hw : w.Dormant r) :
    w'.Dormant r where
  has := h.extends.hasRecorder hw.has
  dormant.disabled := h.disabled hw.has hw.dormant.disabled
  dormant.unissued := by
    rcases h.issued_or r with same | ⟨request, fault, rfl⟩
    · exact same.trans hw.dormant.unissued
    · obtain ⟨failures, log, hrun⟩ := getTracer_disabled hw.dormant.disabled request fault
      rw [after_of_ok hrun]
      exact (w.recorders.map_get_modify (·.issued) r r (f := fun x => { x with failures })
        fun _ => rfl).trans hw.dormant.unissued
  unseen := by
    obtain ⟨events, journal, spans⟩ := h.spansOnly
    intro e he hs
    rw [journal] at he
    rcases List.mem_append.mp he with he | he
    · exact hw.unseen e he hs
    · have issued : (w.recorders.get r).issued = true := spans e he r hs
      rw [hw.dormant.unissued] at issued
      cases issued

theorem Changes.dormant (h : Changes Step.KeepsDisabled w w') (hw : w.Dormant r) :
    w'.Dormant r := by
  induction h with
  | refl => exact hw
  | tail _ change ih => exact change.dormant ih

/-! ## Beside an idle provider -/

/-- The recorder `r` in `w` and the idle provider `i` in `v` both have nothing to give. -/
structure Indistinct (r : Ref Recorder) (i : Ref Idle) (w v : World) : Prop where
  has : w.recorders.Has r
  dormant : (w.recorders.get r).IsDormant
  bare : (w.recorders.get r).pipelines = []
  named : (w.recorders.get r).options.serviceName.unwritten? = none
  noop : (v.idles.get i).isNoop = true

/-- Neither a failure that is counted nor a shutdown makes a difference. -/
theorem Indistinct.counting (h : Indistinct r i w v) (has : w'.recorders.Has r) {closed : Bool}
    {failures : Nat} (recorder : w'.recorders.get r = { w.recorders.get r with closed, failures }) :
    Indistinct r i w' v where
  has := has
  dormant := recorder ▸ { h.dormant with }
  bare := recorder ▸ h.bare
  named := recorder ▸ h.named
  noop := h.noop

theorem Demand.put_idle (h : (v.idles.get i).isNoop = true) (runner : Runner) (demand : Demand) :
    demand.put runner (.idle i) v = .ok demand.idly v := by
  cases demand with
  | getTracer request fault =>
    simp [Demand.put, Demand.idly, Provider.getTracer, run_map, run_bind, h]
  | flush => simp [Demand.put, Demand.idly, Provider.flush, run_map, run_bind, h]
  | shutdown =>
    cases hk : (v.idles.get i).kind with
    | noop => simp [Demand.put, Demand.idly, Provider.shutdown, run_map, run_bind, hk]
    | _ => simp [Idle.isNoop, hk] at h

/-- Without pipelines a shutdown has nothing to report, be it the first or not. -/
theorem shutdown_bare (runner : Runner) (hr : w.recorders.Has r)
    (bare : (w.recorders.get r).pipelines = [])
    (named : (w.recorders.get r).options.serviceName.unwritten? = none) :
    ∃ w', Recorder.shutdown runner r w = .ok [] w' ∧ w'.recorders.Has r ∧
      w'.recorders.get r = { w.recorders.get r with closed := true } := by
  cases hc : (w.recorders.get r).closed with
  | true => exact ⟨w, Recorder.shutdown_closed hc, hr, by rw [← hc]⟩
  | false =>
    have closing : ((w.shuttingDown r).recorders.get r) = { w.recorders.get r with closed := true } :=
      get_withRecorder hr _
    have all : Recorder.closeAll runner r (w.recorders.get r).pipelines (w.shuttingDown r) =
        .ok [] (w.shuttingDown r) := by
      rw [bare]
      rfl
    obtain ⟨records, hrun⟩ := Recorder.shutdown_done hc all (closing ▸ named)
    exact ⟨_, hrun, has_withRecorder hr r _, closing⟩

/-- A demand other than a shutdown counts at most a failure. -/
theorem put_dormant (h : (w.recorders.get r).IsDormant) (runner : Runner) {demand : Demand}
    (hd : demand ≠ .shutdown) :
    ∃ failures log, demand.put runner (.recorder r) w =
      .ok demand.idly { w.withRecorder r fun x => { x with failures } with log } := by
  cases demand with
  | getTracer request fault =>
    obtain ⟨failures, log, hrun⟩ := getTracer_disabled h.disabled request fault
    exact ⟨failures, log, by rw [Demand.put, run_map, Provider.getTracer, run_map, hrun]; rfl⟩
  | flush =>
    have hrun := recorderFlush_unissued runner h.unissued
    have same : w.withRecorder r (fun x => { x with failures := (w.recorders.get r).failures }) = w :=
      w.withRecorder_self r rfl
    refine ⟨(w.recorders.get r).failures, w.log, ?_⟩
    rw [same, Demand.put, run_map, Provider.flush, run_map, hrun]
    rfl
  | shutdown => exact absurd rfl hd

/-- Each demand is met as the idle provider meets it, and so the next one will be. -/
theorem demand_indistinct (h : Indistinct r i w v) (runner : Runner) (demand : Demand) :
    ∃ w', demand.put runner (.recorder r) w = .ok demand.idly w' ∧
      demand.put runner (.idle i) v = .ok demand.idly v ∧ Indistinct r i w' v := by
  by_cases hd : demand = .shutdown
  · subst hd
    obtain ⟨w', hrun, has, recorder⟩ := shutdown_bare runner h.has h.bare h.named
    refine ⟨w', ?_, Demand.put_idle h.noop runner _, h.counting has recorder⟩
    rw [Demand.put, run_map, Provider.shutdown, hrun]
    rfl
  · obtain ⟨failures, log, hrun⟩ := put_dormant h.dormant runner hd
    exact ⟨_, hrun, Demand.put_idle h.noop runner demand,
      h.counting (has_withRecorder h.has r _) (get_withRecorder h.has _)⟩

theorem demands_indistinct (h : Indistinct r i w v) (runner : Runner) (demands : List Demand) :
    ∃ w', Demand.putAll runner (.recorder r) demands w = .ok (demands.map Demand.idly) w' ∧
      Demand.putAll runner (.idle i) demands v = .ok (demands.map Demand.idly) v := by
  induction demands generalizing w with
  | nil => exact ⟨w, rfl, rfl⟩
  | cons demand rest ih =>
    obtain ⟨w₁, recorder, idle, h₁⟩ := demand_indistinct h runner demand
    obtain ⟨w₂, recorders, idles⟩ := ih h₁
    unfold Demand.putAll at recorders idles ⊢
    exact ⟨w₂, by simp [run_bind, run_map, recorder, recorders],
      by simp [run_bind, run_map, idle, idles]⟩

/-! ## Recorders made of disabled options -/

/-- Of disabled options the recorder alone is made, without processors. -/
theorem make_disabled {plan : Recorder.Plan}
    (disabled : plan.options.enabled.isTruthy = false) (implicit : plan.pipelines = none)
    (made : Recorder.make plan w = .ok r w') :
    ∃ resource exitHooks log, r = w.recorders.next ∧ w' = { w with
      recorders := w.recorders.add
        { className := plan.className, options := plan.options, sampler := plan.effectiveSampler
          asked := if plan.isScripted then some [] else none, resource }
      exitHooks, log } := by
  have built := build_unexporting implicit (by simp [Options.exports, disabled]) w
  obtain ⟨resource, ps, processors, pipelines, log, -, build, rfl, rfl⟩ := make_ok made
  rw [built] at build
  obtain ⟨rfl, same⟩ := EStateM.Result.ok.inj build
  have nothing : w.journal ++ List.map (Event.attached w.recorders.next) [] = w.journal :=
    List.append_nil _
  refine ⟨resource, if plan.onExit then w.exitHooks ++ [w.recorders.next] else w.exitHooks,
    w.log ++ [plan.record []], rfl, ?_⟩
  rw [← same, Recorder.Plan.carriedOut, Recorder.Plan.placed, nothing]
  rfl

/-- From `w` on the recorder `r` gives those who ask it what an idle provider gives them. -/
structure IdlesFrom (r : Ref Recorder) (w : World) : Prop where
  /-- Whatever is demanded in turn, of the recorder and of an idle provider of the library. -/
  alike : ∀ runner demands i v, (v.idles.get i).isNoop = true → ∃ w',
    Demand.putAll runner (.recorder r) demands w = .ok (demands.map Demand.idly) w' ∧
      Demand.putAll runner (.idle i) demands v = .ok (demands.map Demand.idly) v
  /-- Later, and whatever was attached to it, only a shutdown may report pipelines. -/
  later : ∀ v, Changes Step.KeepsDisabled w v → ∀ runner (demand : Demand),
    demand ≠ .shutdown → ∃ v', demand.put runner (.recorder r) v = .ok demand.idly v'
  /-- No processor ever receives a span of it. -/
  unseen : ∀ v, Changes Step.KeepsDisabled w v → ∀ q via call, call.source? = some r →
    .called q via call ∉ v.journal

/-- A recorder made of disabled options, and of no pipelines that are given, is not to be told from
the idle provider. It is made without a processor, and those attached later receive no span. -/
theorem disabled_indistinct (hw : Reachable P w) {plan : Recorder.Plan}
    (disabled : plan.options.enabled.isTruthy = false) (implicit : plan.pipelines = none)
    (made : Recorder.make plan w = .ok r w') :
    w'.processors = w.processors ∧ w'.pipelines = w.pipelines ∧ IdlesFrom r w' := by
  obtain ⟨resource, exitHooks, log, rfl, rfl⟩ := make_disabled disabled implicit made
  refine ⟨rfl, rfl, ?_⟩
  generalize hx : (Recorder.mk _ _ _ _ _ _ _ _ _ _ _ _ _ _ _ _) = x
  have has : (w.recorders.add x).Has w.recorders.next := by simp [Store.Has, Store.next]
  have new : ¬ w.recorders.Has w.recorders.next := by simp [Store.Has, Store.next]
  have self := w.recorders.get_add_self x
  have dormant : x.IsDormant := hx ▸ { disabled := disabled, unissued := rfl }
  have bare : x.pipelines = [] := hx ▸ rfl
  have named : x.options.serviceName.unwritten? = none := hx ▸ make_named made
  have start : World.Dormant w.recorders.next
      { w with recorders := w.recorders.add x, exitHooks, log } :=
    { has := has
      dormant := self.symm ▸ dormant
      unseen := fun e he hs => new (Recorder.has_of_issued (hw.spans he hs)) }
  constructor
  case alike =>
    intro runner demands i v noop
    exact demands_indistinct
      { has := has, dormant := start.dormant, bare := self.symm ▸ bare
        named := self.symm ▸ named, noop := noop } runner demands
  case later =>
    intro v later runner demand hd
    obtain ⟨_, _, hrun⟩ := put_dormant (Changes.dormant later start).dormant runner hd
    exact ⟨_, hrun⟩
  case unseen =>
    intro v later q via call hs he
    exact (Changes.dormant later start).unseen _ he hs

end

/-- Options of which spans would be exported, were they not disabled. -/
def disabledPlan : Recorder.Plan := { options := { enabled := .int 0 } }

def disabledWorld : World := (Recorder.make disabledPlan).after {}

theorem disabled_recorder_idles : Recorder.make disabledPlan {} = .ok ⟨0⟩ disabledWorld ∧
    IdlesFrom ⟨0⟩ disabledWorld := by
  have made : Recorder.make disabledPlan {} = .ok ⟨0⟩ disabledWorld := rfl
  obtain ⟨-, -, idles⟩ := disabled_indistinct (P := fun _ => True) ⟨false, .refl⟩
    (by decide) rfl made
  exact ⟨made, idles⟩

example : (Script.run
    [.newProvider "p" (some [("enabled", .bool false)]) none none none false,
      .addProcessor "p" "a" (.str "a") (.scripted {}),
      .getTracer "p" (some "t") .default none, .forceFlush "p"] {}).2.calls.length = 0 := by
  decide +kernel

end Tracing
