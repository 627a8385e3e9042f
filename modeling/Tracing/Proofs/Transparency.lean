import Mathlib.Data.List.Forall2
import Tracing.Proofs.Alike

/-!
# Tracing.Proofs.Transparency

Programs cannot tell how many tracers a recorder keeps.

* `StepsAgree`        — two steps that give the same answer from worlds alike.
* `replies_alike`     — programs of such steps give the same replies.
* `runWithin_steady`  — so do plain programs, by induction on the depth of hooks.
* `optionsOf_limited` — options that are given with two limits.
* `cache_transparent` — two recorders that differ by the limit of the cache alone answer all plain
  programs alike.
-/

namespace Tracing

open Act

section

/-! ## Programs -/

/-- From worlds alike, plain steps give the same replies and lead to worlds alike. -/
def Runner.Steady (runner : Runner) : Prop :=
  RunnersAgree Step.IsPlain SameReplies World.Alike runner runner

variable {runner : Runner}

structure StepsAgree (runner : Runner) (bound : Nat) (s s' : Step) : Prop where
  logged : Script.isLogged s' = Script.isLogged s
  answer : Agree World.Alike SameAnswer (Script.perform runner bound s)
    (Script.perform runner bound s')

theorem replies_alike {bound : Nat} {steps steps' : List Step}
    (hs : List.Forall₂ (StepsAgree runner bound) steps steps') {w w' : World} (hw : w.Alike w') :
    (Script.replies runner bound steps w).2.Alike (Script.replies runner bound steps' w').2 ∧
      SameReplies (Script.replies runner bound steps w).1
        (Script.replies runner bound steps' w').1 := by
  induction hs generalizing w w' with
  | nil => exact ⟨hw, rfl⟩
  | cons first rest ih =>
    obtain ⟨hw₁, hreply⟩ := reply_agree first.logged first.answer hw
    obtain ⟨hw₂, hothers⟩ := ih hw₁
    exact ⟨hw₂, hreply hothers⟩

theorem stepsAgree_self (hr : runner.Steady) (bound : Nat) {steps : List Step}
    (hs : Step.EveryIn Step.IsPlain steps) :
    List.Forall₂ (StepsAgree runner bound) steps steps := by
  induction steps with
  | nil => exact .nil
  | cons s rest ih =>
    exact .cons { logged := rfl, answer := perform_agree hr bound hs.1 } (ih hs.2)

end

/-- However deep hooks are nested, plain programs cannot tell worlds alike apart. -/
theorem runWithin_steady (fuel : Nat) : Runner.Steady (Script.runWithin fuel) := by
  induction fuel with
  | zero => exact fun _ _ => Agree.modifyGet fun _ _ h => ⟨h, rfl⟩
  | succ fuel ih =>
    intro steps hs
    exact Agree.modifyGet fun _ _ h => replies_alike (stepsAgree_self ih fuel hs) h

/-! ## Limits -/

theorem Options.assignAll_append (args rest : List (Text × Value)) (o : Options) :
    Options.assignAll (args ++ rest) o =
      match Options.assignAll args o with
      | .ok o => Options.assignAll rest o
      | .error e => .error e := by
  induction args generalizing o with
  | nil => rfl
  | cons arg others ih =>
    obtain ⟨name, v⟩ := arg
    rw [List.cons_append, Options.assignAll, Options.assignAll]
    cases o.assign name v with
    | none => rfl
    | some o => exact ih o

def limited (args : List (Text × Value)) (n : Nat) : Arguments :=
  some (args ++ [(("max_cached_tracers" : Text), .int n)])

theorem Options.ofArguments_limit (args : List (Text × Value)) (n : Nat) :
    Options.ofArguments (args ++ [(("max_cached_tracers" : Text), .int n)]) =
      match Options.ofArguments args with
      | .ok o => .ok { o with maxCachedTracers := .int n }
      | .error e => .error e := by
  have other : (("batch_config" : Text) == "max_cached_tracers") = false := by decide
  have assigned : ∀ o : Options, Options.assignAll [("max_cached_tracers", .int n)] o =
      .ok { o with maxCachedTracers := .int n } := by
    intro o
    simp [Options.assignAll, Options.assign]
  rw [Options.ofArguments_eq, Options.ofArguments_eq, Options.assignAll_append, List.lookup_append,
    List.lookup_cons, other, List.lookup_nil, Option.or_none]
  cases args.lookup ("batch_config" : Text) with
  | none =>
    cases Options.assignAll args {} with
    | error e => rfl
    | ok o => simp only [assigned]
  | some v =>
    dsimp only
    cases Batching.ofArgument v with
    | error e => rfl
    | ok batching =>
      cases Options.assignAll args {} with
      | error e => rfl
      | ok o => simp only [assigned]

theorem Options.requirePositive_int (field : String) {n : Nat} (h : 0 < n) :
    Options.requirePositive field (.int n) = .ok () := by
  have order : compare (n : Int) 0 = .gt := Int.compare_eq_gt.mpr (by omega)
  have above : Value.atMost (.int n) (.int 0) = .ok false := by
    simp only [Value.atMost, Value.order?, Value.order?.intOrder, Value.order?.intOrder?,
      Option.map_some, order]
    rfl
  rw [Options.requirePositive, above]
  rfl

theorem Options.check_limit (o : Options) {m n : Nat} (hm : 0 < m) (hn : 0 < n) :
    Options.check { o with maxCachedTracers := .int n } =
      Options.check { o with maxCachedTracers := .int m } := by
  simp only [Options.check, Options.requirePositive_int _ hm, Options.requirePositive_int _ hn]

theorem optionsOf_limited (args : List (Text × Value)) {m n : Nat} (hm : 0 < m) (hn : 0 < n) :
    Agree World.Alike (OrDefault Options.Alike) (Script.optionsOf (limited args m))
      (Script.optionsOf (limited args n)) := by
  refine (Agree.ofExcept (V := Options.Alike) ?_).map fun o o' h => h
  rw [Options.ofArguments_limit, Options.ofArguments_limit]
  cases Options.ofArguments args with
  | error e => exact .error e
  | ok o =>
    exact .ok
      { uncached := rfl
        check := Options.check_limit o hm hn
        limit := ⟨m, rfl⟩
        limit' := ⟨n, rfl⟩ }

/-! ## Transparency -/

theorem Step.sizeAll_append (steps rest : List Step) :
    Step.sizeAll (steps ++ rest) = Step.sizeAll steps + Step.sizeAll rest := by
  induction steps with
  | nil => simp [Step.sizeAll]
  | cons s others ih =>
    rw [List.cons_append, Step.sizeAll, Step.sizeAll, ih]
    omega

/-- No object is there but the provider installed at the start. -/
theorem World.Alike.start (telemetryOff : Bool) :
    World.Alike { telemetryOff } { telemetryOff } where
  fit _ := .of_new ⟨1000, rfl⟩ rfl telemetryOff
  fit' _ := .of_new ⟨1000, rfl⟩ rfl telemetryOff
  hooks _ := trivial

/-- Two runs that differ by the counts of caches, their records and the tracers they make anew. -/
structure SeenAlike (run run' : List Reply × World) : Prop where
  replies : uncachedReplies run'.1 = uncachedReplies run.1
  calls : run'.2.calls = run.2.calls
  callsSeen : ∀ q, run'.2.callsSeen q = run.2.callsSeen q
  journal : uncachedJournal run'.2.journal = uncachedJournal run.2.journal
  processors : run'.2.processors = run.2.processors
  pipelines : run'.2.pipelines = run.2.pipelines
  names : run'.2.names = run.2.names
  recorders : ∀ r, (run'.2.recorders.get r).uncached = (run.2.recorders.get r).uncached

theorem SeenAlike.of_alike {run run' : List Reply × World} (h : run.2.Alike run'.2)
    (hr : SameReplies run.1 run'.1) : SeenAlike run run' where
  replies := hr
  calls := World.calls_eq h.journal
  callsSeen := World.callsSeen_eq h.journal
  journal := h.journal
  processors := h.processors
  pipelines := h.pipelines
  names := h.names
  recorders := h.recorders

/-- Programs cannot tell for how many tracers a recorder has room. -/
theorem cache_transparent {before after : List Step} (hb : Step.EveryIn Step.IsPlain before)
    (ha : Step.EveryIn Step.IsPlain after) {specs : Option (List (PipelineSpec Step))}
    (hs : Step.EveryInPipelines? Step.IsPlain specs) (id : Text) (args : List (Text × Value))
    (sampler : Option SamplerSpec) (resource : Option Value) (onExit telemetryOff : Bool)
    {m n : Nat} (hm : 0 < m) (hn : 0 < n) :
    SeenAlike
      (Script.run
        (before ++ .newProvider id (limited args m) specs sampler resource onExit :: after)
        { telemetryOff })
      (Script.run
        (before ++ .newProvider id (limited args n) specs sampler resource onExit :: after)
        { telemetryOff }) := by
  have sized : ∀ k, Step.sizeAll
      (before ++ .newProvider id (limited args k) specs sampler resource onExit :: after) =
        Step.sizeAll before + (1 + Step.sizePipelines? specs + Step.sizeAll after) := by
    intro k
    rw [Step.sizeAll_append, Step.sizeAll, Step.size]
  rw [Script.run, Script.run, sized, sized]
  generalize Step.sizeAll before + (1 + Step.sizePipelines? specs + Step.sizeAll after) = fuel
  have steady := runWithin_steady fuel
  have made : StepsAgree (Script.runWithin fuel) fuel
      (.newProvider id (limited args m) specs sampler resource onExit)
      (.newProvider id (limited args n) specs sampler resource onExit) :=
    { logged := rfl
      answer :=
        newProvider_agree (optionsOf_limited args hm hn) fuel id hs sampler resource onExit }
  have paired := List.rel_append (stepsAgree_self steady fuel hb)
    (.cons made (stepsAgree_self steady fuel ha))
  obtain ⟨alike, same⟩ := replies_alike paired (.start telemetryOff)
  exact .of_alike alike same

/-- A tracer is dropped for another one, then used for spans: as it is, once a processor came and
once the recorder was shut down. -/
def evictedUse : List Step :=
  [.getTracer "p" (some "old") (.identity { name := .str "x" }) none,
    .getTracer "p" (some "new") (.identity { name := .str "y" }) none,
    .addProcessor "p" "late" (.str "late") .base,
    .span "old" (.str "s") (.str "INTERNAL") .null
      (some [.span "new" (.str "t") (.str "INTERNAL") .null none none]) none,
    .forceFlush "p",
    .span "again" (.str "s") (.str "INTERNAL") .null none none,
    .shutdown "p",
    .span "old" (.str "s") (.str "INTERNAL") .null none none]

/-- The first pipeline asks for the dropped tracer again while it is flushed. -/
def evictedPipelines : List (PipelineSpec Step) :=
  [.make "a" (.str "a") (.scripted
    { onFlush := [[.getTracer "p" (some "again") (.identity { name := .str "x" }) none]] }),
    .make "b" (.str "b") .simple]

def evictedProgram (room : Nat) : List Step :=
  .newProvider "p" (limited [] room) (some evictedPipelines) none none false :: evictedUse

/-- The first run makes the dropped tracer anew, the second one still has it. -/
example : ((Script.run (evictedProgram 1) {}).2.recorders.get ⟨0⟩).misses = 3 ∧
    ((Script.run (evictedProgram 2) {}).2.recorders.get ⟨0⟩).misses = 2 := by
  decide +kernel

theorem evicted_tracers_alike :
    SeenAlike (Script.run (evictedProgram 1) {}) (Script.run (evictedProgram 2) {}) := by
  have used : Step.EveryIn Step.IsPlain evictedUse := by
    simp [evictedUse, Step.EveryIn, Step.EveryInside, Step.EveryInProcessor, Step.EveryInBody,
      Step.isPlain_iff, Step.asks, Step.KeepsLimit, Request.isTextual, Value.isTextual]
  have hooked : Step.EveryInPipelines? Step.IsPlain (some evictedPipelines) := by
    simp [evictedPipelines, Step.EveryInPipelines?, Step.EveryInPipelines, Step.EveryInPipeline,
      Step.EveryInProcessor, Step.EveryInScript, Step.EveryInHooks, Step.EveryIn,
      Step.EveryInside, Step.isPlain_iff, Step.asks, Step.KeepsLimit, Request.isTextual,
      Value.isTextual]
  have unprepared : Step.EveryIn Step.IsPlain [] := trivial
  exact cache_transparent unprepared used hooked "p" [] none none false false (by decide)
    (by decide)

end Tracing
