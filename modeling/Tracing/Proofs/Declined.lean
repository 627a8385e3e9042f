import Tracing.Proofs.Endings
import Tracing.Proofs.Uncounted

/-!
# Tracing.Proofs.Declined

Requests for tracers that are answered before tracers are looked at leave no trace.

* `Recorder.declines`, `Step.isDeclined` — such requests, and calls of them whose tracers are not
  used.
* `World.LeftAlone`       — all is as it was, but for the counts of failed requests and the log.
* `Script.runWithout`     — programs run with any of those calls left out.
* `runWithout_agree`      — both runs lead to worlds that are equal but for the counts, by induction
  on the depth of hooks.
* `declined_leave_no_trace` — so the other steps are answered the same.
-/

namespace Tracing

open Act

/-! ## Requests that are declined -/

namespace Recorder

/-- Whether a request is answered before tracers are looked at. -/
def declines (x : Recorder) (request : Request) : Bool :=
  match x.inquire request with
  | .seeks _ _ _ => false
  | _ => true

theorem declines_iff {x : Recorder} {request : Request} :
    x.declines request = true ↔ x.Drops request ∨ ∃ e, x.Fails request e := by
  constructor
  · intro h
    rcases x.inquire_cases request with drops | fails | ⟨key, name, version, seeks⟩
    · exact .inl drops
    · exact .inr fails
    · rw [declines, seeks.inquire] at h
      cases h
  · rintro (drops | ⟨e, fails⟩)
    · rw [declines, drops.inquire]
    · rw [declines, fails.inquire]

end Recorder

/-- All is as it was, but for the counts of failed requests and the log. -/
structure World.LeftAlone (w w' : World) : Prop where
  size : w'.recorders.size = w.recorders.size := by rfl
  recorders : ∀ r, (w'.recorders.get r).uncounted = (w.recorders.get r).uncounted := by
    intro r; rfl
  others : w' = { w with recorders := w'.recorders, log := w'.log } := by rfl

theorem getTracer_declined (w : World) (r : Ref Recorder) {request : Request}
    (fault : Option Failure) (h : (w.recorders.get r).declines request = true) :
    ∃ w', Recorder.getTracer r request fault w = .ok .idle w' ∧ w.LeftAlone w' := by
  rcases Recorder.declines_iff.mp h with drops | ⟨e, fails⟩
  · exact ⟨w, Recorder.getTracer_idle drops.inquire, {}⟩
  · have counted : ∀ t, ((w.recorders.modify r Recorder.failed).get t).uncounted =
        (w.recorders.get t).uncounted := by
      intro t
      rcases w.recorders.get_modify_eq_or r t Recorder.failed with ht | ⟨-, ht⟩
      · rw [ht]
      · rw [ht]
        rfl
    exact ⟨_, Recorder.getTracer_fails fails.inquire,
      { size := w.recorders.size_modify r Recorder.failed
        recorders := counted }⟩

/-! ## Calls that are declined -/

namespace Step

/-- The recorder that a step asks for a tracer, what it asks for and the name that the tracer
gets. -/
def query (w : World) : Step → Option (Ref Recorder × Request × Option Text)
  | .getTracer id tracerId request _ =>
    match w.names.providers.lookup id with
    | some (.recorder r) => some (r, request, tracerId)
    | _ => none
  | .globalGetTracer (some name) version tracerId =>
    match w.installed with
    | some (.recorder r) => some (r, .identity { name, version := version.getD .null }, tracerId)
    | _ => none
  | _ => none

/-- Whether a step asks a recorder for a tracer that is not used, and is declined. -/
def isDeclined (unused : Text → Bool) (w : World) (s : Step) : Bool :=
  match s.query w with
  | some (r, request, tracerId) => (w.recorders.get r).declines request && tracerId.all unused
  | none => false

end Step

section

variable {unused : Text → Bool} {w w' : World}

theorem World.Spared.isDeclined_eq (h : w.Spared unused w') (s : Step) :
    s.isDeclined unused w' = s.isDeclined unused w := by
  have query : s.query w' = s.query w := by
    cases s <;> simp only [Step.query, h.providerNames, h.installed]
  have declines : ∀ r request, (w'.recorders.get r).declines request =
      (w.recorders.get r).declines request := fun r request =>
    h.reads r (·.declines request) fun _ => rfl
  simp only [Step.isDeclined, query, declines]

/-- The world after a call whose tracer is not used. -/
theorem World.Spared.of_leftAlone {v : World} (h : w.Spared unused w') (l : w.LeftAlone v) :
    { v with log := w.log }.Spared unused w' := by
  rw [l.others]
  exact
    { h with
      size := h.size.trans l.size.symm
      recorders := fun r => (h.recorders r).trans (l.recorders r).symm }

theorem World.Spared.bind_unused (h : w.Spared unused w') {id : Text} (hid : unused id = true)
    (t : Option Tracer) : World.Spared unused
      { w with names := { w.names with tracers := Names.bind id t w.names.tracers } } w' :=
  { h with
    tracerNames := fun other hu => by
      have apart : other ≠ id := by
        rintro rfl
        rw [hid] at hu
        cases hu
      rw [Names.lookup_bind, if_neg apart, h.tracerNames other hu] }

theorem installedGetTracer_eq (name version : Value) :
    Installed.getTracer name version = (do
      (← Installed.provider "get_tracer").getTracer (.identity { name, version }) none) := by
  cases version <;> rfl

/-- A step with a query asks the recorder, and names the tracer. -/
theorem perform_query (runner : Runner) (bound : Nat) {s : Step} {r : Ref Recorder}
    {request : Request} {tracerId : Option Text} (h : s.query w = some (r, request, tracerId)) :
    ∃ fault, Script.perform runner bound s w = (do
      let tracer ← some <$> Recorder.getTracer r request fault
      Names.setTracer tracerId tracer
      return .tracer tracer : Act Answer) w := by
  cases s with
  | getTracer id tracerId request fault =>
    simp only [Step.query] at h
    split at h <;> cases h
    next named =>
      have found : Names.provider id w = .ok (.recorder r) w := by
        simp [Names.provider, Names.find, run_bind, named]
      refine ⟨fault, ?_⟩
      rw [Script.perform, run_bind, found]
      rfl
  | globalGetTracer name version tracerId =>
    cases name with
    | none => cases h
    | some name =>
      simp only [Step.query] at h
      split at h <;> cases h
      next installed =>
        have found : Installed.provider "get_tracer" w = .ok (.recorder r) w := by
          simp [Installed.provider, run_bind, installed]
        refine ⟨none, ?_⟩
        rw [Script.perform, installedGetTracer_eq, bind_assoc, run_bind, found]
        rfl
  | _ => cases h

/-- A declined call gives the idle tracer. -/
theorem perform_declined (runner : Runner) (bound : Nat) (h : w.Spared unused w') {s : Step}
    (declined : s.isDeclined unused w = true) :
    ∃ v, Script.perform runner bound s w = .ok (.tracer (some .idle)) v ∧
      { v with log := w.log }.Spared unused w' := by
  unfold Step.isDeclined at declined
  split at declined
  next r request tracerId query =>
    rw [Bool.and_eq_true] at declined
    obtain ⟨declines, spare⟩ := declined
    obtain ⟨fault, performed⟩ := perform_query runner bound query
    obtain ⟨v, got, left⟩ := getTracer_declined w r fault declines
    have spared := h.of_leftAlone left
    rw [performed, run_bind, run_map, got]
    cases tracerId with
    | none => exact ⟨v, rfl, spared⟩
    | some id => exact ⟨_, rfl, spared.bind_unused spare _⟩
  · cases declined

end

/-! ## Runs without those calls -/

namespace Script

/-- The replies to steps, some of which are left out: those of the declined calls that `left` picks,
by the steps to come and by the world. Nothing stands in place of a reply to such a call. -/
def repliesWithout (left : List Step → World → Bool) (unused : Text → Bool) (runner : Runner)
    (bound : Nat) : List Step → World → List Reply × World
  | [], w => ([], w)
  | s :: rest, w =>
    let (first, w) :=
      if left (s :: rest) w && s.isDeclined unused w then ((.nothing, []), w)
      else reply runner bound s w
    let (others, w) := repliesWithout left unused runner bound rest w
    (first :: others, w)

/-- Run steps, hooks and bodies nested `fuel` levels deep at most, without those calls. -/
def runWithout (left : List Step → World → Bool) (unused : Text → Bool) : Nat → Runner
  | 0 => fun _ w => ([], w)
  | fuel + 1 => repliesWithout left unused (runWithout left unused fuel) fuel

end Script

section

variable {unused : Text → Bool} {runner runner' : Runner}

theorem reply_declined (runner : Runner) (bound : Nat) {w w' : World} (h : w.Spared unused w')
    {s : Step} (declined : s.isDeclined unused w = true) :
    (Script.reply runner bound s w).2.Spared unused w' ∧ ∀ {rest rest'},
      SparedReplies rest rest' →
        SparedReplies ((Script.reply runner bound s w).1 :: rest) ((.nothing, []) :: rest') := by
  have silent : { w with log := [] }.Spared unused { w' with log := [] } := { h with log := rfl }
  obtain ⟨v, performed, spared⟩ := perform_declined runner bound silent declined
  rw [Script.reply, performed]
  exact ⟨{ spared with log := h.log }, .left _⟩

theorem replies_spared (left : List Step → World → Bool)
    (hr : RunnersAgree (Step.SpansOther unused) SparedReplies (World.Spared unused) runner runner')
    (bound : Nat) {steps : List Step} (hs : Step.EveryIn (Step.SpansOther unused) steps)
    {w w' : World} (hw : w.Spared unused w') :
    (Script.replies runner bound steps w).2.Spared unused
        (Script.repliesWithout left unused runner' bound steps w').2 ∧
      SparedReplies (Script.replies runner bound steps w).1
        (Script.repliesWithout left unused runner' bound steps w').1 := by
  induction steps generalizing w w' with
  | nil => exact ⟨hw, .nil⟩
  | cons s rest ih =>
    rw [Script.replies, Script.repliesWithout]
    cases out : left (s :: rest) w' && s.isDeclined unused w' with
    | true =>
      rw [Bool.and_eq_true, hw.isDeclined_eq] at out
      obtain ⟨hw₁, first⟩ := reply_declined runner bound hw out.2
      obtain ⟨hw₂, others⟩ := ih hs.2 hw₁
      exact ⟨hw₂, first others⟩
    | false =>
      obtain ⟨hw₁, first⟩ := reply_agree rfl (perform_agree hr bound hs.1) hw
      obtain ⟨hw₂, others⟩ := ih hs.2 hw₁
      exact ⟨hw₂, first others⟩

end

/-- However deep hooks are nested, only counts tell whether declined calls were left out. -/
theorem runWithout_agree (left : List Step → World → Bool) (unused : Text → Bool) (fuel : Nat) :
    RunnersAgree (Step.SpansOther unused) SparedReplies (World.Spared unused)
      (Script.runWithin fuel) (Script.runWithout left unused fuel) := by
  induction fuel with
  | zero => exact fun _ _ => Agree.modifyGet fun _ _ h => ⟨h, .nil⟩
  | succ fuel ih =>
    intro steps hs
    exact Agree.modifyGet fun _ _ h => replies_spared left ih fuel hs h

/-! ## No trace -/

theorem World.Spared.start (unused : Text → Bool) (telemetryOff : Bool) :
    World.Spared unused { telemetryOff } { telemetryOff } where
  journal := .nil
  hooks _ := trivial

/-- Two runs, in the second of which calls were left out: the others were answered the same, and
processors received the same calls. -/
structure SparedRuns (unused : Text → Bool) (run run' : List Reply × World) : Prop where
  replies : SparedReplies run.1 run'.1
  calls : run'.2.calls = run.2.calls
  callsOf : ∀ q, List.Forall₂ SparedCall (run.2.callsOf q) (run'.2.callsOf q)
  world : run.2.Spared unused run'.2

/-- A request that is dropped or fails changes counts and the log alone. So any of the calls that
make such requests, in a program, in hooks or in bodies of spans, can be left out of a run or put
into one: nothing else is answered otherwise, and no other tracers are kept. -/
theorem declined_leave_no_trace :
    (∀ (w : World) (r : Ref Recorder) (request : Request) (fault : Option Failure),
      ((w.recorders.get r).Drops request ∨ ∃ e, (w.recorders.get r).Fails request e) →
        ∃ w', Recorder.getTracer r request fault w = .ok .idle w' ∧ w.LeftAlone w') ∧
      ∀ (unused : Text → Bool) (left : List Step → World → Bool) (program : List Step)
        (telemetryOff : Bool), Step.EveryIn (Step.SpansOther unused) program →
          SparedRuns unused (Script.run program { telemetryOff })
            (Script.runWithout left unused (Step.sizeAll program + 1) program
              { telemetryOff }) := by
  constructor
  · intro w r request fault before
    exact getTracer_declined w r fault (Recorder.declines_iff.mpr before)
  · intro unused left program telemetryOff used
    obtain ⟨spared, same⟩ := replies_spared left (runWithout_agree left unused _)
      (Step.sizeAll program) used (.start unused telemetryOff)
    exact { replies := same, calls := spared.calls, callsOf := spared.callsOf, world := spared }

/-- The first call of a flush asks for a suppressed tracer, and with a list for a version. -/
def decliningPipelines : List (PipelineSpec Step) :=
  [.make "a" (.str "a") (.scripted
    { onFlush := [[.getTracer "p" none (.identity { name := .str "noisy" }) none,
        .getTracer "p" (some "spare") (.identity { name := .str "x", version := .list [] }) none,
        .getTracer "p" (some "x") (.identity { name := .str "x" }) none]] })]

/-- Declined calls between requests for two tracers, of which only one is kept, and after the
shutdown. -/
def decliningProgram : List Step :=
  [.newProvider "p" (some [("suppressed_instrumentations", .list [.str "noisy"]),
      ("max_cached_tracers", .int 1)]) (some decliningPipelines) none none false,
    .getTracer "p" (some "spare") (.object "object" none none) none,
    .getTracer "p" (some "x") (.identity { name := .str "x" }) none,
    .getTracer "p" none (.identity { name := .str "noisy" }) none,
    .getTracer "p" (some "y") (.identity { name := .str "y" }) none,
    .span "y" (.str "s") (.str "INTERNAL") .null
      (some [.getTracer "p" (some "spare") (.object "object" none none) none]) none,
    .forceFlush "p",
    .setGlobal (some "p"),
    .globalGetTracer (some (.str "noisy")) none (some "spare"),
    .stats "p",
    .shutdown "p",
    .getTracer "p" (some "spare") (.identity { name := .str "x" }) none,
    .stats "p"]

def isSpare (id : Text) : Bool := id == "spare"

/-- Three calls of the program fail, and are left out with the suppressed and the late ones. -/
theorem declining_program_spared :
    (∃ w, Recorder.getTracer ⟨0⟩ (.identity { name := .str "noisy" }) none
      (Script.run (decliningProgram.take 1) {}).2 = .ok .idle w ∧
        (Script.run (decliningProgram.take 1) {}).2.LeftAlone w) ∧
    SparedRuns isSpare (Script.run decliningProgram {})
      (Script.runWithout (fun _ _ => true) isSpare (Step.sizeAll decliningProgram + 1)
        decliningProgram {}) ∧
    ((Script.run decliningProgram {}).2.recorders.get ⟨0⟩).failures = 3 ∧
    ((Script.runWithout (fun _ _ => true) isSpare (Step.sizeAll decliningProgram + 1)
      decliningProgram {}).2.recorders.get ⟨0⟩).failures = 0 := by
  have declines : ((Script.run (decliningProgram.take 1) {}).2.recorders.get ⟨0⟩).declines
      (.identity { name := .str "noisy" }) = true := by decide +kernel
  have used : Step.EveryIn (Step.SpansOther isSpare) decliningProgram := by
    simp [decliningProgram, decliningPipelines, Step.EveryIn, Step.EveryInside,
      Step.EveryInPipelines?, Step.EveryInPipelines, Step.EveryInPipeline, Step.EveryInProcessor,
      Step.EveryInScript, Step.EveryInHooks, Step.EveryInBody, Step.SpansOther]
    decide
  exact ⟨declined_leave_no_trace.1 _ _ _ none (Recorder.declines_iff.mp declines),
    declined_leave_no_trace.2 isSpare (fun _ _ => true) decliningProgram false used,
    by decide +kernel, by decide +kernel⟩

end Tracing
