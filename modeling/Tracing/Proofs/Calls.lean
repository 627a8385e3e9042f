import Tracing.Proofs.Operation

/-!
# Tracing.Proofs.Calls

What a call of a processor does, and what flushing and closing a pipeline come to.

* `World.called`    — the world in which a call has begun: it is entered and taken.
* `World.hooked`    — the same once the hook of the call has run.
* `Pipeline.report` — what a flush reports of the way in which the call of the processor ended.
* `Pipeline.flushEscape?`, `Pipeline.closeEscape?` — what escapes in place of that.
* `flush_closed`, `flush_open`, `flush_cut` — a flush of a pipeline, by cases.
* `close_closed`, `close_open`, `close_cut` — the same for closing it.
* `World.flushEscape?`, `World.flushReport`, `World.flushOver` — what escapes from a flush, else what
  it reports, and the world it leaves; `flush_error_iff`, `flush_ok` — a flush is just that.
* `World.closeEscape?`, `World.closeOver`, `close_error_iff`, `close_ok` — the same for closing.
-/

namespace Tracing

open Act

namespace World

def entered (w : World) (e : Event) : World := { w with journal := w.journal ++ [e] }

/-- A processor is called and is `x` then. -/
def called (w : World) (q : Ref Processor) (via : Option (Ref Pipeline)) (call : Call)
    (x : Processor) : World :=
  { w with
    journal := w.journal ++ [.called q via call]
    processors := w.processors.modify q fun _ => x }

/-- The hook of a call runs, if there is one. -/
def hooked (runner : Runner) (number : Nat) (hook : Option (List Step)) (w : World) : World :=
  match hook with
  | none => w
  | some steps => (runner steps w).2.entered (.answered number (runner steps w).1)

def shut (w : World) (p : Ref Pipeline) : World :=
  { w with pipelines := w.pipelines.modify p fun x => { x with closed := true } }

end World

namespace Delivery

theorem call_run (runner : Runner) (q : Ref Processor) (via : Option (Ref Pipeline)) (c : Call)
    (take : Processor → Reaction) (w : World) :
    Delivery.call runner q via c take w =
      match (take (w.processors.get q)).outcome with
      | .ok v => .ok v (World.hooked runner w.calls.length (take (w.processors.get q)).hook
          (w.called q via c (take (w.processors.get q)).processor))
      | .error e => .error e (World.hooked runner w.calls.length (take (w.processors.get q)).hook
          (w.called q via c (take (w.processors.get q)).processor)) := by
  rcases hr : take (w.processors.get q) with ⟨x, hook, outcome⟩
  cases hook <;> cases outcome <;> simp only [Delivery.call, begin, note, modifyProcessor, runHook,
    run_bind, run_get, run_modify, run_pure, hr] <;> rfl

end Delivery

namespace Pipeline

/-- What a flush reports, by the way in which the call of the processor ended. -/
def report (name timeout : Value) : Except Failure Value → FlushReport
  | .error e => .failed name (.exportFailed name e)
  | .ok v => if isTimeout v then .failed name (.exportTimedOut name timeout) else .success name

/-- A report made of the answer of a processor never says that the pipeline is closed. -/
theorem report_not_closed (name timeout n : Value) (outcome : Except Failure Value) :
    (report name timeout outcome).failure ≠ some (.pipelineClosed n) := by
  cases outcome with
  | error e => simp [report, FlushReport.failed]
  | ok v => cases ht : isTimeout v <;>
      simp [report, ht, FlushReport.failed, FlushReport.success]

theorem report_pipeline (name timeout : Value) (outcome : Except Failure Value) :
    (report name timeout outcome).pipeline = name := by
  cases outcome with
  | error e => rfl
  | ok v => cases ht : isTimeout v <;>
      simp [report, ht, FlushReport.failed, FlushReport.success]

/-- What escapes from the flush of an open pipeline, by the way in which the call of the processor
ended: an interruption, or the failure to put the record of the flush together. -/
def flushEscape? (name timeout : Value) : Except Failure Value → Option Failure
  | .error e => if e.isInterruption then some e else name.unwritten?.or e.unwritten?
  | .ok v => if isTimeout v then name.unwritten?.or timeout.unwritten? else name.unwritten?

/-- Every record of a flush names the pipeline. -/
theorem flushEscape?_written {name timeout : Value} {outcome : Except Failure Value}
    (h : flushEscape? name timeout outcome = none) : name.unwritten? = none := by
  unfold flushEscape? at h
  split at h
  · split at h
    · cases h
    · exact (Option.or_eq_none_iff.mp h).1
  · split at h
    · exact (Option.or_eq_none_iff.mp h).1
    · exact h

/-- The same for closing an open pipeline. -/
def closeEscape? (name : Value) : Except Failure Value → Option Failure
  | .error e => if e.isInterruption then some e else name.unwritten?.or e.unwritten?
  | .ok _ => name.unwritten?

variable {runner : Runner} {p : Ref Pipeline} {timeout : Value} {w : World}

/-- How the processor of a pipeline takes a flush. -/
def flushReaction (w : World) (p : Ref Pipeline) : Reaction :=
  (w.processors.get (w.pipelines.get p).processor).onForceFlush

def closeReaction (w : World) (p : Ref Pipeline) : Reaction :=
  (w.processors.get (w.pipelines.get p).processor).onShutdown

/-- The call that a flush of an open pipeline makes has begun. -/
def flushBegun (w : World) (p : Ref Pipeline) (timeout : Value) : World :=
  w.called (w.pipelines.get p).processor (some p) (.forceFlush timeout)
    (flushReaction w p).processor

def closeBegun (w : World) (p : Ref Pipeline) : World :=
  (w.shut p).called (w.pipelines.get p).processor (some p) .shutdown (closeReaction w p).processor

/-- The call that a flush of an open pipeline makes is over. -/
def flushEnded (runner : Runner) (w : World) (p : Ref Pipeline) (timeout : Value) : World :=
  World.hooked runner w.calls.length (flushReaction w p).hook (flushBegun w p timeout)

def closeEnded (runner : Runner) (w : World) (p : Ref Pipeline) : World :=
  World.hooked runner w.calls.length (closeReaction w p).hook (closeBegun w p)

theorem has_of_open (h : (w.pipelines.get p).closed = false) : w.pipelines.Has p := by
  by_cases hp : w.pipelines.Has p
  · exact hp
  · rw [Store.get_of_not_has hp] at h
    cases h

theorem closeBegun_closed (h : (w.pipelines.get p).closed = false) :
    ((closeBegun w p).pipelines.get p).closed = true :=
  congrArg Pipeline.closed (w.pipelines.get_modify_self _ (has_of_open h))

theorem forceFlush_run (runner : Runner) (w : World) (p : Ref Pipeline) (timeout : Value) :
    Delivery.forceFlush runner (w.pipelines.get p).processor (some p) timeout w =
      match (flushReaction w p).outcome with
      | .ok v => .ok v (flushEnded runner w p timeout)
      | .error e => .error e (flushEnded runner w p timeout) :=
  Delivery.call_run runner _ _ _ _ w

theorem shutdown_run (runner : Runner) (w : World) (p : Ref Pipeline) :
    Delivery.shutdown runner (w.pipelines.get p).processor (some p) (w.shut p) =
      match (closeReaction w p).outcome with
      | .ok v => .ok v (closeEnded runner w p)
      | .error e => .error e (closeEnded runner w p) :=
  Delivery.call_run runner _ _ _ _ (w.shut p)

theorem flush_closed (h : (w.pipelines.get p).closed = true)
    (named : (w.pipelines.get p).name.unwritten? = none) :
    Pipeline.flush runner p timeout w =
      .ok (.failed (w.pipelines.get p).name (.pipelineClosed (w.pipelines.get p).name)) w := by
  simp [Pipeline.flush, run_bind, run_map, h, run_compose, Value.wording, named]

theorem flush_unnamed {e : Failure} (h : (w.pipelines.get p).closed = true)
    (unnamed : (w.pipelines.get p).name.unwritten? = some e) :
    Pipeline.flush runner p timeout w = .error e w := by
  simp [Pipeline.flush, run_bind, run_map, h, run_compose, Value.wording, unnamed]

/-- A flush gives a report when the call is over, whatever it ended with, unless something escapes. -/
theorem flush_run (runner : Runner) (timeout : Value) (h : (w.pipelines.get p).closed = false) :
    ∃ log, Pipeline.flush runner p timeout w =
      match flushEscape? (w.pipelines.get p).name timeout (flushReaction w p).outcome with
      | none => .ok (report (w.pipelines.get p).name timeout (flushReaction w p).outcome)
          { flushEnded runner w p timeout with log }
      | some e => .error e (flushEnded runner w p timeout) := by
  have hf := forceFlush_run runner w p timeout
  cases ho : (flushReaction w p).outcome with
  | error e =>
    rw [ho] at hf
    cases hi : e.isInterruption with
    | true => exact ⟨[], by simp [Pipeline.flush, run_bind, h, run_attempt_error hf, hi, flushEscape?]⟩
    | false =>
      cases ht : (w.pipelines.get p).name.unwritten?.or e.unwritten? <;>
        simp [Pipeline.flush, run_bind, run_map, h, run_attempt_error hf, hi, flushEscape?, run_say,
          Value.wording, Failure.wording, ht, report]
  | ok v =>
    rw [ho] at hf
    cases hi : isTimeout v with
    | true =>
      cases ht : (w.pipelines.get p).name.unwritten?.or timeout.unwritten? <;>
        simp [Pipeline.flush, run_bind, run_map, h, run_attempt_ok hf, hi, flushEscape?, run_say,
          Value.wording, ht, report]
    | false =>
      cases ht : (w.pipelines.get p).name.unwritten? <;>
        simp [Pipeline.flush, run_bind, run_map, h, run_attempt_ok hf, hi, flushEscape?, run_say,
          Value.wording, ht, report]

theorem flush_open (runner : Runner) (timeout : Value) (h : (w.pipelines.get p).closed = false)
    (hi : flushEscape? (w.pipelines.get p).name timeout (flushReaction w p).outcome = none) :
    ∃ log, Pipeline.flush runner p timeout w =
      .ok (report (w.pipelines.get p).name timeout (flushReaction w p).outcome)
        { flushEnded runner w p timeout with log } := by
  obtain ⟨log, hrun⟩ := flush_run runner timeout h
  exact ⟨log, by rw [hrun, hi]⟩

theorem flush_cut {e : Failure} (h : (w.pipelines.get p).closed = false)
    (hi : flushEscape? (w.pipelines.get p).name timeout (flushReaction w p).outcome = some e) :
    Pipeline.flush runner p timeout w = .error e (flushEnded runner w p timeout) := by
  obtain ⟨log, hrun⟩ := flush_run runner timeout h
  rw [hrun, hi]

theorem close_closed (h : (w.pipelines.get p).closed = true) :
    Pipeline.close runner p w = .ok () w := by
  simp [Pipeline.close, run_bind, h]

theorem close_run (runner : Runner) (h : (w.pipelines.get p).closed = false) :
    ∃ log, Pipeline.close runner p w =
      match closeEscape? (w.pipelines.get p).name (closeReaction w p).outcome with
      | none => .ok () { closeEnded runner w p with log }
      | some e => .error e (closeEnded runner w p) := by
  have hf := shutdown_run runner w p
  rw [World.shut] at hf
  cases ho : (closeReaction w p).outcome with
  | error e =>
    rw [ho] at hf
    cases hi : e.isInterruption with
    | true =>
      exact ⟨[], by simp [Pipeline.close, modifyPipeline, run_bind, h, run_attempt_error hf, hi,
        closeEscape?]⟩
    | false =>
      cases ht : (w.pipelines.get p).name.unwritten?.or e.unwritten? <;>
        simp [Pipeline.close, modifyPipeline, run_bind, h, run_attempt_error hf, hi, closeEscape?,
          run_say, Value.wording, Failure.wording, ht]
  | ok v =>
    rw [ho] at hf
    cases ht : (w.pipelines.get p).name.unwritten? <;>
      simp [Pipeline.close, modifyPipeline, run_bind, h, run_attempt_ok hf, closeEscape?, run_say,
        Value.wording, ht]

theorem close_open (runner : Runner) (h : (w.pipelines.get p).closed = false)
    (hi : closeEscape? (w.pipelines.get p).name (closeReaction w p).outcome = none) :
    ∃ log, Pipeline.close runner p w = .ok () { closeEnded runner w p with log } := by
  obtain ⟨log, hrun⟩ := close_run runner h
  exact ⟨log, by rw [hrun, hi]⟩

theorem close_cut {e : Failure} (h : (w.pipelines.get p).closed = false)
    (hi : closeEscape? (w.pipelines.get p).name (closeReaction w p).outcome = some e) :
    Pipeline.close runner p w = .error e (closeEnded runner w p) := by
  obtain ⟨log, hrun⟩ := close_run runner h
  rw [hrun, hi]

end Pipeline

/-! ## All cases in one -/

namespace World

/-- The report of a closed pipeline. -/
def refusal (w : World) (p : Ref Pipeline) : FlushReport :=
  .failed (w.pipelines.get p).name (.pipelineClosed (w.pipelines.get p).name)

/-- What a flush of a pipeline reports unless something escapes from it. -/
def flushReport (w : World) (p : Ref Pipeline) (timeout : Value) : FlushReport :=
  if (w.pipelines.get p).closed then w.refusal p
  else Pipeline.report (w.pipelines.get p).name timeout (Pipeline.flushReaction w p).outcome

/-- What escapes from a flush of a pipeline. The report of a closed one names it. -/
def flushEscape? (w : World) (p : Ref Pipeline) (timeout : Value) : Option Failure :=
  if (w.pipelines.get p).closed then (w.pipelines.get p).name.unwritten?
  else Pipeline.flushEscape? (w.pipelines.get p).name timeout (Pipeline.flushReaction w p).outcome

/-- A flush of a pipeline is over. -/
def flushOver (runner : Runner) (w : World) (p : Ref Pipeline) (timeout : Value) : World :=
  if (w.pipelines.get p).closed then w else Pipeline.flushEnded runner w p timeout

/-- What escapes when a pipeline is closed. A second time nothing is done. -/
def closeEscape? (w : World) (p : Ref Pipeline) : Option Failure :=
  if (w.pipelines.get p).closed then none
  else Pipeline.closeEscape? (w.pipelines.get p).name (Pipeline.closeReaction w p).outcome

def closeOver (runner : Runner) (w : World) (p : Ref Pipeline) : World :=
  if (w.pipelines.get p).closed then w else Pipeline.closeEnded runner w p

end World

section

variable {runner : Runner} {p : Ref Pipeline} {timeout : Value} {w w' : World} {e : Failure}

theorem flush_cases (runner : Runner) (w : World) (p : Ref Pipeline) (timeout : Value) :
    ∃ log, Pipeline.flush runner p timeout w =
      match w.flushEscape? p timeout with
      | none => .ok (w.flushReport p timeout) { w.flushOver runner p timeout with log }
      | some e => .error e (w.flushOver runner p timeout) := by
  unfold World.flushEscape? World.flushReport World.flushOver
  cases hc : (w.pipelines.get p).closed with
  | false => exact Pipeline.flush_run runner timeout hc
  | true =>
    refine ⟨w.log, ?_⟩
    cases hu : (w.pipelines.get p).name.unwritten? with
    | none => exact Pipeline.flush_closed hc hu
    | some e => exact Pipeline.flush_unnamed hc hu

theorem flush_error_iff : Pipeline.flush runner p timeout w = .error e w' ↔
    w.flushEscape? p timeout = some e ∧ w' = w.flushOver runner p timeout := by
  obtain ⟨log, hrun⟩ := flush_cases runner w p timeout
  rw [hrun]
  cases w.flushEscape? p timeout with
  | none => simp
  | some e' => simp [eq_comm]

theorem flush_ok {report : FlushReport} (h : Pipeline.flush runner p timeout w = .ok report w') :
    w.flushEscape? p timeout = none ∧ report = w.flushReport p timeout ∧
      ∃ log, w' = { w.flushOver runner p timeout with log } := by
  obtain ⟨log, hrun⟩ := flush_cases runner w p timeout
  rw [hrun] at h
  cases he : w.flushEscape? p timeout with
  | none =>
    rw [he] at h
    obtain ⟨hreport, hafter⟩ := EStateM.Result.ok.inj h
    exact ⟨rfl, hreport.symm, log, hafter.symm⟩
  | some e =>
    rw [he] at h
    cases h

theorem World.flushReport_pipeline (w : World) (p : Ref Pipeline) (timeout : Value) :
    (w.flushReport p timeout).pipeline = (w.pipelines.get p).name := by
  unfold World.flushReport
  split
  · rfl
  · exact Pipeline.report_pipeline ..

/-- What a flush reports of names a pipeline with a text. -/
theorem flush_ok_written {report : FlushReport}
    (h : Pipeline.flush runner p timeout w = .ok report w') : report.pipeline.unwritten? = none := by
  obtain ⟨unescaped, rfl, -⟩ := flush_ok h
  rw [World.flushReport_pipeline]
  unfold World.flushEscape? at unescaped
  split at unescaped
  · exact unescaped
  · exact Pipeline.flushEscape?_written unescaped

theorem close_cases (runner : Runner) (w : World) (p : Ref Pipeline) :
    ∃ log, Pipeline.close runner p w =
      match w.closeEscape? p with
      | none => .ok () { w.closeOver runner p with log }
      | some e => .error e (w.closeOver runner p) := by
  unfold World.closeEscape? World.closeOver
  cases hc : (w.pipelines.get p).closed with
  | false => exact Pipeline.close_run runner hc
  | true => exact ⟨w.log, Pipeline.close_closed hc⟩

theorem close_error_iff : Pipeline.close runner p w = .error e w' ↔
    w.closeEscape? p = some e ∧ w' = w.closeOver runner p := by
  obtain ⟨log, hrun⟩ := close_cases runner w p
  rw [hrun]
  cases w.closeEscape? p with
  | none => simp
  | some e' => simp [eq_comm]

theorem close_ok (h : Pipeline.close runner p w = .ok () w') :
    w.closeEscape? p = none ∧ ∃ log, w' = { w.closeOver runner p with log } := by
  obtain ⟨log, hrun⟩ := close_cases runner w p
  rw [hrun] at h
  cases he : w.closeEscape? p with
  | none =>
    rw [he] at h
    obtain ⟨-, hafter⟩ := EStateM.Result.ok.inj h
    exact ⟨rfl, log, hafter.symm⟩
  | some e =>
    rw [he] at h
    cases h

/-! ## What escapes -/

/-- The text of a value or of a failure is missing for no interruption. -/
theorem Value.unwritten?_calm {v : Value} (h : v.unwritten? = some e) : e.isInterruption = false :=
  (Failure.escape?_eq_none.mp (Value.unwritten?_escape? h)).1

theorem Failure.unwritten?_calm {fault : Failure} (h : e.unwritten? = some fault) :
    fault.isInterruption = false :=
  (Failure.escape?_eq_none.mp (Failure.unwritten?_escape? h)).1

namespace Pipeline

variable {name : Value} {outcome : Except Failure Value}

/-- An interruption that escapes from a flush is the one that the processor raised. -/
theorem flushEscape?_interruption (h : flushEscape? name timeout outcome = some e)
    (hi : e.isInterruption = true) : outcome = .error e := by
  cases outcome with
  | ok v =>
    unfold flushEscape? at h
    dsimp only at h
    split at h
    · rcases Option.or_eq_some_iff.mp h with h | ⟨-, h⟩ <;>
        simp [Value.unwritten?_calm h] at hi
    · simp [Value.unwritten?_calm h] at hi
  | error e' =>
    unfold flushEscape? at h
    dsimp only at h
    split at h
    · cases h
      rfl
    · rcases Option.or_eq_some_iff.mp h with h | ⟨-, h⟩
      · simp [Value.unwritten?_calm h] at hi
      · simp [Failure.unwritten?_calm h] at hi

theorem closeEscape?_interruption (h : closeEscape? name outcome = some e)
    (hi : e.isInterruption = true) : outcome = .error e := by
  cases outcome with
  | ok v => simp [Value.unwritten?_calm h] at hi
  | error e' =>
    unfold closeEscape? at h
    dsimp only at h
    split at h
    · cases h
      rfl
    · rcases Option.or_eq_some_iff.mp h with h | ⟨-, h⟩
      · simp [Value.unwritten?_calm h] at hi
      · simp [Failure.unwritten?_calm h] at hi

end Pipeline

theorem World.flushEscape?_interruption (h : w.flushEscape? p timeout = some e)
    (hi : e.isInterruption = true) : (w.pipelines.get p).closed = false ∧
      (Pipeline.flushReaction w p).outcome = .error e := by
  unfold World.flushEscape? at h
  split at h
  · simp [Value.unwritten?_calm h] at hi
  next hc => exact ⟨by simpa using hc, Pipeline.flushEscape?_interruption h hi⟩

theorem World.closeEscape?_open (h : w.closeEscape? p = some e) :
    (w.pipelines.get p).closed = false := by
  unfold World.closeEscape? at h
  split at h
  · cases h
  next hc => simpa using hc

theorem World.closeEscape?_interruption (h : w.closeEscape? p = some e)
    (hi : e.isInterruption = true) : (Pipeline.closeReaction w p).outcome = .error e := by
  have isOpen := World.closeEscape?_open h
  simp only [World.closeEscape?, isOpen, Bool.false_eq_true, if_false] at h
  exact Pipeline.closeEscape?_interruption h hi

end

end Tracing
