import Tracing.Proofs.CutShort
import Tracing.Proofs.LatePipelines

/-!
# Tracing.Proofs.Escapes

What escapes from flushes and shutdowns of recorders whose processors have no hooks: interruptions,
and what goes wrong when a record or a report is put together.

* `PipelineCall`, `World.havingAll` — the calls that are to be made, in order, and the world once they
  are made; a pipeline that is closed at its turn makes none.
* `World.escape?` — what escapes at the turn of a call; `World.CutOff` — the first such turn of a plan.
* `Plays`         — an operation makes the calls of a plan up to the first one from which something
  escapes, and fails by that. `Plays.bind` — plans are composed as operations are.
* `first_escape`  — flushes and shutdowns of recorders play the calls of their pipelines.
-/

namespace Tracing

open Act

/-- Whether no call of a processor in this role runs steps. -/
def Role.isUnhooked : Role → Bool
  | .scripted script => script.onFlush.isEmpty && script.onShutdown.isEmpty
  | _ => true

namespace Processor

variable {x : Processor}

theorem onForceFlush_unhooked (h : x.role.isUnhooked = true) : x.onForceFlush.hook = none := by
  unfold onForceFlush
  split
  next script hr =>
    rw [hr] at h
    have none : script.onFlush = [] := by simpa using (Bool.and_eq_true_iff.mp h).1
    simp [none]
  all_goals rfl

theorem onShutdown_unhooked (h : x.role.isUnhooked = true) : x.onShutdown.hook = none := by
  unfold onShutdown
  split
  next script hr =>
    rw [hr] at h
    have none : script.onShutdown = [] := by simpa using (Bool.and_eq_true_iff.mp h).2
    simp [none]
  all_goals rfl

end Processor

/-! ## Plans of calls -/

/-- A call of the processor of a pipeline, through the pipeline. -/
inductive PipelineCall where
  | flush (p : Ref Pipeline) (timeout : Value)
  | close (p : Ref Pipeline)

namespace PipelineCall

def pipeline : PipelineCall → Ref Pipeline
  | .flush p _ => p
  | .close p => p

def reaction (w : World) : PipelineCall → Reaction
  | .flush p _ => Pipeline.flushReaction w p
  | .close p => Pipeline.closeReaction w p

def begun (w : World) : PipelineCall → World
  | .flush p timeout => Pipeline.flushBegun w p timeout
  | .close p => Pipeline.closeBegun w p

end PipelineCall

namespace World

/-- The world after the turn of a call. A closed pipeline does not make it. -/
def having (w : World) (c : PipelineCall) : World :=
  if (w.pipelines.get c.pipeline).closed then w else c.begun w

def havingAll (w : World) (cs : List PipelineCall) : World := cs.foldl having w

/-- What escapes at the turn of a call. -/
def escape? (w : World) : PipelineCall → Option Failure
  | .flush p timeout => w.flushEscape? p timeout
  | .close p => w.closeEscape? p

/-- Nothing escapes at the turn of any call of a plan. -/
def Undisturbed : World → List PipelineCall → Prop
  | _, [] => True
  | w, c :: rest => w.escape? c = none ∧ (w.having c).Undisturbed rest

/-- Of the calls of a plan `c` is the first one at whose turn something escapes, namely `e`. -/
structure CutOff (w : World) (plan before : List PipelineCall) (c : PipelineCall)
    (rest : List PipelineCall) (e : Failure) : Prop where
  split : plan = before ++ c :: rest
  earlier : w.Undisturbed before
  escapes : (w.havingAll before).escape? c = some e

/-- The calls of a flush of a recorder. -/
def flushPlan (w : World) (r : Ref Recorder) : List PipelineCall :=
  (w.recorders.get r).pipelines.map (.flush · (w.timeoutOf r))

/-- The calls of the first shutdown of a recorder. -/
def shutdownPlan (w : World) (r : Ref Recorder) : List PipelineCall :=
  (w.recorders.get r).pipelines.flatMap fun p => [.flush p (w.timeoutOf r), .close p]

variable {w w' : World} {c : PipelineCall} {plan plan' before rest : List PipelineCall} {e : Failure}

theorem havingAll_cons (w : World) (c : PipelineCall) (cs : List PipelineCall) :
    w.havingAll (c :: cs) = (w.having c).havingAll cs := rfl

theorem havingAll_append (w : World) (cs ds : List PipelineCall) :
    w.havingAll (cs ++ ds) = (w.havingAll cs).havingAll ds := List.foldl_append

theorem undisturbed_append :
    w.Undisturbed (plan ++ plan') ↔ w.Undisturbed plan ∧ (w.havingAll plan).Undisturbed plan' := by
  induction plan generalizing w with
  | nil => simp [Undisturbed, havingAll]
  | cons c cs ih => simp [Undisturbed, ih, havingAll_cons, and_assoc]

theorem CutOff.not_undisturbed (h : w.CutOff plan before c rest e) : ¬ w.Undisturbed plan := by
  rw [h.split, undisturbed_append]
  intro hu
  have quiet := hu.2.1
  rw [h.escapes] at quiet
  cases quiet

theorem CutOff.append (h : w.CutOff plan before c rest e) (more : List PipelineCall) :
    w.CutOff (plan ++ more) before c (rest ++ more) e where
  split := by simp [h.split]
  earlier := h.earlier
  escapes := h.escapes

theorem CutOff.after (h : (w.havingAll plan).CutOff plan' before c rest e)
    (earlier : w.Undisturbed plan) : w.CutOff (plan ++ plan') (plan ++ before) c rest e where
  split := by simp [h.split]
  earlier := undisturbed_append.mpr ⟨earlier, h.earlier⟩
  escapes := by
    rw [havingAll_append]
    exact h.escapes

/-- An interruption is what the processor of an open pipeline raised. -/
theorem escape?_interruption (h : w.escape? c = some e) (hi : e.isInterruption = true) :
    (w.pipelines.get c.pipeline).closed = false ∧ (c.reaction w).outcome = .error e := by
  cases c with
  | flush p timeout => exact flushEscape?_interruption h hi
  | close p => exact ⟨closeEscape?_open h, closeEscape?_interruption h hi⟩

/-! What is logged makes no difference to calls. -/

/-- Another world that differs in its log at most. -/
def SameButLog (w w' : World) : Prop := ∃ log, w' = { w with log }

namespace SameButLog

theorem of_eq (h : w = w') : w.SameButLog w' := ⟨w.log, h.symm⟩

theorem trans {w'' : World} (h : w.SameButLog w') (h' : w'.SameButLog w'') : w.SameButLog w'' := by
  obtain ⟨_, rfl⟩ := h
  obtain ⟨log, rfl⟩ := h'
  exact ⟨log, rfl⟩

theorem having (h : w.SameButLog w') (c : PipelineCall) :
    (w.having c).SameButLog (w'.having c) := by
  obtain ⟨log, rfl⟩ := h
  refine ⟨log, ?_⟩
  unfold World.having
  split
  · rfl
  · cases c <;> rfl

theorem havingAll (h : w.SameButLog w') (cs : List PipelineCall) :
    (w.havingAll cs).SameButLog (w'.havingAll cs) := by
  induction cs generalizing w w' with
  | nil => exact h
  | cons c cs ih => exact ih (h.having c)

theorem escape? (h : w.SameButLog w') : w'.escape? c = w.escape? c := by
  obtain ⟨log, rfl⟩ := h
  cases c <;> rfl

theorem undisturbed (h : w.SameButLog w') : w'.Undisturbed plan ↔ w.Undisturbed plan := by
  induction plan generalizing w w' with
  | nil => exact Iff.rfl
  | cons c cs ih => simp only [Undisturbed, h.escape?, ih (h.having c)]

theorem cutOff (h : w.SameButLog w') (cut : w'.CutOff plan before c rest e) :
    w.CutOff plan before c rest e where
  split := cut.split
  earlier := h.undisturbed.mp cut.earlier
  escapes := (h.havingAll before).escape? ▸ cut.escapes

end SameButLog

/-! ## What calls leave as it was -/

theorem having_shape (w : World) (c : PipelineCall) : w.SameShape (w.having c) := by
  unfold having
  split
  · exact .refl w
  · cases c with
    | flush p timeout => exact flushBegun_shape p timeout
    | close p => exact closeBegun_shape p

theorem havingAll_shape (w : World) (cs : List PipelineCall) : w.SameShape (w.havingAll cs) := by
  induction cs generalizing w with
  | nil => exact .refl w
  | cons c cs ih => exact (having_shape w c).trans (ih _)

theorem SameShape.roleOf (h : w.SameShape w') (p : Ref Pipeline) : w'.roleOf p = w.roleOf p := by
  rw [World.roleOf, h.role, h.processor, World.roleOf]

theorem having_recorders (w : World) (c : PipelineCall) : (w.having c).recorders = w.recorders := by
  unfold having
  split
  · rfl
  · cases c <;> rfl

theorem havingAll_recorders (w : World) (cs : List PipelineCall) :
    (w.havingAll cs).recorders = w.recorders := by
  induction cs generalizing w with
  | nil => rfl
  | cons c cs ih => rw [havingAll_cons, ih, having_recorders]

theorem havingAll_timeoutOf (w : World) (cs : List PipelineCall) (r : Ref Recorder) :
    (w.havingAll cs).timeoutOf r = w.timeoutOf r := by
  rw [timeoutOf, havingAll_recorders, timeoutOf]

/-- A call closes its pipeline if it is a shutdown, and no pipeline else. -/
theorem having_closed (w : World) (c : PipelineCall) (q : Ref Pipeline) :
    ((w.having c).pipelines.get q).closed = true ↔
      (w.pipelines.get q).closed = true ∨ c = .close q := by
  unfold having
  split
  next closed =>
    refine ⟨.inl, ?_⟩
    rintro (hq | rfl)
    · exact hq
    · exact closed
  next isOpen =>
    cases c with
    | flush p timeout => simp [PipelineCall.begun, Pipeline.flushBegun, called]
    | close p =>
      have has : w.pipelines.Has p := Pipeline.has_of_open (Bool.eq_false_iff.mpr isOpen)
      by_cases hq : q = p
      · subst hq
        simp [PipelineCall.begun, Pipeline.closeBegun, called, shut,
          w.pipelines.get_modify_self _ has]
      · simp [PipelineCall.begun, Pipeline.closeBegun, called, shut,
          w.pipelines.get_modify_ne _ hq, Ne.symm hq]

theorem havingAll_closed (w : World) (cs : List PipelineCall) (q : Ref Pipeline) :
    ((w.havingAll cs).pipelines.get q).closed = true ↔
      (w.pipelines.get q).closed = true ∨ .close q ∈ cs := by
  induction cs generalizing w with
  | nil => simp [havingAll]
  | cons c cs ih => rw [havingAll_cons, ih, having_closed, List.mem_cons, or_assoc, eq_comm (a := c)]

/-- Flushes leave all pipelines as they are. -/
theorem havingAll_pipelines {cs : List PipelineCall} (h : ∀ c ∈ cs, ∀ p, c ≠ .close p) :
    (w.havingAll cs).pipelines = w.pipelines := by
  induction cs generalizing w with
  | nil => rfl
  | cons c cs ih =>
    rw [havingAll_cons, ih fun d hd => h d (List.mem_cons_of_mem c hd)]
    unfold having
    split
    · rfl
    · cases c with
      | flush p timeout => rfl
      | close p => exact absurd rfl (h _ List.mem_cons_self p)

end World

/-! ## Operations that play a plan -/

/-- From `w` the operation makes the calls of a plan. It fails by the first failure that escapes from
one of them and makes no more of them then. -/
def Plays {α : Type} (plan : List PipelineCall) (x : Act α) (w : World) : Prop :=
  match x w with
  | .ok _ w' => w.Undisturbed plan ∧ (w.havingAll plan).SameButLog w'
  | .error e w' => ∃ before c rest, w.CutOff plan before c rest e ∧
      (w.havingAll (before ++ [c])).SameButLog w'

section

variable {α β : Type} {x : Act α} {f : α → Act β} {plan plan' : List PipelineCall}
  {c : PipelineCall} {runner : Runner} {r : Ref Recorder} {p : Ref Pipeline} {w w' : World}
  {e : Failure}

theorem Plays.of_ok {a : α} (hx : x w = .ok a w') (h : w.Undisturbed plan)
    (same : (w.havingAll plan).SameButLog w') : Plays plan x w := by
  rw [Plays, hx]
  exact ⟨h, same⟩

theorem Plays.pure (a : α) : Plays [] (pure a) w := .of_ok rfl trivial (.of_eq rfl)

/-- The only call of a plan is not made, or nothing escapes from it. -/
theorem Plays.one {a : α} (hx : x w = .ok a w') (h : w.escape? c = none)
    (same : (w.having c).SameButLog w') : Plays [c] x w :=
  .of_ok hx ⟨h, trivial⟩ same

theorem Plays.one_cut (hx : x w = .error e w') (h : w.escape? c = some e)
    (same : (w.having c).SameButLog w') : Plays [c] x w := by
  rw [Plays, hx]
  exact ⟨[], c, [], ⟨rfl, trivial, h⟩, same⟩

theorem Plays.bind (hx : Plays plan x w)
    (hf : ∀ a w', (w.havingAll plan).SameButLog w' → Plays plan' (f a) w') :
    Plays (plan ++ plan') (x >>= f) w := by
  rw [Plays] at hx ⊢
  rw [run_bind]
  cases hrun : x w with
  | error e w₁ =>
    simp only [hrun] at hx ⊢
    obtain ⟨before, c, rest, cut, same⟩ := hx
    exact ⟨before, c, _, cut.append plan', same⟩
  | ok a w₁ =>
    simp only [hrun] at hx ⊢
    obtain ⟨undisturbed, same⟩ := hx
    have later := hf a w₁ same
    rw [Plays] at later
    cases hrun' : f a w₁ with
    | error e w₂ =>
      simp only [hrun'] at later ⊢
      obtain ⟨before, c, rest, cut, same'⟩ := later
      refine ⟨plan ++ before, c, rest, (same.cutOff cut).after undisturbed, ?_⟩
      rw [List.append_assoc, World.havingAll_append]
      exact (same.havingAll _).trans same'
    | ok b w₂ =>
      simp only [hrun'] at later ⊢
      obtain ⟨undisturbed', same'⟩ := later
      refine ⟨World.undisturbed_append.mpr ⟨undisturbed, same.undisturbed.mp undisturbed'⟩, ?_⟩
      rw [World.havingAll_append]
      exact (same.havingAll plan').trans same'

/-- What is logged and given in the end is no part of the plan. -/
theorem Plays.bind_logging (hx : Plays plan x w)
    (hf : ∀ a w', ∃ b w'', f a w' = .ok b w'' ∧ w'.SameButLog w'') : Plays plan (x >>= f) w := by
  have whole : Plays (plan ++ []) (x >>= f) w := hx.bind fun a w' _ => by
    obtain ⟨b, w'', hrun, same⟩ := hf a w'
    exact .of_ok hrun trivial same
  rwa [List.append_nil] at whole

/-- It fails exactly if something escapes from a call of the plan. -/
theorem Plays.fails_iff (h : Plays plan x w) : (∃ e w', x w = .error e w') ↔
    ∃ before c rest e, w.CutOff plan before c rest e := by
  rw [Plays] at h
  cases hrun : x w with
  | error e w' =>
    simp only [hrun] at h
    obtain ⟨before, c, rest, cut, -⟩ := h
    exact iff_of_true ⟨e, w', rfl⟩ ⟨before, c, rest, e, cut⟩
  | ok a w' =>
    simp only [hrun] at h
    refine iff_of_false (by simp) ?_
    rintro ⟨before, c, rest, e, cut⟩
    exact cut.not_undisturbed h.1

theorem Plays.of_error (h : Plays plan x w) (hx : x w = .error e w') :
    ∃ before c rest, w.CutOff plan before c rest e ∧
      (w.havingAll (before ++ [c])).SameButLog w' := by
  rwa [Plays, hx] at h

/-- Whether it fails or not, some calls of the plan have been made. -/
theorem Plays.after (h : Plays plan x w) :
    ∃ made, made <+: plan ∧ (w.havingAll made).SameButLog (x.after w) := by
  rw [Plays] at h
  cases hrun : x w with
  | error e w' =>
    simp only [hrun] at h
    obtain ⟨before, c, rest, cut, same⟩ := h
    rw [after_of_error hrun]
    exact ⟨before ++ [c], ⟨rest, by simp [cut.split]⟩, same⟩
  | ok a w' =>
    simp only [hrun] at h
    rw [after_of_ok hrun]
    exact ⟨plan, List.prefix_rfl, h.2⟩

/-! ## Pipelines -/

theorem flush_plays (runner : Runner) (timeout : Value) (unhooked : (w.roleOf p).isUnhooked = true) :
    Plays [.flush p timeout] (Pipeline.flush runner p timeout) w := by
  have none : (Pipeline.flushReaction w p).hook = none := Processor.onForceFlush_unhooked unhooked
  have ended : w.having (.flush p timeout) = w.flushOver runner p timeout := by
    rw [World.flushOver, Pipeline.flushEnded, none]
    rfl
  cases hrun : Pipeline.flush runner p timeout w with
  | error e w' =>
    obtain ⟨escapes, rfl⟩ := flush_error_iff.mp hrun
    exact .one_cut hrun escapes (.of_eq ended)
  | ok report w' =>
    obtain ⟨unescaped, -, log, rfl⟩ := flush_ok hrun
    exact .one hrun unescaped ⟨log, by rw [ended]⟩

theorem close_plays (runner : Runner) (unhooked : (w.roleOf p).isUnhooked = true) :
    Plays [.close p] (Pipeline.close runner p) w := by
  have none : (Pipeline.closeReaction w p).hook = none := Processor.onShutdown_unhooked unhooked
  have ended : w.having (.close p) = w.closeOver runner p := by
    rw [World.closeOver, Pipeline.closeEnded, none]
    rfl
  cases hrun : Pipeline.close runner p w with
  | error e w' =>
    obtain ⟨escapes, rfl⟩ := close_error_iff.mp hrun
    exact .one_cut hrun escapes (.of_eq ended)
  | ok _ w' =>
    obtain ⟨unescaped, log, rfl⟩ := close_ok hrun
    exact .one hrun unescaped ⟨log, by rw [ended]⟩

/-! ## Recorders -/

/-- No processor of some pipelines has hooks, and that stays so. -/
theorem unhooked_later {ps : List (Ref Pipeline)} {cs : List PipelineCall}
    (h : ∀ p ∈ ps, (w.roleOf p).isUnhooked = true) (same : (w.havingAll cs).SameButLog w') :
    ∀ p ∈ ps, (w'.roleOf p).isUnhooked = true := by
  obtain ⟨log, rfl⟩ := same
  intro p hp
  have role : (w.havingAll cs).roleOf p = w.roleOf p := (World.havingAll_shape w cs).roleOf p
  exact (congrArg Role.isUnhooked role).trans (h p hp)

theorem timeoutOf_later {cs : List PipelineCall} (same : (w.havingAll cs).SameButLog w')
    (r : Ref Recorder) : w'.timeoutOf r = w.timeoutOf r := by
  obtain ⟨log, rfl⟩ := same
  exact World.havingAll_timeoutOf w cs r

theorem flushAll_plays (runner : Runner) (r : Ref Recorder) {ps : List (Ref Pipeline)}
    (unhooked : ∀ p ∈ ps, (w.roleOf p).isUnhooked = true) :
    Plays (ps.map (.flush · (w.timeoutOf r))) (Recorder.flushAll runner r ps) w := by
  induction ps generalizing w with
  | nil => exact Plays.pure []
  | cons p rest ih =>
    have first := flush_plays runner (w.timeoutOf r) (unhooked p List.mem_cons_self)
    refine first.bind fun report w₁ same => ?_
    have later := ih (unhooked_later (fun q hq => unhooked q (List.mem_cons_of_mem p hq)) same)
    rw [timeoutOf_later same r] at later
    exact later.bind_logging fun reports w₂ => ⟨_, w₂, rfl, .of_eq rfl⟩

theorem closeAll_plays (runner : Runner) (r : Ref Recorder) {ps : List (Ref Pipeline)}
    (unhooked : ∀ p ∈ ps, (w.roleOf p).isUnhooked = true) :
    Plays (ps.flatMap fun p => [.flush p (w.timeoutOf r), .close p])
      (Recorder.closeAll runner r ps) w := by
  induction ps generalizing w with
  | nil => exact Plays.pure []
  | cons p rest ih =>
    have first := flush_plays runner (w.timeoutOf r) (unhooked p List.mem_cons_self)
    refine first.bind fun report w₁ same => ?_
    have unhooked₁ := unhooked_later unhooked same
    refine (close_plays runner (unhooked₁ p List.mem_cons_self)).bind fun _ w₂ same' => ?_
    have later := ih (unhooked_later (fun q hq => unhooked₁ q (List.mem_cons_of_mem p hq)) same')
    rw [timeoutOf_later same' r, timeoutOf_later same r] at later
    exact later.bind_logging fun reports w₃ => ⟨_, w₃, rfl, .of_eq rfl⟩

theorem recorderFlush_plays (runner : Runner) (issued : (w.recorders.get r).issued = true)
    (unhooked : ∀ p ∈ (w.recorders.get r).pipelines, (w.roleOf p).isUnhooked = true) :
    Plays (w.flushPlan r) (Recorder.flush runner r) w := by
  have all := flushAll_plays runner r unhooked
  cases hall : Recorder.flushAll runner r (w.recorders.get r).pipelines w with
  | ok reports w' =>
    rw [Plays, hall] at all
    obtain ⟨log, hrun⟩ := recorderFlush_ok issued hall
    exact .of_ok hrun all.1 (all.2.trans ⟨log, rfl⟩)
  | error e w' =>
    rw [Plays, hall] at all
    rw [Plays, recorderFlush_error issued hall]
    exact all

end

/-! ## What escapes from recorders -/

/-- A flush of the recorder `r` in `w` fails by the first failure that escapes from one of its calls, if
there is one. -/
structure FlushEscapes (runner : Runner) (r : Ref Recorder) (w : World) : Prop where
  fails_iff : (∃ e w', Recorder.flush runner r w = .error e w') ↔
    ∃ before c rest e, w.CutOff (w.flushPlan r) before c rest e
  /-- It escapes as it is, after the calls before it, and no call follows. -/
  escaped : ∀ e w', Recorder.flush runner r w = .error e w' → ∃ before c rest,
    w.CutOff (w.flushPlan r) before c rest e ∧ (w.havingAll (before ++ [c])).SameButLog w'
  /-- A flush that gives reports made all its calls. -/
  completed : ∀ reports w', Recorder.flush runner r w = .ok reports w' →
    w.Undisturbed (w.flushPlan r) ∧ (w.havingAll (w.flushPlan r)).SameButLog w'
  pipelines : ((Recorder.flush runner r).after w).pipelines = w.pipelines
  recorders : ((Recorder.flush runner r).after w).recorders = w.recorders
  exitHooks : ((Recorder.flush runner r).after w).exitHooks = w.exitHooks

/-- The first shutdown of the recorder `r`, which began in `w`, has failed in `w'` by `e`, which escaped
at the turn of the call `c`. -/
structure CutShutdown (r : Ref Recorder) (w w' : World) (before : List PipelineCall)
    (c : PipelineCall) (rest : List PipelineCall) (e : Failure) : Prop where
  cutOff : (w.shuttingDown r).CutOff (w.shutdownPlan r) before c rest e
  /-- The calls before it are made, and none after it. -/
  made : ((w.shuttingDown r).havingAll (before ++ [c])).SameButLog w'
  closed : (w'.recorders.get r).closed = true
  /-- The shutdown still runs at exit, if it was to. -/
  exitHooks : w'.exitHooks = w.exitHooks
  /-- A pipeline that interrupts is closed exactly if it was being shut down. -/
  interrupting : e.isInterruption = true →
    ((w'.pipelines.get c.pipeline).closed = true ↔ c = .close c.pipeline)
  pipelines : ∀ q, (w'.pipelines.get q).closed = true ↔
    (w.pipelines.get q).closed = true ∨ .close q ∈ before ++ [c]

/-- It has failed in `w'` when all calls were made, as the service has a name without a text. -/
structure UnrecordedShutdown (r : Ref Recorder) (w w' : World) (e : Failure) : Prop where
  undisturbed : (w.shuttingDown r).Undisturbed (w.shutdownPlan r)
  unwritten : (w.recorders.get r).options.serviceName.unwritten? = some e
  made : (((w.shuttingDown r).havingAll (w.shutdownPlan r)).shutDown r).SameButLog w'
  closed : (w'.recorders.get r).closed = true
  exitHooks : w'.exitHooks = w.exitHooks.filter (· ≠ r)
  pipelines : ∀ p ∈ (w.recorders.get r).pipelines, (w'.pipelines.get p).closed = true

/-- The first shutdown of the recorder `r` in `w` fails by the first failure that escapes from one of
its calls, or by that of its last record. -/
structure ShutdownEscapes (runner : Runner) (r : Ref Recorder) (w : World) : Prop where
  fails_iff : (∃ e w', Recorder.shutdown runner r w = .error e w') ↔
    (∃ before c rest e, (w.shuttingDown r).CutOff (w.shutdownPlan r) before c rest e) ∨
      (w.recorders.get r).options.serviceName.unwritten?.isSome = true
  escaped : ∀ e w', Recorder.shutdown runner r w = .error e w' →
    (∃ before c rest, CutShutdown r w w' before c rest e) ∨ UnrecordedShutdown r w w' e

theorem flushPlan_flushes {w : World} {r : Ref Recorder} {cs : List PipelineCall}
    (h : cs <+: w.flushPlan r) : ∀ c ∈ cs, ∀ p, c ≠ .close p := by
  intro c hc p
  obtain ⟨q, -, rfl⟩ := List.mem_map.mp (h.subset hc)
  exact nofun

theorem flushEscapes {runner : Runner} {r : Ref Recorder} {w : World}
    (plays : Plays (w.flushPlan r) (Recorder.flush runner r) w) : FlushEscapes runner r w := by
  obtain ⟨made, prefixed, log, hafter⟩ := plays.after
  exact
    { fails_iff := plays.fails_iff
      escaped := fun e w' h => plays.of_error h
      completed := fun reports w' h => by rwa [Plays, h] at plays
      pipelines := by
        rw [hafter]
        exact World.havingAll_pipelines (flushPlan_flushes prefixed)
      recorders := by
        rw [hafter]
        exact World.havingAll_recorders w made
      exitHooks := by
        rw [hafter]
        exact (World.havingAll_shape w made).exitHooks }

section

variable {runner : Runner} {r : Ref Recorder} {w w' : World} {before rest : List PipelineCall}
  {c : PipelineCall} {e : Failure}

theorem shuttingDown_options (w : World) (r : Ref Recorder) :
    ((w.shuttingDown r).recorders.get r).options = (w.recorders.get r).options :=
  w.recorders.map_get_modify (·.options) r r (f := fun x => { x with closed := true }) fun _ => rfl

theorem shuttingDown_timeoutOf (w : World) (r : Ref Recorder) :
    (w.shuttingDown r).timeoutOf r = w.timeoutOf r := by
  rw [World.timeoutOf, shuttingDown_options, World.timeoutOf]

/-- The calls of a shutdown leave the recorder as it is, closed. -/
theorem havingAll_shuttingDown (cs : List PipelineCall) :
    ((w.shuttingDown r).havingAll cs).recorders = (w.shuttingDown r).recorders :=
  World.havingAll_recorders _ cs

theorem World.CutOff.cutShutdown (isOpen : (w.recorders.get r).closed = false)
    (cut : (w.shuttingDown r).CutOff (w.shutdownPlan r) before c rest e)
    (made : ((w.shuttingDown r).havingAll (before ++ [c])).SameButLog w') :
    CutShutdown r w w' before c rest e := by
  have same := made
  obtain ⟨log, rfl⟩ := made
  exact
    { cutOff := cut
      made := same
      closed := by
        have closed := shuttingDown_closed (Recorder.has_of_open isOpen)
        rwa [← havingAll_shuttingDown (before ++ [c])] at closed
      exitHooks := (World.havingAll_shape _ _).exitHooks
      interrupting := fun hi => by
        have marked := World.having_closed ((w.shuttingDown r).havingAll before) c c.pipeline
        rw [(World.escape?_interruption cut.escapes hi).1] at marked
        have last : (w.shuttingDown r).havingAll (before ++ [c]) =
            ((w.shuttingDown r).havingAll before).having c := World.havingAll_append _ _ _
        rw [last]
        simpa using marked
      pipelines := World.havingAll_closed (w.shuttingDown r) (before ++ [c]) }

theorem unrecordedShutdown (isOpen : (w.recorders.get r).closed = false)
    (undisturbed : (w.shuttingDown r).Undisturbed (w.shutdownPlan r))
    (made : ((w.shuttingDown r).havingAll (w.shutdownPlan r)).SameButLog w')
    (unwritten : (w.recorders.get r).options.serviceName.unwritten? = some e) :
    UnrecordedShutdown r w (w'.shutDown r) e := by
  obtain ⟨log, rfl⟩ := made
  exact
    { undisturbed := undisturbed
      unwritten := unwritten
      made := ⟨log, rfl⟩
      closed := by
        have closed := shuttingDown_closed (Recorder.has_of_open isOpen)
        rwa [← havingAll_shuttingDown (w.shutdownPlan r)] at closed
      exitHooks := congrArg (List.filter (· ≠ r)) (World.havingAll_shape _ _).exitHooks
      pipelines := fun p hp => by
        refine (World.havingAll_closed (w.shuttingDown r) (w.shutdownPlan r) p).mpr (.inr ?_)
        exact List.mem_flatMap.mpr ⟨p, hp, by simp⟩ }

theorem shutdownEscapes (isOpen : (w.recorders.get r).closed = false)
    (plays : Plays (w.shutdownPlan r)
      (Recorder.closeAll runner r (w.recorders.get r).pipelines) (w.shuttingDown r)) :
    ShutdownEscapes runner r w := by
  have fails := plays.fails_iff
  cases hall : Recorder.closeAll runner r (w.recorders.get r).pipelines (w.shuttingDown r) with
  | error e₀ w₀ =>
    have hrun := Recorder.shutdown_cut isOpen hall
    have cutOff := fails.mp ⟨e₀, w₀, hall⟩
    refine ⟨iff_of_true ⟨e₀, w₀, hrun⟩ (.inl cutOff), fun e w' h => ?_⟩
    rw [hrun] at h
    obtain ⟨rfl, rfl⟩ := EStateM.Result.error.inj h
    obtain ⟨before, c, rest, cut, made⟩ := plays.of_error hall
    exact .inl ⟨before, c, rest, cut.cutShutdown isOpen made⟩
  | ok reports w₀ =>
    rw [Plays, hall] at plays
    obtain ⟨undisturbed, made⟩ := plays
    have quiet : ¬ ∃ before c rest e,
        (w.shuttingDown r).CutOff (w.shutdownPlan r) before c rest e := by
      rintro ⟨before, c, rest, e, cut⟩
      exact cut.not_undisturbed undisturbed
    have service : (w₀.recorders.get r).options.serviceName =
        (w.recorders.get r).options.serviceName := by
      obtain ⟨log, rfl⟩ := made
      show (((w.shuttingDown r).havingAll _).recorders.get r).options.serviceName = _
      rw [havingAll_shuttingDown, shuttingDown_options]
    cases hu : (w.recorders.get r).options.serviceName.unwritten? with
    | none =>
      obtain ⟨records, hrun⟩ := Recorder.shutdown_done isOpen hall (service ▸ hu)
      refine ⟨iff_of_false (by simp [hrun]) (by simp [quiet, hu]), fun e w' h => ?_⟩
      rw [hrun] at h
      cases h
    | some e₀ =>
      have hrun := Recorder.shutdown_unsaid isOpen hall (service ▸ hu)
      refine ⟨iff_of_true ⟨_, _, hrun⟩ (.inr (by simp [hu])), fun e w' h => ?_⟩
      rw [hrun] at h
      obtain ⟨rfl, rfl⟩ := EStateM.Result.error.inj h
      exact .inr (unrecordedShutdown isOpen undisturbed made hu)

end

/-- Where processors have no hooks, a flush and the first shutdown of a recorder fail exactly if
something escapes from a call of a pipeline at its turn, or from the last record of the shutdown. The
first failure escapes as it is; all calls before it are made, and none after it. -/
theorem first_escape {w : World} {r : Ref Recorder}
    (unhooked : ∀ p ∈ (w.recorders.get r).pipelines, (w.roleOf p).isUnhooked = true)
    (runner : Runner) :
    ((w.recorders.get r).issued = true → FlushEscapes runner r w) ∧
      ((w.recorders.get r).closed = false → ShutdownEscapes runner r w) := by
  refine ⟨fun issued => flushEscapes (recorderFlush_plays runner issued unhooked), ?_⟩
  intro isOpen
  refine shutdownEscapes isOpen ?_
  rw [World.shutdownPlan, ← shuttingDown_timeoutOf]
  exact closeAll_plays runner r unhooked

/-- The second flush of the last pipeline is an interruption, and so is the shutdown of the third one.
The first one is attached twice, and the second one is closed. -/
def disturbedProgram : List Step :=
  [.newProvider "p" none
    (some [
      .make "a" (.str "a") (.scripted {}),
      .make "b" (.str "b") .base,
      .make "c" (.str "c")
        (.scripted { shutdowns := [.raises (.foreign ⟨"KeyboardInterrupt", []⟩)] }),
      .known "a",
      .make "d" (.str "d") (.scripted
        { flushes := [.returns .null, .raises (.foreign ⟨"SystemExit", []⟩)] })]) none none true,
    .getTracer "p" none (.identity { name := .str "lib" }) none,
    .shutdownPipeline "b",
    .forceFlush "p"]

def disturbedWorld : World := (Script.run disturbedProgram {}).2

theorem disturbed_first_escape :
    FlushEscapes (Script.runWithin 1) ⟨0⟩ disturbedWorld ∧
      ShutdownEscapes (Script.runWithin 1) ⟨0⟩ disturbedWorld := by
  obtain ⟨flushing, shutting⟩ := first_escape (w := disturbedWorld) (r := ⟨0⟩)
    (by decide +kernel) (Script.runWithin 1)
  exact ⟨flushing (by decide +kernel), shutting (by decide +kernel)⟩

example :
    ((Recorder.flush (Script.runWithin 1) ⟨0⟩).failure? disturbedWorld).map (·.kind) =
        some "SystemExit" ∧
      ((Recorder.shutdown (Script.runWithin 1) ⟨0⟩).failure? disturbedWorld).map (·.kind) =
        some "KeyboardInterrupt" := by
  decide +kernel

/-- Something escapes from a flush though no processor interrupts it: the error of the first one has no
text. -/
theorem unwritable_error_escapes :
    Reachable (fun _ => True) unwritableWorld ∧
      (unwritableWorld.recorders.get ⟨0⟩).issued = true ∧
      (∀ p ∈ (unwritableWorld.recorders.get ⟨0⟩).pipelines,
        (unwritableWorld.roleOf p).isUnhooked = true ∧ (unwritableWorld.roleOf p).isCalm = true) ∧
      ∃ e w', Recorder.flush (Script.runWithin 1) ⟨0⟩ unwritableWorld = .error e w' := by
  have fails : ((Recorder.flush (Script.runWithin 1) ⟨0⟩).failure? unwritableWorld).any
      (!·.isInterruption) = true := by
    decide +kernel
  obtain ⟨e, failed, -⟩ := error_of_failure? fails
  exact ⟨unwritable_reachable, by decide +kernel, by decide +kernel, e, _, failed⟩

end Tracing
