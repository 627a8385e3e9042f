import Tracing.Proofs.Making
import Tracing.Proofs.Misfits

/-!
# Tracing.Proofs.Construction

The making of recorders from options that pass their check.

* `Options.rules_kept`   — all rules of options that pass their check are kept.
* `checkSizes_of_check`  — what a batching processor demands that these rules do not.
* `BatchOptions.objection?` — what it holds against a queue and a delay that are whole numbers.
* `exportProcessor_cases` — the processor that exports, or that objection.
* `checked_options_build` — the recorder is made, with one pipeline or with none, or that objection
  is raised.
-/

namespace Tracing

open Act

section

variable {o : Options} {b : BatchOptions} {name : String} {v : Value}

/-! ## Rules that are kept -/

theorem inTurn_ok {checks : List (Except Failure Unit)} (h : inTurn checks = .ok ()) :
    ∀ r ∈ checks, r = .ok () := by
  induction checks with
  | nil => exact nofun
  | cons r rest ih =>
    obtain ⟨⟨⟩, first, others⟩ := ok_of_bind h
    exact List.forall_mem_cons.mpr ⟨first, ih others⟩

theorem Options.rules_kept (hb : o.batching = .options b) (check : o.check = .ok ()) :
    ∀ r ∈ o.rules b, r = .ok () :=
  inTurn_ok ((Options.check_eq hb).symm.trans check)

theorem Options.atMost_of_positive (h : Options.requirePositive name v = .ok ()) :
    v.atMost (.int 0) = .ok false := by
  obtain ⟨below, hv, raised⟩ := ok_of_bind h
  cases below with
  | false => exact hv
  | true => cases raised

theorem Options.exceeds_of_batchRule (h : Options.batchRule b = .ok ()) :
    b.maxExportBatchSize.exceeds b.maxQueueSize = .ok false := by
  obtain ⟨above, hb, raised⟩ := ok_of_bind h
  cases above with
  | false => exact hb
  | true => cases raised

namespace BatchOptions

/-- A null is not above zero. -/
theorem sizeOr_of_positive {default : Value} (h : Options.requirePositive name v = .ok ()) :
    sizeOr v default = v := by
  cases v with
  | null => cases h
  | _ => rfl

/-! ## What a batching processor demands -/

/-- Of what a batching processor demands the rules leave open whether the delay is above zero, and
whether a queue can be so long. -/
theorem checkSizes_of_check (hb : o.batching = .options b) (check : o.check = .ok ()) :
    b.checkSizes = (do
      refuse .scheduleDelay (← (sizeOr b.scheduleDelay (.int 5000)).atMost (.int 0))
      checkLength b.maxQueueSize) := by
  have kept := Options.rules_kept hb check
  have queue : Options.requirePositive "max_queue_size" b.maxQueueSize = .ok () :=
    kept _ (by simp [Options.rules])
  have batch : Options.requirePositive "max_export_batch_size" b.maxExportBatchSize = .ok () :=
    kept _ (by simp [Options.rules])
  have fits : Options.batchRule b = .ok () := kept _ (by simp [Options.rules])
  rw [checkSizes, sizeOr_of_positive queue, sizeOr_of_positive batch,
    Options.atMost_of_positive queue, Options.atMost_of_positive batch,
    Options.exceeds_of_batchRule fits]
  rcases (sizeOr b.scheduleDelay (.int 5000)).atMost (.int 0) with _ | (_ | _) <;> rfl

/-- What a batching processor holds against a queue and a delay, the queue being above zero. -/
def objection? (queue delay : Int) : Option Failure :=
  if delay ≤ 0 then some (.batch .scheduleDelay)
  else if maxLength < queue then some .lengthTooLarge
  else none

theorem objection?_eq_none {queue delay : Int} :
    objection? queue delay = none ↔ 0 < delay ∧ queue ≤ maxLength := by
  unfold objection?
  split
  · simp only [reduceCtorEq, false_iff]
    omega
  · split
    · simp only [reduceCtorEq, false_iff]
      omega
    · simp only [true_iff]
      omega

theorem atMost_zero (n : Int) : Value.atMost (.int n) (.int 0) = .ok (decide (n ≤ 0)) := by
  have order : Value.atMost (.int n) (.int 0) =
    .ok (some (compare n 0) == some .lt || some (compare n 0) == some .eq) := rfl
  rw [order]
  rcases Int.lt_trichotomy n 0 with h | h | h
  · rw [Int.compare_eq_lt.mpr h, decide_eq_true (by omega)]
    rfl
  · rw [Int.compare_eq_eq.mpr h, decide_eq_true (by omega)]
    rfl
  · rw [Int.compare_eq_gt.mpr h, decide_eq_false (by omega)]
    rfl

theorem checkSizes_typed {queue delay : Int} (hb : o.batching = .options b)
    (check : o.check = .ok ()) (hq : b.maxQueueSize = .int queue)
    (hd : b.scheduleDelay = .int delay) :
    b.checkSizes =
      match objection? queue delay with
      | some e => .error e
      | none => .ok () := by
  have given : sizeOr (.int delay) (.int 5000) = .int delay := rfl
  rw [checkSizes_of_check hb check, hq, hd, given, atMost_zero, objection?]
  by_cases below : delay ≤ 0
  · rw [decide_eq_true below, if_pos below]
    rfl
  · rw [decide_eq_false below, if_neg below]
    show checkLength (.int queue) = _
    rw [checkLength]
    split <;> rfl

end BatchOptions

/-! ## Recorders -/

/-- The endpoint is a text, the name of the service is one or has one, the extra attributes are a
dictionary, and the queue and the delay of batches are whole numbers. Whatever stands in the other
fields, none of them is in the way. -/
structure Options.Typed (o : Options) (b : BatchOptions) (queue delay : Int) : Prop where
  endpoint : ∃ url, o.otlpEndpoint = .str url
  named : o.serviceName.unwritten? = none
  attributes : ∃ entries, o.extraAttributes = .dict entries
  batching : o.batching = .options b
  queue : b.maxQueueSize = .int queue
  delay : b.scheduleDelay = .int delay

theorem Endpoint.ofOptions_text {url : Text} (h : o.otlpEndpoint = .str url) :
    ∃ endpoint, Endpoint.ofOptions o = .ok endpoint := by
  have searched : (Value.str url).contains (.str schemeMark) =
    .ok (url.contains schemeMark) := rfl
  rw [Endpoint.ofOptions, h, searched]
  cases url.contains schemeMark <;> exact ⟨_, rfl⟩

/-- There is a processor that exports, unless it is to batch the spans and objects. -/
theorem exportProcessor_cases {queue delay : Int} (typed : o.Typed b queue delay)
    (check : o.check = .ok ()) :
    (∃ x endpoint, Pipeline.exportProcessor o = .ok (x, endpoint) ∧
        (b.syncExport.isTruthy = false → BatchOptions.objection? queue delay = none)) ∨
      ∃ e, Pipeline.exportProcessor o = .error e ∧ b.syncExport.isTruthy = false ∧
        BatchOptions.objection? queue delay = some e := by
  obtain ⟨url, hurl⟩ := typed.endpoint
  obtain ⟨endpoint, hendpoint⟩ := Endpoint.ofOptions_text hurl
  have sizes := BatchOptions.checkSizes_typed typed.batching check typed.queue typed.delay
  have batching : o.batching.get "use_sync_export" = .ok b :=
    congrArg (Batching.get · _) typed.batching
  rw [exportProcessor_run hendpoint batching, sizes]
  cases b.syncExport.isTruthy with
  | true => exact .inl ⟨_, _, rfl, fun batched => absurd batched (by decide)⟩
  | false =>
    cases BatchOptions.objection? queue delay with
    | some e => exact .inr ⟨e, rfl, rfl, rfl⟩
    | none => exact .inl ⟨_, _, rfl, fun _ => rfl⟩

theorem attributes_of_dict {plan : Recorder.Plan} {entries : List (Value × Value)}
    (h : plan.options.extraAttributes = .dict entries) :
    ∃ resource, plan.attributes = .ok resource := by
  rw [Recorder.Plan.attributes]
  cases plan.resource with
  | some given => exact ⟨_, rfl⟩
  | none =>
    have merged : ∀ old, Value.update old (.dict entries) =
      .ok (entries.foldl (fun acc e => Value.bind e.1 e.2 acc) old) := fun _ => rfl
    simp only [resourceOf, h, merged]
    exact ⟨_, rfl⟩

section

variable {plan : Recorder.Plan} {queue delay : Int}

/-- The ways in which the making of a recorder from checked options ends. -/
theorem make_checked (typed : plan.options.Typed b queue delay)
    (check : plan.options.check = .ok ()) (implicit : plan.pipelines = none) (w : World) :
    (plan.options.exports = false ∧ ∃ resource,
        Recorder.make plan w = .ok w.recorders.next (plan.carriedOut resource [] w)) ∨
      (plan.options.exports = true ∧ ∃ x endpoint resource,
        (b.syncExport.isTruthy = false → BatchOptions.objection? queue delay = none) ∧
        Pipeline.exportProcessor plan.options = .ok (x, endpoint) ∧
        Recorder.make plan w = .ok w.recorders.next
          (plan.carriedOut resource [w.pipelines.next] (w.exporting x endpoint))) ∨
      (plan.options.exports = true ∧ b.syncExport.isTruthy = false ∧ ∃ e,
        BatchOptions.objection? queue delay = some e ∧ Recorder.make plan w = .error e w) := by
  obtain ⟨entries, hentries⟩ := typed.attributes
  obtain ⟨resource, attributes⟩ := attributes_of_dict hentries
  have hrun := make_run plan w
  rw [check, attributes, typed.named] at hrun
  cases exports : plan.options.exports with
  | false =>
    rw [build_unexporting implicit exports] at hrun
    exact .inl ⟨rfl, resource, hrun⟩
  | true =>
    rw [build_exporting implicit exports] at hrun
    rcases exportProcessor_cases typed check with ⟨x, endpoint, hx, calm⟩ | ⟨e, hx, batched, objects⟩
    · rw [hx] at hrun
      exact .inr (.inl ⟨rfl, x, endpoint, resource, calm, hx, hrun⟩)
    · rw [hx] at hrun
      exact .inr (.inr ⟨rfl, batched, e, objects, hrun⟩)

/-- What the making of a recorder from checked options comes to. -/
structure Builds (plan : Recorder.Plan) (b : BatchOptions) (queue delay : Int) (w : World) :
    Prop where
  /-- The recorder is made, unless spans are to be exported in batches and the delay between these is
  not above zero, or the queue is to be longer than any can be. -/
  made_iff : (∃ r w', Recorder.make plan w = .ok r w') ↔
    (plan.options.exports = true → b.syncExport.isTruthy = false →
      0 < delay ∧ queue ≤ BatchOptions.maxLength)
  /-- It has one pipeline if spans are to be exported, and else none. -/
  pipelines : ∀ r w', Recorder.make plan w = .ok r w' →
    (w'.recorders.get r).pipelines = if plan.options.exports then [w.pipelines.next] else []
  /-- The pipeline is a new one, of a new processor that exports to the endpoint of the options. -/
  exporting : plan.options.exports = true → ∀ r w', Recorder.make plan w = .ok r w' →
    ∃ x endpoint, Pipeline.exportProcessor plan.options = .ok (x, endpoint) ∧
      w'.processors = w.processors.add x ∧
      w'.pipelines = w.pipelines.add
        { processor := w.processors.next, name := .str ("otlp:" ++ endpoint.url) }
  fails : ∀ e w', Recorder.make plan w = .error e w' →
    w' = w ∧ BatchOptions.objection? queue delay = some e

/-- From options that pass their check a recorder is made, with one pipeline if spans are to be
exported and else with none; nothing but the delay between batches and a queue of impossible length
can be in the way. -/
theorem checked_options_build (typed : plan.options.Typed b queue delay)
    (check : plan.options.check = .ok ()) (implicit : plan.pipelines = none) (w : World) :
    Builds plan b queue delay w := by
  rcases make_checked typed check implicit w with
    ⟨idle, resource, hrun⟩ | ⟨exports, x, endpoint, resource, calm, hx, hrun⟩ |
      ⟨exports, batched, e, objects, hrun⟩
  · exact
      { made_iff := ⟨fun _ h => absurd h (by simp [idle]), fun _ => ⟨_, _, hrun⟩⟩
        pipelines := fun r w' h => by
          rw [hrun] at h
          obtain ⟨rfl, rfl⟩ := EStateM.Result.ok.inj h
          rw [plan.carriedOut_get, idle]
          rfl
        exporting := fun h => absurd h (by simp [idle])
        fails := fun e w' h => by
          rw [hrun] at h
          cases h }
  · exact
      { made_iff := ⟨fun _ _ batched => BatchOptions.objection?_eq_none.mp (calm batched),
          fun _ => ⟨_, _, hrun⟩⟩
        pipelines := fun r w' h => by
          rw [hrun] at h
          obtain ⟨rfl, rfl⟩ := EStateM.Result.ok.inj h
          have self := plan.carriedOut_get resource [w.pipelines.next] (w.exporting x endpoint)
          rw [exports]
          exact congrArg Recorder.pipelines self
        exporting := fun _ r w' h => by
          rw [hrun] at h
          obtain ⟨-, rfl⟩ := EStateM.Result.ok.inj h
          exact ⟨x, endpoint, hx, rfl, rfl⟩
        fails := fun e w' h => by
          rw [hrun] at h
          cases h }
  · have refused : ∀ r w', Recorder.make plan w ≠ .ok r w' := fun r w' => by simp [hrun]
    exact
      { made_iff := by
          constructor
          · rintro ⟨r, w', h⟩
            exact absurd h (refused r w')
          · intro h
            rw [BatchOptions.objection?_eq_none.mpr (h exports batched)] at objects
            cases objects
        pipelines := fun r w' h => absurd h (refused r w')
        exporting := fun _ r w' h => absurd h (refused r w')
        fails := fun e' w' h => by
          rw [hrun] at h
          obtain ⟨rfl, rfl⟩ := EStateM.Result.error.inj h
          exact ⟨rfl, objects⟩ }

end

end

theorem Options.default_typed (b : BatchOptions) {queue delay : Int}
    (hq : b.maxQueueSize = .int queue) (hd : b.scheduleDelay = .int delay) :
    Options.Typed { batching := .options b } b queue delay where
  endpoint := ⟨_, rfl⟩
  named := rfl
  attributes := ⟨_, rfl⟩
  batching := rfl
  queue := hq
  delay := hd

/-- The default options build a recorder with one pipeline. -/
theorem default_options_build :
    Builds {} {} 2048 500 {} ∧ ∃ r w', Recorder.make {} {} = .ok r w' ∧
      (w'.recorders.get r).pipelines = [⟨0⟩] := by
  have builds : Builds {} {} 2048 500 {} :=
    checked_options_build (Options.default_typed {} rfl rfl) rfl rfl {}
  obtain ⟨r, w', made⟩ := builds.made_iff.mpr fun _ _ => by decide
  exact ⟨builds, r, w', made, builds.pipelines r w' made⟩

/-- Options that leave no time between batches. -/
def delaylessPlan : Recorder.Plan :=
  { options := { batching := .options { scheduleDelay := .int 0 } } }

/-- The options pass their check, and yet no recorder is made of them. -/
theorem delayless_options_refused :
    delaylessPlan.options.Typed { scheduleDelay := .int 0 } 2048 0 ∧
      delaylessPlan.options.check = .ok () ∧
      Recorder.make delaylessPlan {} = .error (.batch .scheduleDelay) {} :=
  ⟨Options.default_typed _ rfl rfl, rfl, rfl⟩

end Tracing
