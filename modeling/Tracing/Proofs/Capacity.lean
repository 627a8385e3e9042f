import Tracing.Proofs.Issuing

/-!
# Tracing.Proofs.Capacity

How many tracers a recorder keeps under the limit of its options.

* `atMost_of_not_exceeds` — what is not above a limit is at most the limit, unless that is a NaN.
* `EndsIn.kept`     — what a request does to the number of tracers kept and of those made.
* `CacheBound`      — the tracers kept are not above the limit. `CacheBound.change` — whatever
  happens, but for another limit.
* `cache_bounded`   — the tracers kept are at most the limit exactly if the limit is no NaN.
* `nan_limit_unmet` — a NaN passes its check, and then every tracer is kept.
-/

namespace Tracing

open Act World

/-! ## Numbers that are not above a limit -/

/-- A double that no number is less than, equal to or above. -/
def Value.isNaN : Value → Bool
  | .float x => x.isNaN
  | _ => false

theorem Binary64.compareInt_eq_none {x : Binary64} {n : Int} :
    x.compareInt n = none ↔ x.isNaN = true := by
  unfold compareInt
  split
  next nan => exact iff_of_true rfl nan
  next number =>
    refine iff_of_false ?_ number
    split <;> nofun

theorem atMost_of_not_exceeds {n : Nat} {limit : Value}
    (h : Value.exceeds (.int n) limit = .ok false) :
    Value.atMost (.int n) limit = .ok (!limit.isNaN) := by
  have settled : ∀ o : Ordering, (some o == some Ordering.gt) = false →
      (some o == some Ordering.lt || some o == some Ordering.eq) = true := by decide
  cases limit with
  | bool b => exact congrArg Except.ok (settled _ (Except.ok.inj h))
  | int m => exact congrArg Except.ok (settled _ (Except.ok.inj h))
  | float x =>
    have order : Value.order? (.int n) (.float x) = some ((x.compareInt n).map Ordering.swap) := rfl
    rw [Value.exceeds, order] at h
    rw [Value.atMost, order]
    cases hc : x.compareInt n with
    | none =>
      have nan := Binary64.compareInt_eq_none.mp hc
      simp [Value.isNaN, nan]
    | some o =>
      have number : x.isNaN = false := by
        rw [← Bool.not_eq_true, ← Binary64.compareInt_eq_none (n := n), hc]
        simp
      rw [hc] at h
      have above := settled o.swap (Except.ok.inj h)
      simpa [Value.isNaN, number] using above
  | _ => cases h

theorem not_exceeds_nan {limit : Value} (h : limit.isNaN = true) (n : Nat) :
    Value.exceeds (.int n) limit = .ok false := by
  cases limit with
  | float x =>
    have order : Value.order? (.int n) (.float x) = some ((x.compareInt n).map Ordering.swap) := rfl
    rw [Value.exceeds, order, Binary64.compareInt_eq_none.mpr h]
    rfl
  | _ => cases h

/-- Under a NaN none of the tracers goes. -/
theorem Recorder.Trims.nan {limit : Value} {size n : Nat} (h : Trims limit size n)
    (nan : limit.isNaN = true) : n = 0 := by
  cases n with
  | zero => rfl
  | succ n =>
    have above := h.needed n (Nat.lt_succ_self n)
    rw [not_exceeds_nan nan] at above
    cases above

/-! ## Tracers kept -/

section

variable {w w' w₀ w₁ v : World} {r : Ref Recorder} {limit : Value} {before : Nat}

/-- A tracer that is made is kept, and as many of the others go as have to. That is so as well when
the request fails over the records of it. -/
theorem Recorder.Misses.kept {request : Request} {key : TracerKey} {name version : Value}
    {tracer : Tracer} (h : (w.recorders.get r).Misses request key name version)
    (hr : w.recorders.Has r) (checked : (w.recorders.get r).LimitChecked)
    (within : Value.exceeds (.int (w.recorders.get r).tracers.size)
      (w.recorders.get r).options.maxCachedTracers = .ok false)
    (run : Recorder.getTracer r request none w = .ok tracer w') : ∃ n,
      Recorder.Trims (w.recorders.get r).options.maxCachedTracers
        ((w.recorders.get r).tracers.size + 1) n ∧
      (w'.recorders.get r).tracers.size = (w.recorders.get r).tracers.size + 1 - n := by
  obtain ⟨n, records, trims, hrun⟩ :=
    Recorder.getTracer_trims h.inquire h.missing checked within
  have size : ((Recorder.dropped (w.made r key name version) r n records).recorders.get r).tracers.size
      = (w.recorders.get r).tracers.size + 1 - n := by
    rw [made_recorder hr]
    simp [Recorder.forget, Recorder.keep, Recorder.missed, Lru.push, Lru.size]
  refine ⟨n, trims, ?_⟩
  rcases hrun with hrun | ⟨e, hrun⟩
  · obtain ⟨-, rfl⟩ := EStateM.Result.ok.inj (run.symm.trans hrun)
    exact size
  · obtain ⟨-, rfl⟩ := EStateM.Result.ok.inj (run.symm.trans hrun)
    refine Eq.trans ?_ size
    exact Store.map_get_modify (fun x : Recorder => x.tracers.size) _ r r fun _ => rfl

/-- A request has no tracer made, and as many are kept as before; or it has one made, and as many of
the others go as have to. -/
theorem EndsIn.kept {request : Request} {fault : Option Failure} {ending : Ending}
    (h : EndsIn r request fault w w' ending) (hr : w.recorders.Has r)
    (checked : (w.recorders.get r).LimitChecked)
    (within : Value.exceeds (.int (w.recorders.get r).tracers.size)
      (w.recorders.get r).options.maxCachedTracers = .ok false) :
    ending.issues = 0 ∧ (w'.recorders.get r).tracers.size = (w.recorders.get r).tracers.size ∨
      ending.issues = 1 ∧ ∃ n,
        Recorder.Trims (w.recorders.get r).options.maxCachedTracers
          ((w.recorders.get r).tracers.size + 1) n ∧
        (w'.recorders.get r).tracers.size = (w.recorders.get r).tracers.size + 1 - n := by
  cases h with
  | idle _ same => exact .inl ⟨rfl, by rw [same]⟩
  | found key _ _ _ _ _ _ _ recorder =>
    exact .inl ⟨rfl, by rw [recorder]; exact Lru.size_touch _ key⟩
  | failed _ _ _ recorder => exact .inl ⟨rfl, by rw [recorder]; rfl⟩
  | refused _ _ _ _ _ _ _ _ recorder => exact .inl ⟨rfl, by rw [recorder]; rfl⟩
  | interrupted _ _ _ _ _ _ _ _ recorder => exact .inl ⟨rfl, by rw [recorder]; rfl⟩
  | unsaid _ _ _ _ _ _ _ _ _ _ recorder => exact .inl ⟨rfl, by rw [recorder]; rfl⟩
  | overrun _ _ _ _ misses unhindered _ run =>
    subst unhindered
    exact .inr ⟨rfl, misses.kept hr checked within run⟩
  | made _ _ _ _ _ misses unhindered _ _ run =>
    subst unhindered
    exact .inr ⟨rfl, misses.kept hr checked within run⟩

/-- The recorder `r` keeps tracers that are not above the limit, which passed its check. Under a NaN
it keeps all that it made but the first `before`. -/
structure CacheBound (r : Ref Recorder) (limit : Value) (before : Nat) (w : World) : Prop where
  has : w.recorders.Has r
  owns : w.Owns r
  options : (w.recorders.get r).options.maxCachedTracers = limit
  checked : Options.requirePositive "max_cached_tracers" limit = .ok ()
  within : Value.exceeds (.int (w.recorders.get r).tracers.size) limit = .ok false
  all : limit.isNaN = true → (w.recorders.get r).tracers.size + before = w.madeBy r

namespace CacheBound

/-- As many tracers are kept and made as before. -/
theorem same (h : CacheBound r limit before w) (has : w'.recorders.Has r) (owns : w'.Owns r)
    (options : (w'.recorders.get r).options.maxCachedTracers =
      (w.recorders.get r).options.maxCachedTracers)
    (size : (w'.recorders.get r).tracers.size = (w.recorders.get r).tracers.size)
    (made : w'.madeBy r = w.madeBy r) : CacheBound r limit before w' where
  has := has
  owns := owns
  options := options.trans h.options
  checked := h.checked
  within := size ▸ h.within
  all nan := by
    rw [size, made]
    exact h.all nan

theorem change (hw : CacheBound r limit before w) (h : Change Step.KeepsLimit w w') :
    CacheBound r limit before w' := by
  have has := h.extends.hasRecorder hw.has
  have options := h.limit hw.has
  rcases h.ends hw.owns with same | ⟨request, fault, ending, ends⟩
  · have owns := hw.owns.unchanged same.journal same.tracers same.scopes
    refine hw.same has owns options (congrArg Lru.size same.tracers) ?_
    rw [World.madeBy, World.madeBy, same.lookups]
  · have owns := ends.owns hw.owns
    have made := ends.madeBy
    have checked : (w.recorders.get r).LimitChecked := by
      rw [Recorder.LimitChecked, hw.options]
      exact hw.checked
    have within : Value.exceeds (.int (w.recorders.get r).tracers.size)
        (w.recorders.get r).options.maxCachedTracers = .ok false := by
      rw [hw.options]
      exact hw.within
    rcases ends.kept hw.has checked within with ⟨none, size⟩ | ⟨one, n, trims, size⟩
    · rw [none] at made
      exact hw.same has owns options size made
    · rw [hw.options] at trims
      rw [one] at made
      exact
        { has, owns
          options := options.trans hw.options
          checked := hw.checked
          within := size ▸ trims.within
          all := fun nan => by
            have kept := hw.all nan
            rw [trims.nan nan] at size
            omega }

theorem changes (hw : CacheBound r limit before w) (h : Changes Step.KeepsLimit w v) :
    CacheBound r limit before v := by
  induction h with
  | refl => exact hw
  | tail _ change ih => exact ih.change change

/-- A recorder is made without tracers, which no checked limit forbids. -/
theorem of_make {plan : Recorder.Plan} (made : Recorder.make plan w₀ = .ok r w₁) :
    CacheBound r plan.options.maxCachedTracers (w₁.madeBy r) w₁ := by
  have has := make_has made
  obtain ⟨resource, ps, processors, pipelines, log, check, -, rfl, rfl⟩ := make_ok made
  have self := plan.carriedOut_get resource ps { w₀ with processors, pipelines, log }
  generalize hx : plan.recorder resource ps { w₀ with processors, pipelines, log } = x at self
  have fresh : x.tracers.entries = [] ∧ x.scopes = [] := hx ▸ ⟨rfl, rfl⟩
  have size : x.tracers.size = 0 := congrArg List.length fresh.1
  have checked := Options.limit_of_check check
  exact
    { has, checked
      owns := { tracers := by simp [self, fresh], scopes := by simp [self, fresh] }
      options := by
        rw [self, ← hx]
        rfl
      within := by
        rw [self, size]
        exact (Recorder.exceeds_of_positive checked).2
      all := fun _ => by rw [self, size, Nat.zero_add] }

end CacheBound

/-- How many tracers the recorder `r`, made in `w₁`, keeps in `v` under its limit. -/
structure KeepsTracers (r : Ref Recorder) (limit : Value) (w₁ v : World) : Prop where
  options : (v.recorders.get r).options.maxCachedTracers = limit
  /-- They are at most the limit exactly if that is no NaN. -/
  atMost : Value.atMost (.int (v.recorders.get r).tracers.size) limit = .ok (!limit.isNaN)
  /-- Under a NaN every tracer made is kept. -/
  all : limit.isNaN = true → (v.recorders.get r).tracers.size + w₁.madeBy r = v.madeBy r

/-- Whatever is done with a recorder after it was made, but for another limit, the tracers kept are
at most the limit exactly if the limit is no NaN. -/
theorem cache_bounded {plan : Recorder.Plan} (made : Recorder.make plan w₀ = .ok r w₁)
    (later : Changes Step.KeepsLimit w₁ v) :
    KeepsTracers r plan.options.maxCachedTracers w₁ v := by
  have bound := (CacheBound.of_make made).changes later
  exact
    { options := bound.options
      atMost := atMost_of_not_exceeds bound.within
      all := bound.all }

end

/-- A recorder whose limit is one and a half. -/
def fractionalPlan : Recorder.Plan :=
  { options := { maxCachedTracers := .float ⟨0x3ff8000000000000⟩ }, pipelines := some [] }

/-- What asking for the tracer of a library leaves. -/
def World.asked (w : World) (name : String) : World :=
  (Recorder.getTracer ⟨0⟩ (.identity { name := .str name }) none).after w

theorem Change.asked (w : World) (name : String) : Change Step.KeepsLimit w (w.asked name) :=
  .ask (.getTracer "p" none (.identity { name := .str name }) none) nofun ⟨0⟩ _ _
    (by simp [Step.asks])

def fractionalWorld : World := (Recorder.make fractionalPlan).after {}

theorem fractional_made : Recorder.make fractionalPlan {} = .ok ⟨0⟩ fractionalWorld := by
  have checked : fractionalPlan.options.check.toBool = true := by decide +kernel
  have hrun := make_run fractionalPlan {}
  cases h : fractionalPlan.options.check with
  | error e =>
    rw [h] at checked
    cases checked
  | ok =>
    rw [h] at hrun
    have made : Recorder.make fractionalPlan {} = .ok ⟨0⟩ _ := hrun
    rw [fractionalWorld, after_of_ok made, made]

/-- Of the tracers of two libraries one is kept. -/
theorem fractional_limit_kept :
    Recorder.make fractionalPlan {} = .ok ⟨0⟩ fractionalWorld ∧
      KeepsTracers ⟨0⟩ fractionalPlan.options.maxCachedTracers fractionalWorld
        ((fractionalWorld.asked "a").asked "b") ∧
      (((fractionalWorld.asked "a").asked "b").recorders.get ⟨0⟩).tracers.size = 1 := by
  have later : Changes Step.KeepsLimit fractionalWorld ((fractionalWorld.asked "a").asked "b") :=
    .tail (.single (.asked _ _)) (.asked _ _)
  exact ⟨fractional_made, cache_bounded fractional_made later, by decide +kernel⟩

/-- A recorder whose limit is a NaN. -/
def nanPlan : Recorder.Plan :=
  { options := { maxCachedTracers := .float Binary64.nan }, pipelines := some [] }

def nanWorld : World := (Recorder.make nanPlan).after {}

/-- The options pass their check, and the recorder is made. Of the tracers of two libraries both are
kept then, which is not at most the limit. -/
theorem nan_limit_unmet :
    nanPlan.options.check = .ok () ∧ Recorder.make nanPlan {} = .ok ⟨0⟩ nanWorld ∧
      (((nanWorld.asked "a").asked "b").recorders.get ⟨0⟩).tracers.size = 2 ∧
      Value.atMost (.int 2) nanPlan.options.maxCachedTracers = .ok false := by
  exact ⟨rfl, rfl, by decide +kernel, rfl⟩

end Tracing
