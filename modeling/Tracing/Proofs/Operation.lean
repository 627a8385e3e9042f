import Mathlib.Order.Defs.Unbundled
import Tracing.Script

/-!
# Tracing.Proofs.Operation

Operations evaluated at a world, and what they lead to. Those on a catalog are evaluated alike.

* `ok_of_bind`, `bind_eq_error_iff` — what succeeds or fails without the world, taken apart.
* `Act.after`      — the world that an operation leaves, be it after a failure.
* `Act.Leads R Q`  — from a world an operation leads along `R`, and a value that it gives
  satisfies `Q` in the world then. `R` is any way in which worlds may follow each other.
* `Leads.bind`, `Leads.attempt` — composition: what a part leads to, the whole goes on from.
-/

namespace Tracing

/-- What succeeds is made of parts that succeed. -/
theorem ok_of_bind {α β : Type} {x : Except Failure α} {f : α → Except Failure β} {b : β}
    (h : (x >>= f) = .ok b) : ∃ a, x = .ok a ∧ f a = .ok b := by
  cases x with
  | error e => cases h
  | ok a => exact ⟨a, rfl, h⟩

theorem bind_eq_error_iff {α β : Type} {x : Except Failure α} {f : α → Except Failure β}
    {e : Failure} : (x >>= f) = .error e ↔ x = .error e ∨ ∃ a, x = .ok a ∧ f a = .error e := by
  cases x <;> simp [bind, Except.bind]

namespace Act

variable {α β : Type}

/-- The world that an operation leaves. -/
def after (x : Act α) (w : World) : World :=
  match x w with
  | .ok _ w' => w'
  | .error _ w' => w'

theorem after_of_ok {x : Act α} {w w' : World} {a : α} (h : x w = .ok a w') : x.after w = w' := by
  simp [after, h]

theorem after_of_error {x : Act α} {w w' : World} {e : Failure} (h : x w = .error e w') :
    x.after w = w' := by
  simp [after, h]

/-- What ends an operation before its time, if anything does. -/
def failure? (x : Act α) (w : World) : Option Failure :=
  match x w with
  | .ok _ _ => none
  | .error e _ => some e

theorem failure?_of_error {x : Act α} {w w' : World} {e : Failure} (h : x w = .error e w') :
    x.failure? w = some e := by
  simp [failure?, h]

theorem ok_of_failure? {x : Act α} {w : World} (h : x.failure? w = none) :
    ∃ a, x w = .ok a (x.after w) := by
  unfold failure? at h
  cases hx : x w with
  | ok a w' => exact ⟨a, by rw [after_of_ok hx]⟩
  | error e w' => simp [hx] at h

theorem error_of_failure? {x : Act α} {w : World} {holds : Failure → Bool}
    (h : (x.failure? w).any holds = true) :
    ∃ e, x w = .error e (x.after w) ∧ holds e = true := by
  unfold failure? at h
  cases hx : x w with
  | ok a w' => simp [hx] at h
  | error e w' =>
    rw [after_of_error hx]
    exact ⟨e, rfl, by simpa [hx] using h⟩

section

variable {σ : Type} (s : σ)

@[simp] theorem run_pure (a : α) : (pure a : EStateM Failure σ α) s = .ok a s := rfl

@[simp] theorem run_throw (e : Failure) : (throw e : EStateM Failure σ α) s = .error e s := rfl

@[simp] theorem run_get : (get : EStateM Failure σ σ) s = .ok s s := rfl

@[simp] theorem run_modify (f : σ → σ) :
    (modify f : EStateM Failure σ Unit) s = .ok ⟨⟩ (f s) := rfl

@[simp] theorem run_ofExcept_ok (a : α) :
    (MonadExcept.ofExcept (.ok a : Except Failure α) : EStateM Failure σ α) s = .ok a s := rfl

@[simp] theorem run_ofExcept_error (e : Failure) :
    (MonadExcept.ofExcept (.error e : Except Failure α) : EStateM Failure σ α) s =
      .error e s := rfl

theorem run_bind (x : EStateM Failure σ α) (f : α → EStateM Failure σ β) :
    (x >>= f) s = match x s with
      | .ok a s' => f a s'
      | .error e s' => .error e s' := by
  cases h : x s <;> simp [bind, EStateM.bind, h]

theorem run_map (x : EStateM Failure σ α) (f : α → β) :
    (f <$> x) s = match x s with
      | .ok a s' => .ok (f a) s'
      | .error e s' => .error e s' := by
  cases h : x s <;> simp [Functor.map, EStateM.map, h]

end

section

variable {m : Wording} {w : World} (level : Level) (logger : String)

theorem run_compose : compose m w =
    match m.fault? with
    | none => .ok m.text w
    | some e => .error e w := by
  cases h : m.fault? <;> simp [compose, Wording.written, h]

theorem run_say : say level logger m w =
    match m.fault? with
    | none => .ok () { w with log := w.log ++ [⟨level, logger, m.text⟩] }
    | some e => .error e w := by
  cases h : m.fault? <;> simp [say, run_bind, run_compose, h]

end

theorem run_attempt_ok {x : Act α} {w w' : World} {a : α} (h : x w = .ok a w') :
    attempt x w = .ok (.ok a) w' := by
  simp [attempt, h]

theorem run_attempt_error {x : Act α} {w w' : World} {e : Failure} (h : x w = .error e w') :
    attempt x w = .ok (.error e) w' := by
  simp [attempt, h]

theorem after_bind_ok {x : Act α} {f : α → Act β} {w w' : World} {a : α} (h : x w = .ok a w') :
    (x >>= f).after w = (f a).after w' := by
  simp [after, run_bind, h]

theorem after_bind_error {x : Act α} {f : α → Act β} {w w' : World} {e : Failure}
    (h : x w = .error e w') : (x >>= f).after w = w' := by
  simp [after, run_bind, h]

theorem after_bind_pure (x : Act α) (f : α → β) (w : World) :
    (x >>= fun a => pure (f a)).after w = x.after w := by
  cases h : x w with
  | ok a w' => rw [after_bind_ok h, after_of_ok h, after_of_ok (run_pure _ _)]
  | error e w' => rw [after_bind_error h, after_of_error h]

/-! ## What operations lead to -/

/-- From `w` the operation leads along `R`, and a value that it gives satisfies `Q`. -/
def Leads (R : World → World → Prop) (Q : α → World → Prop) (x : Act α) (w : World) : Prop :=
  match x w with
  | .ok a w' => R w w' ∧ Q a w'
  | .error _ w' => R w w'

/-- No claim about the value given. -/
abbrev Any : α → World → Prop := fun _ _ => True

namespace Leads

variable {R : World → World → Prop} {Q : α → World → Prop} {S : β → World → Prop} {w : World}

theorem after {x : Act α} (h : Leads R Q x w) : R w (x.after w) := by
  cases hx : x w with
  | ok a w' =>
    rw [after_of_ok hx]
    rw [Leads, hx] at h
    exact h.1
  | error e w' =>
    rw [after_of_error hx]
    rwa [Leads, hx] at h

theorem of_ok {x : Act α} {w' : World} {a : α} (hx : x w = .ok a w') (h : R w w')
    (hq : Q a w') : Leads R Q x w := by
  rw [Leads, hx]
  exact ⟨h, hq⟩

theorem of_eq {x : Act α} {w' : World} {a : α} (h : Leads R Q x w) (hx : x w = .ok a w') :
    R w w' ∧ Q a w' := by
  rwa [Leads, hx] at h

theorem of_error {x : Act α} {w' : World} {e : Failure} (hx : x w = .error e w') (h : R w w') :
    Leads R Q x w := by
  rw [Leads, hx]
  exact h

theorem mono {x : Act α} {Q' : α → World → Prop} (h : Leads R Q x w)
    (hq : ∀ a w', R w w' → Q a w' → Q' a w') : Leads R Q' x w := by
  cases hx : x w with
  | ok a w' =>
    rw [Leads, hx] at h
    exact of_ok hx h.1 (hq a w' h.1 h.2)
  | error e w' =>
    rw [Leads, hx] at h
    exact of_error hx h

theorem any {x : Act α} (h : Leads R Q x w) : Leads R Any x w := h.mono fun _ _ _ _ => trivial

theorem get {f : World → Act β} (h : Leads R S (f w) w) : Leads R S (get >>= f) w := h

theorem modify {f : World → World} (h : R w (f w)) : Leads R Any (modify f) w :=
  of_ok rfl h trivial

theorem attempt {x : Act α} (h : Leads R Q x w) :
    Leads R (fun r w' => ∀ a, r = .ok a → Q a w') (attempt x) w := by
  cases hx : x w with
  | ok a w' =>
    rw [Leads, hx] at h
    refine of_ok (run_attempt_ok hx) h.1 ?_
    intro b hb
    cases hb
    exact h.2
  | error e w' =>
    rw [Leads, hx] at h
    refine of_ok (run_attempt_error hx) h ?_
    intro b hb
    cases hb

variable [IsPreorder World R]

theorem pure {a : α} (h : Q a w) : Leads R Q (pure a) w := of_ok rfl (refl_of R w) h

theorem throw {e : Failure} : Leads R Q (throw e) w := of_error rfl (refl_of R w)

theorem throw_bind {e : Failure} {f : α → Act β} :
    Leads R S ((MonadExcept.throw e : Act α) >>= f) w := of_error rfl (refl_of R w)

theorem ofExcept {r : Except Failure α} (h : ∀ a, r = .ok a → Q a w) :
    Leads R Q (MonadExcept.ofExcept r) w := by
  cases r with
  | ok a => exact of_ok rfl (refl_of R w) (h a rfl)
  | error e => exact of_error rfl (refl_of R w)

theorem bind {x : Act α} {f : α → Act β} (hx : Leads R Q x w)
    (hf : ∀ a w', R w w' → Q a w' → Leads R S (f a) w') : Leads R S (x >>= f) w := by
  cases h : x w with
  | error e w' =>
    rw [Leads, h] at hx
    exact of_error (by rw [run_bind, h]) hx
  | ok a w' =>
    rw [Leads, h] at hx
    obtain ⟨hw, hq⟩ := hx
    have hf := hf a w' hw hq
    rw [Leads] at hf
    cases h' : f a w' with
    | ok b w'' =>
      rw [h'] at hf
      exact of_ok (by rw [run_bind, h]; exact h') (trans_of R hw hf.1) hf.2
    | error e w'' =>
      rw [h'] at hf
      exact of_error (by rw [run_bind, h]; exact h') (trans_of R hw hf)

theorem map {x : Act α} {f : α → β} (hx : Leads R Q x w) (hf : ∀ a w', Q a w' → S (f a) w') :
    Leads R S (f <$> x) w := by
  rw [map_eq_pure_bind]
  exact hx.bind fun a w' _ hq => pure (hf a w' hq)

end Leads

end Act

end Tracing
