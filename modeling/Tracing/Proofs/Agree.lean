import Tracing.Proofs.Operation

/-!
# Tracing.Proofs.Agree

Operations that end the same way from worlds that a relation relates.

* `Act.Agree A V x y` — from worlds that `A` relates, two operations end with the same failure, or
  with values that `V` relates, in worlds that `A` relates.
* `Act.Match A x y`   — they do with the same value. `Act.Steady A x` — one operation does.
* `Agree.bind`, `Agree.attempt` — composition of such operations.
-/

namespace Tracing

namespace Act

variable {A : World → World → Prop} {α α' β β' : Type}

/-- Both end with the same failure, or with values that `V` relates, in worlds that `A` relates. -/
inductive Together (A : World → World → Prop) (V : α → α' → Prop) :
    EStateM.Result Failure World α → EStateM.Result Failure World α' → Prop where
  | ok {a : α} {b : α'} {w w' : World} (hw : A w w') (h : V a b) :
      Together A V (.ok a w) (.ok b w')
  | error (e : Failure) {w w' : World} (hw : A w w') : Together A V (.error e w) (.error e w')

/-- From worlds that `A` relates, two operations end together. -/
structure Agree (A : World → World → Prop) (V : α → α' → Prop) (x : Act α) (y : Act α') :
    Prop where
  together : ∀ w w', A w w' → Together A V (x w) (y w')

/-- From worlds that `A` relates, two operations end together with the same value. -/
abbrev Match (A : World → World → Prop) (x y : Act α) : Prop := Agree A Eq x y

/-- From worlds that `A` relates, an operation ends the same way. -/
abbrev Steady (A : World → World → Prop) (x : Act α) : Prop := Match A x x

/-- Two outcomes that are the same failure, or values that `V` relates. -/
inductive Outcomes (V : α → α' → Prop) : Except Failure α → Except Failure α' → Prop where
  | ok {a : α} {b : α'} (h : V a b) : Outcomes V (.ok a) (.ok b)
  | error (e : Failure) : Outcomes V (.error e) (.error e)

namespace Agree

variable {V : α → α' → Prop} {S : β → β' → Prop}

theorem pure {a : α} {b : α'} (h : V a b) : Agree A V (pure a) (pure b) :=
  ⟨fun _ _ hw => .ok hw h⟩

theorem throw (e : Failure) : Agree A V (throw e) (throw e) :=
  ⟨fun _ _ hw => .error e hw⟩

theorem throw_bind (e : Failure) {f : α → Act β} {g : α' → Act β'} :
    Agree A S ((MonadExcept.throw e : Act α) >>= f) ((MonadExcept.throw e : Act α') >>= g) :=
  ⟨fun _ _ hw => .error e hw⟩

theorem bind {x : Act α} {y : Act α'} {f : α → Act β} {g : α' → Act β'} (hx : Agree A V x y)
    (hf : ∀ a b, V a b → Agree A S (f a) (g b)) : Agree A S (x >>= f) (y >>= g) := by
  constructor
  intro w w' hw
  have h := hx.together w w' hw
  rw [run_bind, run_bind]
  generalize x w = result, y w' = result' at h
  cases h with
  | ok hv hab => exact (hf _ _ hab).together _ _ hv
  | error e hv => exact .error e hv

theorem get {f : World → Act β} {g : World → Act β'}
    (h : ∀ w w', A w w' → Agree A S (f w) (g w')) : Agree A S (get >>= f) (get >>= g) :=
  ⟨fun w w' hw => (h w w' hw).together w w' hw⟩

theorem modifyGet {f : World → α × World} {g : World → α' × World}
    (h : ∀ w w', A w w' → A (f w).2 (g w').2 ∧ V (f w).1 (g w').1) :
    Agree A V (modifyGet f : Act α) (modifyGet g) :=
  ⟨fun w w' hw => .ok (h w w' hw).1 (h w w' hw).2⟩

theorem modify {f g : World → World} (h : ∀ w w', A w w' → A (f w) (g w')) :
    Agree A Eq (modify f : Act PUnit) (modify g) := modifyGet fun w w' hw => ⟨h w w' hw, rfl⟩

theorem map {x : Act α} {y : Act α'} {f : α → β} {g : α' → β'} (hx : Agree A V x y)
    (hf : ∀ a b, V a b → S (f a) (g b)) : Agree A S (f <$> x) (g <$> y) := by
  rw [map_eq_pure_bind, map_eq_pure_bind]
  exact hx.bind fun a b h => pure (hf a b h)

theorem mono {V' : α → α' → Prop} {x : Act α} {y : Act α'} (hx : Agree A V x y)
    (h : ∀ a b, V a b → V' a b) : Agree A V' x y := by
  constructor
  intro w w' hw
  have hxy := hx.together w w' hw
  generalize x w = result, y w' = result' at hxy ⊢
  cases hxy with
  | ok hv hab => exact .ok hv (h _ _ hab)
  | error e hv => exact .error e hv

theorem attempt {x : Act α} {y : Act α'} (hx : Agree A V x y) :
    Agree A (Outcomes V) (attempt x) (attempt y) := by
  constructor
  intro w w' hw
  have h := hx.together w w' hw
  rw [Act.attempt, Act.attempt]
  generalize x w = result, y w' = result' at h
  cases h with
  | ok hv hab => exact .ok hv (.ok hab)
  | error e hv => exact .ok hv (.error e)

theorem ofExcept {x : Except Failure α} {y : Except Failure α'} (h : Outcomes V x y) :
    Agree A V (MonadExcept.ofExcept x) (MonadExcept.ofExcept y) := by
  cases h with
  | ok h => exact pure h
  | error e => exact throw e

theorem ofExcept_bind {x : Except Failure α} {f g : α → Act β} {S : β → β → Prop}
    (h : ∀ a, x = .ok a → Agree A S (f a) (g a)) :
    Agree A S (MonadExcept.ofExcept x >>= f) (MonadExcept.ofExcept x >>= g) := by
  cases x with
  | ok a => exact ⟨fun w w' hw => (h a rfl).together w w' hw⟩
  | error e => exact throw_bind e

end Agree

theorem Match.bind {x y : Act α} {f : α → Act β} {g : α → Act β'} {S : β → β' → Prop}
    (hx : Match A x y) (hf : ∀ a, Agree A S (f a) (g a)) : Agree A S (x >>= f) (y >>= g) :=
  Agree.bind hx fun a _ h => h ▸ hf a

theorem Steady.ofExcept (x : Except Failure α) : Steady A (MonadExcept.ofExcept x) := by
  cases x with
  | ok a => exact Agree.pure rfl
  | error e => exact Agree.throw e

/-- A record that can be put together is logged in both worlds, else it fails in both. -/
theorem Steady.say (logged : ∀ w w' record, A w w' →
      A { w with log := w.log ++ [record] } { w' with log := w'.log ++ [record] })
    (level : Level) (logger : String) (message : Wording) : Steady A (say level logger message) :=
  Match.bind (Steady.ofExcept _) fun _ => Agree.modify fun w w' h => logged w w' _ h

end Act

end Tracing
