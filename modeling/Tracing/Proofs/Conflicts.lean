import Tracing.Proofs.Discovery

/-!
# Tracing.Proofs.Conflicts

When a discovery raises a conflict.

* `Clash`             — an entry point meets a class of another module than the one that it names.
* `ClaimedTwice`      — entry points claim a name for two modules, or for another one than that of
  the class to which the name is bound.
* `conflicts_exactly` — a discovery raises a conflict exactly if there is a clash. If classes are of
  the modules that their entry points name, that is exactly if a name is claimed twice.
* `facade_conflicts_with_itself` — else it is not: an entry point conflicts with itself.
-/

namespace Tracing

open Act Catalog

namespace EntryPoint

variable {e : EntryPoint} {bs : Bindings} {key : Key} {m : Text}

def Claims (e : EntryPoint) (key : Key) (m : Text) : Prop :=
  e.name.key? = some key ∧ e.moduleName = .ok m

/-- An entry point that claims a name for a module, and gives a class. -/
structure IsPlain (e : EntryPoint) : Prop where
  claims : ∃ key m, e.Claims key m
  loads : ∃ d, e.load = .gives (some d)

/-- The name of the entry point is bound to nothing. -/
def IsVoid (e : EntryPoint) (bs : Bindings) : Prop :=
  ∃ key, e.name.key? = some key ∧ find? key bs = some none

theorem Claims.conflict (h : e.Claims key m) {d : ProviderClass}
    (hb : find? key bs = some (some d)) (differ : d.moduleName ≠ m) :
    e.objection? bs = some (.conflict e.name d.moduleName m) := by
  simp [objection?, h.1, hb, h.2, differ]

/-- Nothing else than a conflict is objected to a plain entry point, but that its name is bound to
nothing. -/
theorem IsPlain.clashes (h : e.IsPlain) {f : Failure} (objection : e.objection? bs = some f)
    (filled : ¬e.IsVoid bs) :
    ∃ key m d, e.Claims key m ∧ find? key bs = some (some d) ∧ d.moduleName ≠ m ∧
      f = .conflict e.name d.moduleName m := by
  obtain ⟨key, m, claims⟩ := h.claims
  obtain ⟨c, hl⟩ := h.loads
  cases hb : find? key bs with
  | none => simp [objection?, claims.1, hb, hl] at objection
  | some d =>
    cases d with
    | none => exact absurd ⟨key, claims.1, hb⟩ filled
    | some d =>
      by_cases same : d.moduleName = m
      · simp [objection?, claims.1, hb, claims.2, same] at objection
      · rw [claims.conflict hb same] at objection
        exact ⟨key, m, d, claims, hb, same, (Option.some.inj objection).symm⟩

theorem IsVoid.objection (h : e.IsVoid bs) :
    e.objection? bs = some (.noAttribute "NoneType" "__module__") := by
  obtain ⟨key, hk, hb⟩ := h
  simp [objection?, hk, hb]

end EntryPoint

namespace Catalog

variable {c : Catalog} {bs : Bindings} {es before : List EntryPoint} {f : Failure}

/-- The discovery raises a conflict. -/
def Conflicts (c : Catalog) : Prop :=
  ∀ log, ∃ name old new s, discover (c, log) = .error (.conflict name old new) s

/-- An entry point names another module than that of the class under its name: the one bound to it,
or else the one that the first entry point gives that comes before with that name. No entry point
that comes before has a name that is bound to nothing, which is a failure of another kind. -/
inductive Clash (bs : Bindings) (es : List EntryPoint) : Prop where
  | intro {before after : List EntryPoint} {e : EntryPoint} {key : Key} {d : ProviderClass}
      {m : Text} (split : es = before ++ e :: after) (claims : e.Claims key m)
      (stands : (find? key bs).or (before.findSome? (·.given? key)) = some (some d))
      (differ : d.moduleName ≠ m) (filled : ∀ e ∈ before, ¬e.IsVoid bs) : Clash bs es

/-- One name is claimed for two modules. -/
inductive ClaimedTwice (bs : Bindings) (es : List EntryPoint) : Prop where
  | together {e e' : EntryPoint} {key : Key} {m m' : Text} (he : e ∈ es) (he' : e' ∈ es)
      (claims : e.Claims key m) (claims' : e'.Claims key m') (differ : m ≠ m') :
      ClaimedTwice bs es
  | bound {e : EntryPoint} {key : Key} {m : Text} {d : ProviderClass} (he : e ∈ es)
      (claims : e.Claims key m) (bound : find? key bs = some (some d))
      (differ : d.moduleName ≠ m) : ClaimedTwice bs es

/-! ## Conflicts and clashes -/

theorem conflicts_of_halts (undiscovered : c.discovered = false) {name : Value} {old new : Text}
    (halts : Halts c.bindings c.announced before (.conflict name old new)) : c.Conflicts := by
  intro log
  obtain ⟨records, hrun⟩ := discover_halts c log undiscovered halts
  exact ⟨name, old, new, _, hrun⟩

theorem Conflicts.halts (h : c.Conflicts) :
    ∃ before name old new, Halts c.bindings c.announced before (.conflict name old new) := by
  obtain ⟨name, old, new, s, hrun⟩ := h []
  obtain ⟨before, halts, -⟩ := discover_fails c [] hrun
  exact ⟨before, name, old, new, halts⟩

/-- After entry points that give classes a name is bound to nothing only if it was before them. -/
theorem void_before (loads : ∀ e ∈ before, ∃ d, e.load = .gives (some d)) {e : EntryPoint}
    (h : e.IsVoid (bs ++ brought bs before)) : e.IsVoid bs := by
  obtain ⟨key, hk, hb⟩ := h
  rw [find?_brought] at hb
  cases hold : find? key bs with
  | some d =>
    rw [hold, Option.some_or] at hb
    exact ⟨key, hk, hold.trans hb⟩
  | none =>
    rw [hold, Option.none_or] at hb
    obtain ⟨e', he', hg⟩ := List.exists_of_findSome?_eq_some hb
    obtain ⟨d, hl⟩ := loads e' he'
    rw [(EntryPoint.given?_eq_some.mp hg).1] at hl
    cases hl

theorem void_after {e : EntryPoint} (h : e.IsVoid bs) (before : List EntryPoint) :
    e.IsVoid (bs ++ brought bs before) := by
  obtain ⟨key, hk, hb⟩ := h
  exact ⟨key, hk, by rw [find?_brought, hb, Option.some_or]⟩

/-- Where entry points were taken up, none had a name that was bound to nothing. -/
theorem Admits.filled (h : Admits bs es) : ∀ e ∈ es, ¬e.IsVoid bs := by
  intro e he void
  obtain ⟨before, after, rfl⟩ := List.append_of_mem he
  have unobjected := h.unobjected
  rw [(void_after void before).objection] at unobjected
  cases unobjected

/-- Plain entry points are stopped by a conflict, if the one objected to has no name that is bound
to nothing. -/
theorem Halts.conflict (h : Halts bs es before f) (plain : ∀ e ∈ es, e.IsPlain)
    (filled : ∀ e after, es = before ++ e :: after → ¬e.IsVoid bs) :
    ∃ name old new, f = .conflict name old new := by
  obtain ⟨e, after, split, objection⟩ := h.objection
  have he : e ∈ es := split ▸ List.mem_append_cons_self
  have loads : ∀ e ∈ before, ∃ d, e.load = .gives (some d) :=
    fun e he => (plain e (split ▸ List.mem_append_left _ he)).loads
  have still : ¬e.IsVoid (bs ++ brought bs before) :=
    fun void => filled e after split (void_before loads void)
  obtain ⟨key, m, d, -, -, -, hf⟩ := (plain e he).clashes objection still
  exact ⟨e.name, d.moduleName, m, hf⟩

theorem Clash.of_halts (plain : ∀ e ∈ es, e.IsPlain) {name : Value} {old new : Text}
    (h : Halts bs es before (.conflict name old new)) : Clash bs es := by
  obtain ⟨e, after, split, objection⟩ := h.objection
  have he : e ∈ es := split ▸ List.mem_append_cons_self
  have filled : ¬e.IsVoid (bs ++ brought bs before) := by
    intro void
    rw [void.objection] at objection
    cases objection
  obtain ⟨key, m, d, claims, hb, differ, -⟩ := (plain e he).clashes objection filled
  rw [find?_brought] at hb
  exact .intro split claims hb differ h.admits.filled

/-- Of two elements of a list the first does not come after the second, or else it comes after all
of what leads up to the second. -/
theorem mem_upto_or_after {α : Type} {before after upto rest : List α} {a b : α}
    (h : before ++ a :: after = upto ++ b :: rest) :
    (a ∈ upto ∨ a = b) ∨ ∃ between, before = upto ++ b :: between := by
  rcases List.append_eq_append_iff.mp h with ⟨between, hupto, hrest⟩ | ⟨between, hbefore, hrest⟩
  · cases between with
    | nil => exact .inl (.inr (List.cons.inj hrest).1)
    | cons _ between =>
      obtain ⟨rfl, -⟩ := List.cons.inj hrest
      exact .inl (.inl (hupto ▸ List.mem_append_cons_self))
  · cases between with
    | nil => exact .inl (.inr (List.cons.inj hrest).1.symm)
    | cons _ between =>
      obtain ⟨rfl, -⟩ := List.cons.inj hrest
      exact .inr ⟨between, hbefore⟩

/-- The first objection is raised where the clash is, or before. -/
theorem Clash.halts (plain : ∀ e ∈ es, e.IsPlain) (h : Clash bs es) :
    ∃ before name old new, Halts bs es before (.conflict name old new) := by
  obtain @⟨upto, rest, e, key, d, m, split, claims, stands, differ, filled⟩ := h
  have clash : e.objection? (bs ++ brought bs upto) ≠ none := by
    rw [← find?_brought] at stands
    rw [claims.conflict stands differ]
    nofun
  rcases admits_or_halts bs es with admits | ⟨before, f, halts⟩
  · exact absurd (split ▸ admits).unobjected clash
  · -- past `e` no entry point can be the first to be objected to
    have first : ∀ e' after, es = before ++ e' :: after → ¬e'.IsVoid bs := by
      intro e' after split'
      rcases mem_upto_or_after (split'.symm.trans split) with (he | rfl) | ⟨between, rfl⟩
      · exact filled e' he
      · rintro ⟨key', hk, hb⟩
        obtain rfl : key = key' := Option.some.inj (claims.1.symm.trans hk)
        rw [hb, Option.some_or] at stands
        cases stands
      · exact absurd halts.admits.unobjected clash
    obtain ⟨name, old, new, rfl⟩ := halts.conflict plain first
    exact ⟨before, name, old, new, halts⟩

theorem conflicts_iff_clash (undiscovered : c.discovered = false)
    (plain : ∀ e ∈ c.announced, e.IsPlain) : c.Conflicts ↔ Clash c.bindings c.announced := by
  constructor
  · intro h
    obtain ⟨before, name, old, new, halts⟩ := h.halts
    exact .of_halts plain halts
  · intro h
    obtain ⟨before, name, old, new, halts⟩ := h.halts plain
    exact conflicts_of_halts undiscovered halts

/-! ## Names that are claimed twice -/

theorem agree_iff_not_claimedTwice (plain : ∀ e ∈ es, e.IsPlain)
    (filled : ∀ e ∈ es, ¬e.IsVoid bs) : Agree bs es ↔ ¬ClaimedTwice bs es := by
  constructor
  · rintro agree (⟨he, he', claims, claims', differ⟩ | ⟨he, claims, hb, differ⟩)
    · have same := agree.together _ he _ he' (claims.1.trans claims'.1.symm)
      rw [claims.2, claims'.2] at same
      exact differ (Except.ok.inj same)
    · obtain ⟨key, d, hk, hb', hm⟩ := agree.bound _ he _ claims.1 (by rw [hb]; rfl)
      obtain rfl := Option.some.inj (claims.1.symm.trans hk)
      rw [hb] at hb'
      cases hb'
      exact differ (Except.ok.inj (hm.symm.trans claims.2))
  · intro once
    refine ⟨?_, ?_, ?_⟩
    · intro e he
      obtain ⟨key, m, claims⟩ := (plain e he).claims
      exact ⟨key, claims.1⟩
    · intro e he key hk hb
      obtain ⟨key', m, claims⟩ := (plain e he).claims
      obtain rfl := Option.some.inj (hk.symm.trans claims.1)
      obtain ⟨d, hd⟩ := Option.isSome_iff_exists.mp hb
      cases d with
      | none => exact absurd ⟨key, hk, hd⟩ (filled e he)
      | some d =>
        have same : d.moduleName = m :=
          Classical.byContradiction fun differ => once (.bound he claims hd differ)
        exact ⟨key, d, hk, hd, same ▸ claims.2⟩
    · intro e he e' he' hk
      obtain ⟨key, m, claims⟩ := (plain e he).claims
      obtain ⟨key', m', claims'⟩ := (plain e' he').claims
      obtain rfl := Option.some.inj (claims.1.symm.trans (hk.trans claims'.1))
      have same : m = m' :=
        Classical.byContradiction fun differ => once (.together he he' claims claims' differ)
      rw [claims.2, claims'.2, same]

/-- Plain entry points are all taken up or there is a conflict, unless a name is bound to nothing. -/
theorem conflicts_iff_objected (undiscovered : c.discovered = false)
    (plain : ∀ e ∈ c.announced, e.IsPlain) (filled : ∀ e ∈ c.announced, ¬e.IsVoid c.bindings) :
    c.Conflicts ↔ ¬Admits c.bindings c.announced := by
  constructor
  · intro h
    obtain ⟨name, old, new, s, hrun⟩ := h []
    exact (discover_raises_iff undiscovered []).mp ⟨_, s, hrun⟩
  · intro objected
    rcases admits_or_halts c.bindings c.announced with admits | ⟨before, f, halts⟩
    · exact absurd admits objected
    · have first : ∀ e after, c.announced = before ++ e :: after → ¬e.IsVoid c.bindings :=
        fun e after split =>
          filled e (split ▸ List.mem_append_cons_self)
      obtain ⟨name, old, new, rfl⟩ := halts.conflict plain first
      exact conflicts_of_halts undiscovered halts

/-- If classes are of the modules that their entry points name, a discovery raises a conflict where
a name is claimed twice. -/
theorem conflicts_iff_claimedTwice (undiscovered : c.discovered = false)
    (plain : ∀ e ∈ c.announced, e.IsPlain) (filled : ∀ e ∈ c.announced, ¬e.IsVoid c.bindings)
    (faithful : ∀ e ∈ c.announced, e.Faithful) :
    c.Conflicts ↔ ClaimedTwice c.bindings c.announced := by
  rw [conflicts_iff_objected undiscovered plain filled, admits_iff_agree faithful,
    agree_iff_not_claimedTwice plain filled, Classical.not_not]

/-- An entry point with a new name is taken up twice exactly if its class is of the module that it
names. -/
theorem admits_twice_iff {e : EntryPoint} (plain : e.IsPlain)
    (new : ∀ key, e.name.key? = some key → find? key bs = none) :
    Admits bs [e, e] ↔ e.Faithful := by
  obtain ⟨key, m, claims⟩ := plain.claims
  obtain ⟨d, hl⟩ := plain.loads
  constructor
  · rintro ⟨-, unobjected, -⟩
    have given : e.given? key = some (some d) := EntryPoint.given?_eq_some.mpr ⟨hl, claims.1⟩
    have found : find? key (bs ++ e.brings bs) = some (some d) := by
      rw [find?_append, e.find?_brings, new key claims.1, given, Option.none_or]
    have same : d.moduleName = m := by
      refine Classical.byContradiction fun differ => ?_
      rw [claims.conflict found differ] at unobjected
      cases unobjected
    exact ⟨d, hl, same ▸ claims.2⟩
  · intro faithful
    have one : ∀ e' ∈ [e, e], e' = e := by simp
    have agree : Agree bs [e, e] :=
      { keyed := fun e' he' => ⟨key, one e' he' ▸ claims.1⟩
        bound := by
          intro e' he' key' hk hb
          obtain rfl := one e' he'
          rw [new key' hk] at hb
          cases hb
        together := fun e' he' e'' he'' _ => by rw [one e' he', one e'' he''] }
    exact agree.admits fun e' he' => one e' he' ▸ faithful

/-! ## What discoveries raise -/

/-- When the discovery of a catalog raises a conflict. -/
structure ConflictsExactly (c : Catalog) : Prop where
  iff_clash : c.Conflicts ↔ Clash c.bindings c.announced
  iff_claimedTwice : (∀ e ∈ c.announced, ¬e.IsVoid c.bindings) → (∀ e ∈ c.announced, e.Faithful) →
    (c.Conflicts ↔ ClaimedTwice c.bindings c.announced)
  /-- An entry point that is announced twice conflicts with itself if it is not faithful. -/
  twice : ∀ e, c.announced = [e, e] → (∀ key, e.name.key? = some key → find? key c.bindings = none) →
    (c.Conflicts ↔ ¬e.Faithful)

theorem conflicts_exactly (undiscovered : c.discovered = false)
    (plain : ∀ e ∈ c.announced, e.IsPlain) : ConflictsExactly c where
  iff_clash := conflicts_iff_clash undiscovered plain
  iff_claimedTwice := conflicts_iff_claimedTwice undiscovered plain
  twice e twice new := by
    have he : e.IsPlain := plain e (by simp [twice])
    have filled : ∀ e ∈ c.announced, ¬e.IsVoid c.bindings := by
      rintro e' he' ⟨key, hk, hb⟩
      have same : e' = e := by simpa [twice] using he'
      rw [new key (same ▸ hk)] at hb
      cases hb
    rw [conflicts_iff_objected undiscovered plain filled, twice, admits_twice_iff he new]

/-! A class that is announced under the module of a facade, and under its own one. -/

def facadePoint : EntryPoint := ⟨.str "x", .str "facade:CustomProvider", .gives (some .custom)⟩

def ownPoint : EntryPoint := ⟨.str "x", .str "custom_pkg:CustomProvider", .gives (some .custom)⟩

theorem facadePoint_claims : facadePoint.Claims (.text "x") "facade" := ⟨rfl, rfl⟩

theorem facadePoint_plain : facadePoint.IsPlain := ⟨⟨_, _, facadePoint_claims⟩, ⟨_, rfl⟩⟩

theorem ownPoint_claims : ownPoint.Claims (.text "x") "custom_pkg" := ⟨rfl, rfl⟩

theorem ownPoint_plain : ownPoint.IsPlain := ⟨⟨_, _, ownPoint_claims⟩, ⟨_, rfl⟩⟩

theorem facade_conflicts_exactly : ConflictsExactly { announced := [facadePoint, facadePoint] } :=
  conflicts_exactly rfl (by simp [facadePoint_plain])

/-- An entry point that is announced twice conflicts with itself, and a name that two modules claim
is no conflict. -/
theorem facade_conflicts_with_itself :
    (facadePoint.IsPlain ∧ ownPoint.IsPlain) ∧
    (({ announced := [facadePoint, facadePoint] } : Catalog).Conflicts ∧
      ¬ClaimedTwice ({} : Catalog).bindings [facadePoint, facadePoint]) ∧
    ¬({ announced := [facadePoint, ownPoint] } : Catalog).Conflicts ∧
      ClaimedTwice ({} : Catalog).bindings [facadePoint, ownPoint] := by
  have admits : Admits ({} : Catalog).bindings [facadePoint, ownPoint] := ⟨rfl, rfl, trivial⟩
  refine ⟨⟨facadePoint_plain, ownPoint_plain⟩, ⟨fun log => ⟨_, _, _, _, rfl⟩, ?_⟩, ?_, ?_⟩
  · have one : ∀ e ∈ [facadePoint, facadePoint], e = facadePoint := by simp
    rintro (⟨he, he', claims, claims', differ⟩ | ⟨he, claims, hb, differ⟩)
    · obtain rfl := one _ he
      obtain rfl := one _ he'
      exact differ (Except.ok.inj (claims.2.symm.trans claims'.2))
    · obtain rfl := one _ he
      obtain rfl := Option.some.inj (facadePoint_claims.1.symm.trans claims.1)
      cases hb
  · intro h
    obtain ⟨name, old, new, s, hrun⟩ := h []
    exact (discover_raises_iff rfl []).mp ⟨_, s, hrun⟩ admits
  · exact .together (by simp) (by simp) facadePoint_claims ownPoint_claims (by decide)

end Catalog

end Tracing
