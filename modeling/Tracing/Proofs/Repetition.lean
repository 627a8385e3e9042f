import Tracing.Proofs.BindingsKept
import Tracing.Proofs.Conflicts

/-!
# Tracing.Proofs.Repetition

Discoveries of one catalog, one after the other.

* `Halts.again`         — entry points that were stopped are stopped again, at the same one.
* `Catalog.Stopped`     — what a discovery leaves that fails.
* `Catalog.FailsAgain`  — whatever is looked up then fails as well, and changes nothing more.
* `Catalog.IsFinal`     — after a discovery that returns, none reads the entry points again.
* `discovery_settles`   — a discovery comes to either, for good.
-/

namespace Tracing

open Act Catalog

/-- The step does not make a catalog forget its discovery. -/
def Step.KeepsDiscovery (s : Step) : Prop := ∀ announced, s ≠ .entryPoints announced true

namespace Catalog

variable {c c' : Catalog} {bs : Bindings} {es before : List EntryPoint} {f : Failure}

/-! ## A second pass -/

/-- In a second pass the entry points that were taken up are passed over, and the one that was
objected to is objected to again. -/
theorem Halts.again (h : Halts bs es before f) (faithful : ∀ e ∈ es, e.Faithful) :
    Halts (bs ++ brought bs before) es before f ∧
      brought (bs ++ brought bs before) before = [] := by
  obtain ⟨e, after, rfl, objection⟩ := h.objection
  have settled : ∀ e ∈ before, e.Settled (bs ++ brought bs before) :=
    settled_of_admits (fun e he => faithful e (List.mem_append_left _ he)) h.admits
  obtain ⟨admits, nothing⟩ := admits_of_settled settled
  refine ⟨⟨admits, e, after, rfl, ?_⟩, nothing⟩
  rw [nothing, List.append_nil]
  exact objection

/-- A discovery after one that was stopped only reads the entry points once more. -/
theorem discover_again (faithful : ∀ e ∈ c.announced, e.Faithful)
    (halts : Halts c.bindings c.announced before f) (reads : Nat) (log : List LogRecord) :
    ∃ records, discover ({ c.extended before false with reads }, log) =
      .error f ({ c.extended before false with reads := reads + 1 }, log ++ records) := by
  obtain ⟨again, nothing⟩ := halts.again faithful
  obtain ⟨records, hrun⟩ :=
    discover_halts { c.extended before false with reads } log rfl again
  refine ⟨records, ?_⟩
  rw [hrun]
  simp [extended, nothing]

/-! ## Later uses -/

theorem Use.discovered (h : Use Step.KeepsDiscovery c c') (discovered : c.discovered = true) :
    c'.discovered = true ∧ c'.reads = c.reads := by
  cases h with
  | announce announced reset allowed =>
    cases reset with
    | true => exact absurd rfl (allowed announced)
    | false => exact ⟨by simp [Catalog.announce, discovered], rfl⟩
  | perform operation log =>
    cases operation with
    | lookup lookup =>
      rw [lookup.left_eq, left_of_ok (discover_discovered c log discovered)]
      exact ⟨discovered, rfl⟩
    | register name new =>
      rcases register_cases c log name new with ⟨f, hrun⟩ | ⟨key, record, -, -, hrun⟩
      · rw [left_of_error hrun]
        exact ⟨discovered, rfl⟩
      · rw [left_of_ok hrun]
        exact ⟨discovered, rfl⟩

theorem Uses.discovered (h : Uses Step.KeepsDiscovery c c') (discovered : c.discovered = true) :
    c'.discovered = true ∧ c'.reads = c.reads := by
  induction h with
  | refl => exact ⟨discovered, rfl⟩
  | tail _ use ih =>
    obtain ⟨still, reads⟩ := use.discovered ih.1
    exact ⟨still, reads.trans ih.2⟩

/-! ## Failing and returning -/

/-- A discovery of `c` was stopped by the failure `f` at the entry point `e`, after those in
`before`. It left `c'`. -/
structure Stopped (c : Catalog) (before : List EntryPoint) (e : EntryPoint) (f : Failure)
    (c' : Catalog) : Prop where
  left : c' = c.extended before false
  /-- The entry points before `e` are registered, for each new name the first one. -/
  registered : ∀ e ∈ before, e.Settled c'.bindings
  mapping : ∀ key,
    find? key c'.bindings = (find? key c.bindings).or (before.findSome? (·.given? key))
  /-- The failure is a conflict, unless the name of `e` cannot be one or is bound to nothing. -/
  conflict : e.IsPlain → ¬e.IsVoid c.bindings → ∃ key m d, e.Claims key m ∧
    find? key c'.bindings = some (some d) ∧ d.moduleName ≠ m ∧ f = .conflict e.name d.moduleName m

/-- Lookups in `c`, and creations by options that are enabled, fail for `f`. They read the entry
points, and change nothing else but the log. -/
structure FailsAgain (f : Failure) (c : Catalog) : Prop where
  lookups : ∀ {α : Type} {x : Cataloguing α}, Lookup x → ∀ reads log, ∃ records,
    x ({ c with reads }, log) = .error f ({ c with reads := reads + 1 }, log ++ records)
  creations : ∀ o : Options, o.enabled.isTruthy = true → ∀ w reads,
    w.catalog = { c with reads } → ∃ log,
      Provider.create o w = .error f { w with catalog := { c with reads := reads + 1 }, log }

/-- Whatever is done to `c`, and whatever entry points there are then, no discovery reads them or
changes anything, and lookups change nothing. -/
structure IsFinal (c : Catalog) : Prop where
  unread : ∀ c', Uses Step.KeepsDiscovery c c' → c'.reads = c.reads
  discoveries : ∀ c', Uses Step.KeepsDiscovery c c' → ∀ log,
    discover (c', log) = .ok () (c', log)
  lookups : ∀ c', Uses Step.KeepsDiscovery c c' → ∀ {α : Type} {x : Cataloguing α}, Lookup x →
    ∀ log, (∃ a, x (c', log) = .ok a (c', log)) ∨ ∃ f, x (c', log) = .error f (c', log)
  /-- Programs do no more to a catalog than use it. -/
  programs : ∀ w program, w.InOrder Step.KeepsDiscovery →
    Step.EveryIn Step.KeepsDiscovery program → w.catalog = c →
      Uses Step.KeepsDiscovery c (Script.run program w).2.catalog

theorem FailsAgain.of_discover
    (h : ∀ reads log, ∃ records, discover ({ c with reads }, log) =
      .error f ({ c with reads := reads + 1 }, log ++ records)) : FailsAgain f c where
  lookups lookup reads log := by
    obtain ⟨records, hrun⟩ := h reads log
    exact ⟨records, lookup.fails hrun⟩
  creations o enabled w reads hw := by
    obtain ⟨records, hrun⟩ := h reads []
    have selected : select o.provider (w.catalog, []) =
        .error f ({ c with reads := reads + 1 }, [] ++ records) :=
      hw ▸ (Lookup.select o.provider).fails hrun
    refine ⟨w.log ++ records, ?_⟩
    rw [create_enabled enabled, run_bind, Act.catalog, selected]
    rfl

theorem isFinal_of_discovered (discovered : c.discovered = true) : IsFinal c where
  unread _ uses := (uses.discovered discovered).2
  discoveries c' uses log := discover_discovered c' log (uses.discovered discovered).1
  lookups c' uses _ _ lookup log :=
    lookup.stays (discover_discovered c' log (uses.discovered discovered).1)
  programs _ _ hw hp h := h ▸ Script.run_uses hw hp

theorem Halts.stopped (h : Halts c.bindings c.announced before f)
    (faithful : ∀ e ∈ c.announced, e.Faithful) :
    ∃ e after, c.announced = before ++ e :: after ∧
      Stopped c before e f (c.extended before false) := by
  obtain ⟨e, after, split, objection⟩ := h.objection
  have faithful_before : ∀ e ∈ before, e.Faithful :=
    fun e he => faithful e (split ▸ List.mem_append_left _ he)
  refine ⟨e, after, split, rfl, settled_of_admits faithful_before h.admits,
    fun key => find?_brought key c.bindings before, ?_⟩
  intro plain filled
  have loads : ∀ e ∈ before, ∃ d, e.load = .gives (some d) := fun e he =>
    have ⟨d, hl, _⟩ := faithful_before e he
    ⟨d, hl⟩
  exact plain.clashes objection fun void => filled (void_before loads void)

/-- What the discoveries of a catalog come to. -/
structure DiscoverySettles (c : Catalog) : Prop where
  /-- A discovery returns if it was made before, or if the modules of each name are one. -/
  returns_iff : ∀ log, (∃ s, discover (c, log) = .ok () s) ↔
    c.discovered = true ∨ Agree c.bindings c.announced
  failed : ∀ log f s, discover (c, log) = .error f s →
    (∃ before e after, c.announced = before ++ e :: after ∧ Stopped c before e f s.1) ∧
      FailsAgain f s.1
  returned : ∀ log s, discover (c, log) = .ok () s → IsFinal s.1
  /-- By options that are disabled an idle provider of the library is created, and the catalog stays
  as it is. -/
  disabled : ∀ o : Options, o.enabled.isTruthy = false → ∀ w, ∃ r w',
    Provider.create o w = .ok (.idle r) w' ∧ w'.catalog = w.catalog ∧
      w'.idles.get r = { kind := .noop "NoOpTracerProvider", options := some o }

theorem discovery_settles (faithful : ∀ e ∈ c.announced, e.Faithful) : DiscoverySettles c where
  returns_iff log := discover_returns_iff faithful log
  failed log f s hrun := by
    obtain ⟨before, halts, left⟩ := discover_fails c log hrun
    rw [left]
    exact ⟨⟨before, halts.stopped faithful⟩, .of_discover (discover_again faithful halts)⟩
  returned log s hrun := by
    apply isFinal_of_discovered
    rcases discover_returns c log hrun with ⟨discovered, same⟩ | ⟨-, -, taken⟩
    · rw [same, discovered]
    · rw [taken, extended]
  disabled o h w := ⟨_, _, create_disabled h w, rfl, w.idles.get_add_self _⟩

/-- An entry point of another package for the name of the first one. -/
def rivalPoint : EntryPoint :=
  ⟨.str "a", .str "other_pkg.providers:OtherProvider", .gives (some .other)⟩

theorem rival_discoveries_settled :
    (DiscoverySettles { announced := [customPoint, rivalPoint] } ∧
      ({ announced := [customPoint, rivalPoint] } : Catalog).Conflicts) ∧
    DiscoverySettles { announced := twoPackages } ∧
      ∃ s, discover ({ announced := twoPackages }, []) = .ok () s := by
  have faithful : ∀ e ∈ [customPoint, rivalPoint], e.Faithful := by
    simp only [List.forall_mem_cons]
    exact ⟨⟨_, rfl, rfl⟩, ⟨_, rfl, rfl⟩, List.forall_mem_nil _⟩
  exact ⟨⟨discovery_settles faithful, fun log => ⟨_, _, _, _, rfl⟩⟩,
    discovery_settles twoPackages_faithful, _, rfl⟩

end Catalog

end Tracing
