import Tracing.Proofs.Run

/-!
# Tracing.Proofs.BindingsKept

The bindings of the catalog stay as they are, whatever is registered, discovered and created.

* `Proceeds P`     — worlds follow each other by changes, and their catalogs by uses.
* `Script.run_uses` — whatever a program does, its catalog goes on by uses.
* `KeepsBindings P` — what the bindings of a catalog keep from then on.
* `bindings_kept`   — a catalog that uses have led to keeps its bindings.
-/

namespace Tracing

open Act Catalog

/-! ## The catalog of a program -/

/-- Worlds that follow each other by changes, and their catalogs by uses. -/
structure Proceeds (P : Step → Prop) (w w' : World) : Prop where
  changes : Changes P w w'
  uses : Uses P w.catalog w'.catalog

section

variable {P : Step → Prop} {w w' : World}

theorem Proceeds.of_same (changes : Changes P w w') (same : w'.catalog = w.catalog) :
    Proceeds P w w' where
  changes := changes
  uses := same ▸ .refl

instance : IsPreorder World (Proceeds P) where
  refl _ := .of_same .refl rfl
  trans _ _ _ h h' :=
    { changes := h.changes.trans h'.changes
      uses := h.uses.trans h'.uses }

theorem make_catalog (plan : Recorder.Plan) (w : World) :
    ((Recorder.make plan).after w).catalog = w.catalog := by
  rcases make_cases plan w with ⟨e, hrun⟩ | ⟨resource, ps, processors, pipelines, log, -, -, hrun⟩
  · rw [after_of_error hrun]
  · split at hrun
    · rw [after_of_ok hrun]
      rfl
    · rw [after_of_error hrun]
      rfl

instance : AllowsSteps P (Proceeds P) where
  changes _ h := h.changes
  change h _ same := .of_same h.changes same
  complete hw isOpen h closed :=
    { changes := AllowsCalls.complete hw isOpen h.changes closed
      uses := h.uses }
  make hw known := .of_same (make_changes hw known).after (make_catalog _ _)
  takeHook _ := .of_same Change.takeHook.changes rfl
  use log use :=
    { changes := .single (.aside log _ _ _)
      uses := .single use }

theorem Script.run_uses {program : List Step} (hw : w.InOrder P) (hp : Step.EveryIn P program) :
    Uses P w.catalog (Script.run program w).2.catalog :=
  have proceeds : Proceeds P w (Script.run program w).2 := runWithin_follows _ program w hw hp
  proceeds.uses

end

/-! ## What is kept -/

/-- No name stands twice among those with which every catalog starts. -/
theorem initial_distinct : Distinct ({} : Catalog).allNames where
  keyed name h := by
    have hname : name = .str "sdk" ∨ name = .str "noop" := by
      simpa [Catalog.allNames] using h
    rcases hname with rfl | rfl <;> exact Option.some_ne_none _
  once := by decide

/-- What the bindings of a catalog keep whatever steps that satisfy `P` do. -/
structure KeepsBindings (P : Step → Prop) (c : Catalog) : Prop where
  library : find? (.text "sdk") c.bindings = some (some .recorder) ∧
    find? (.text "noop") c.bindings = some (some .noop)
  /-- A name that has a class has that class ever after. -/
  kept : ∀ c', Uses P c c' → ∀ key d,
    find? key c.bindings = some (some d) → find? key c'.bindings = some (some d)
  bound : ∀ c', Uses P c c' → ∀ key,
    (find? key c.bindings).isSome → (find? key c'.bindings).isSome
  /-- No name stands twice in a list of names, and a later list begins with it. -/
  listed : ∀ log names s, Catalog.names (c, log) = .ok names s → Distinct names ∧
    ∀ c', Uses P s.1 c' → ∀ log' names' s', Catalog.names (c', log') = .ok names' s' →
      names <+: names'
  refuses : ∀ name key d new log, name.key? = some key → find? key c.bindings = some (some d) →
    new ≠ some d →
      Catalog.register name new (c, log) = .error (.alreadyRegistered name d.shown) (c, log)
  refused : ∀ name new log f s, Catalog.register name new (c, log) = .error f s → s = (c, log)
  /-- A name that has no other class is bound as asked. -/
  accepts : ∀ name key new log, name.key? = some key →
    (∀ d, find? key c.bindings = some (some d) → new = some d) →
      ∃ s, Catalog.register name new (c, log) = .ok () s ∧ find? key s.1.bindings = some new
  /-- Whatever else programs do, they do no more to a catalog than use it. -/
  programs : ∀ w program, w.InOrder P → Step.EveryIn P program → w.catalog = c →
    Uses P c (Script.run program w).2.catalog

section

variable {P : Step → Prop} {c : Catalog}

/-- A list of names holds those of the catalog as it is then, after a discovery. -/
theorem names_listed {s s' : Catalog × List LogRecord} {names : List Value}
    (h : Catalog.names s = .ok names s') : names = s'.1.allNames := by
  rw [names_run] at h
  cases hd : Catalog.discover s with
  | ok _ t =>
    rw [hd] at h
    cases h
    rfl
  | error f t =>
    rw [hd] at h
    cases h

theorem names_use {log : List LogRecord} {s : Catalog × List LogRecord} {names : List Value}
    (h : Catalog.names (c, log) = .ok names s) : Use P c s.1 :=
  left_of_ok h ▸ .perform (.lookup .names) log

/-- Whatever is registered, discovered, asked for and created, and in whatever order, the bindings
of a catalog stay as they are, and new names come last. -/
theorem bindings_kept (hc : Uses P {} c) : KeepsBindings P c where
  library := ⟨hc.grows.kept _ _ rfl, hc.grows.kept _ _ rfl⟩
  kept _ uses := uses.grows.kept
  bound _ uses _ := uses.grows.bound
  listed log names s hn := by
    have first : Uses P {} s.1 := hc.tail (names_use hn)
    rw [names_listed hn]
    refine ⟨first.grows.distinct initial_distinct, ?_⟩
    intro c' uses log' names' s' hn'
    have since : Uses P s.1 s'.1 := uses.tail (names_use hn')
    rw [names_listed hn']
    exact since.grows.names
  refuses name key d new log hk hb hne := register_refuses c log hk hb hne
  refused name new log f s h := by
    rcases register_cases c log name new with ⟨f', hrun⟩ | ⟨key, record, -, -, hrun⟩
    · rw [hrun] at h
      cases h
      rfl
    · rw [hrun] at h
      cases h
  accepts name key new log hk same :=
    ⟨_, register_accepts c log hk same, by rw [find?_bind hk, if_pos rfl]⟩
  programs w program hw hp h := h ▸ Script.run_uses hw hp

end

/-- A discovery that is stopped by a conflict, and has taken up one of two entry points by then;
registrations, one of them refused; a creation that fails; and a discovery that succeeds. -/
def bindingProgram : List Step :=
  [.entryPoints [⟨.str "a", .str "custom_pkg:CustomProvider", .gives (some .custom)⟩,
      ⟨.str "sdk", .str "tuned:TunedSdkProvider", .gives (some .tuned)⟩] false,
    .discover, .register (.str "b") (some .minimal), .register (.str "a") (some .other),
    .create "p" (some [("provider", .str "b")]),
    .entryPoints [⟨.str "c", .str "facade:OtherProvider", .gives (some .other)⟩] false,
    .listProviders]

def boundCatalog : Catalog := (Script.run bindingProgram {}).2.catalog

theorem stopped_discovery_kept :
    KeepsBindings (fun _ => True) boundCatalog ∧
      boundCatalog.allNames.map Value.key? =
        [some (.text "sdk"), some (.text "noop"), some (.text "a"), some (.text "b"),
          some (.text "c")] ∧
      find? (.text "a") boundCatalog.bindings = some (some .custom) := by
  have shown : boundCatalog.allNames.map Value.key? =
        [some (.text "sdk"), some (.text "noop"), some (.text "a"), some (.text "b"),
          some (.text "c")] ∧
      find? (.text "a") boundCatalog.bindings = some (some .custom) := by
    decide +kernel
  have uses : Uses (fun _ => True) {} boundCatalog :=
    Script.run_uses (World.inOrder_initial false) (Step.everyIn_of_forall (fun _ => trivial) _)
  exact ⟨bindings_kept uses, shown⟩

end Tracing
