import Mathlib.Logic.Relation
import Tracing.Proofs.Operation

/-!
# Tracing.Proofs.Bindings

What the operations on a catalog do to its bindings.

* `EntryPoint.objection?`, `EntryPoint.brings` — why an entry point is not taken up in its turn, or
  else the binding that it brings. `takeUp_run` — its turn.
* `Admits`, `brought`, `Halts` — entry points in turn, up to the first one that is objected to.
  `admits_or_halts`, `takeUpAll_admits`, `takeUpAll_halts` — what comes of them.
* `find?_brought` — what a name stands for then.
* `discover_admits`, `discover_halts` — a discovery. `discover_returns`, `discover_fails` — what is
  known of one from how it ended.
* `register_refuses`, `register_accepts`, `register_cases` — a registration.
* `Catalog.Lookup` — those that look names up, after a discovery. `Lookup.fails`, `Lookup.stays` —
  they fail as the discovery does, and leave what it leaves.
* `Catalog.Grows` — names keep their classes, and their places in the list of names.
* `Catalog.Use P`, `Catalog.Uses P` — what steps that satisfy `P` do to a catalog.
  `Uses.grows` — whatever they do, the bindings only grow.
-/

namespace Tracing

open Act Catalog

/-- Names in their order, with what is bound to them. -/
abbrev Bindings := List (Value × Option ProviderClass)

/-! ## Names and what is bound to them -/

namespace Catalog

variable {key k : Key} {name : Value} {bs more : Bindings} {c : Option ProviderClass}

theorem find?_append (key : Key) (bs more : Bindings) :
    find? key (bs ++ more) = (find? key bs).or (find? key more) := by
  induction bs with
  | nil => rfl
  | cons b rest ih =>
    obtain ⟨n, c⟩ := b
    by_cases h : n.key? = some key
    · simp [find?, h]
    · simp [find?, h, ih]

theorem find?_single (hk : name.key? = some k) (key : Key) :
    find? key [(name, c)] = if k = key then some c else none := by
  simp [find?, hk]

/-- A name that is new comes last. -/
theorem bind_new (hk : name.key? = some key) (h : find? key bs = none) :
    bind name c bs = bs ++ [(name, c)] := by
  induction bs with
  | nil => rfl
  | cons b rest ih =>
    obtain ⟨n, d⟩ := b
    by_cases hn : n.key? = some key
    · simp [find?, hn] at h
    · rw [find?, if_neg hn] at h
      rw [bind, if_neg (hk ▸ hn), ih h, List.cons_append]

/-- A name that was bound keeps its place. -/
theorem names_bind_bound (hk : name.key? = some key) (h : (find? key bs).isSome) :
    (bind name c bs).map (·.1) = bs.map (·.1) := by
  induction bs with
  | nil => cases h
  | cons b rest ih =>
    obtain ⟨n, d⟩ := b
    by_cases hn : n.key? = some key
    · simp [bind, hn, hk]
    · rw [find?, if_neg hn] at h
      simp [bind, hn, hk, ih h]

theorem find?_bind (hk : name.key? = some k) (key : Key) :
    find? key (bind name c bs) = if k = key then some c else find? key bs := by
  induction bs with
  | nil => exact find?_single hk key
  | cons b rest ih =>
    obtain ⟨n, d⟩ := b
    by_cases hn : n.key? = some k
    · by_cases h : k = key <;> simp [bind, find?, hn, hk, h]
    · by_cases h : n.key? = some key
      · have hne : key ≠ k := fun e => hn (e ▸ h)
        simp [bind, find?, hk, h, hne, hne.symm]
      · simp [bind, find?, hn, hk, h, ih]

theorem find?_isSome_iff : (find? key bs).isSome ↔ some key ∈ (bs.map (·.1)).map Value.key? := by
  induction bs with
  | nil => simp [find?]
  | cons b rest ih =>
    obtain ⟨n, d⟩ := b
    by_cases hn : n.key? = some key
    · simp [find?, hn]
    · simp [find?, hn, ih, Ne.symm hn]

end Catalog

/-! ## Entry points -/

namespace EntryPoint

/-- Why an entry point is not taken up where `bs` is bound. -/
def objection? (e : EntryPoint) (bs : Bindings) : Option Failure :=
  match e.name.key? with
  | none => some (.unhashable e.name.typeName)
  | some key =>
    match find? key bs with
    | some none => some (.noAttribute "NoneType" "__module__")
    | some (some c) =>
      match e.moduleName with
      | .error f => some f
      | .ok announced =>
        if c.moduleName = announced then none
        else some (.conflict e.name c.moduleName announced)
    | none =>
      match e.load with
      | .gives _ => none
      | .raises f => f.escape?

/-- What an entry point gives for a name. -/
def given? (key : Key) (e : EntryPoint) : Option (Option ProviderClass) :=
  match e.load with
  | .gives c => if e.name.key? = some key then some c else none
  | .raises _ => none

/-- The binding that an entry point brings where `bs` is bound: none if its name has one. -/
def brings (e : EntryPoint) (bs : Bindings) : Bindings :=
  match e.name.key? with
  | none => []
  | some key =>
    match find? key bs, e.given? key with
    | none, some c => [(e.name, c)]
    | _, _ => []

theorem find?_brings (e : EntryPoint) (bs : Bindings) (key : Key) :
    (find? key bs).or (find? key (e.brings bs)) = (find? key bs).or (e.given? key) := by
  cases hb : find? key bs with
  | some c => rfl
  | none =>
    rw [Option.none_or, Option.none_or, brings]
    cases hk : e.name.key? with
    | none => cases hl : e.load <;> simp [given?, hl, hk, find?]
    | some k =>
      by_cases h : k = key
      · subst h
        dsimp only
        rw [hb]
        cases e.given? k with
        | none => rfl
        | some c => simp [find?, hk]
      · have none : e.given? key = none := by
          unfold given?
          split <;> simp [hk, h]
        dsimp only
        rw [none]
        split <;> simp [find?, hk, h]

end EntryPoint

namespace Catalog

section

variable (c : Catalog) (log : List LogRecord)

@[simp] theorem say_run (level : Level) (message : Text) :
    say level message (c, log) = .ok () (c, log ++ [⟨level, "tracekit.registry", message⟩]) := rfl

@[simp] theorem update_run (f : Catalog → Catalog) : update f (c, log) = .ok () (f c, log) := rfl

@[simp] theorem bindings?_run : bindings? (c, log) = .ok c.bindings (c, log) := rfl

theorem nameKey_of_some {name : Value} {key : Key} (h : name.key? = some key) :
    nameKey name (c, log) = .ok key (c, log) := by
  simp [nameKey, h]

theorem nameKey_of_none {name : Value} (h : name.key? = none) :
    nameKey name (c, log) = .error (.unhashable name.typeName) (c, log) := by
  simp [nameKey, h]

/-- The turn of an entry point. -/
theorem takeUp_run (e : EntryPoint) :
    ∃ records, takeUp e (c, log) =
      match e.objection? c.bindings with
      | some f => .error f (c, log)
      | none => .ok () ({ c with bindings := c.bindings ++ e.brings c.bindings }, log ++ records) := by
  -- the cases are those of the objection: the name, what it is bound to, and the load
  unfold takeUp EntryPoint.objection?
  cases hk : e.name.key? with
  | none => exact ⟨[], by simp [run_bind, nameKey_of_none c log hk]⟩
  | some key =>
    simp only [run_bind, nameKey_of_some c log hk, bindings?_run]
    cases hb : find? key c.bindings with
    | none =>
      cases hl : e.load with
      | gives d =>
        have brought : e.brings c.bindings = [(e.name, d)] := by
          simp [EntryPoint.brings, EntryPoint.given?, hk, hb, hl]
        exact ⟨_, by simp [run_bind, bind_new hk hb, brought]; rfl⟩
      | raises f =>
        have nothing : e.brings c.bindings = [] := by
          simp [EntryPoint.brings, EntryPoint.given?, hk, hl]
        cases hi : f.escape? with
        | some fault => exact ⟨[], by simp [run_bind, hi]⟩
        | none => exact ⟨_, by simp [hi, nothing]; rfl⟩
    | some d =>
      have nothing : e.brings c.bindings = [] := by simp [EntryPoint.brings, hk, hb]
      cases d with
      | none => exact ⟨[], rfl⟩
      | some d =>
        cases hm : e.moduleName with
        | error f => exact ⟨[], by simp [run_bind]⟩
        | ok announced =>
          by_cases h : d.moduleName = announced
          · exact ⟨_, by simp [run_bind, h, nothing]; rfl⟩
          · exact ⟨[], by simp [run_bind, h]⟩

/-! ### In turn -/

/-- None of the entry points is objected to in its turn. -/
def Admits (bs : Bindings) : List EntryPoint → Prop
  | [] => True
  | e :: rest => e.objection? bs = none ∧ Admits (bs ++ e.brings bs) rest

/-- What entry points bring that are taken up in turn. -/
def brought (bs : Bindings) : List EntryPoint → Bindings
  | [] => []
  | e :: rest => e.brings bs ++ brought (bs ++ e.brings bs) rest

/-- The first of the entry points that is objected to, for the failure `f`, is the one that comes
after those in `before`. -/
structure Halts (bs : Bindings) (es before : List EntryPoint) (f : Failure) : Prop where
  admits : Admits bs before
  objection : ∃ e rest, es = before ++ e :: rest ∧ e.objection? (bs ++ brought bs before) = some f

theorem admits_or_halts (bs : Bindings) (es : List EntryPoint) :
    Admits bs es ∨ ∃ before f, Halts bs es before f := by
  induction es generalizing bs with
  | nil => exact .inl trivial
  | cons e rest ih =>
    cases ho : e.objection? bs with
    | some f =>
      have halts : Halts bs (e :: rest) [] f :=
        { admits := trivial
          objection := ⟨e, rest, rfl, by simpa [brought] using ho⟩ }
      exact .inr ⟨[], f, halts⟩
    | none =>
      rcases ih (bs ++ e.brings bs) with admits | ⟨before, f, admits, e', rest', rfl, objection⟩
      · exact .inl ⟨ho, admits⟩
      · have halts : Halts bs (e :: (before ++ e' :: rest')) (e :: before) f :=
          { admits := ⟨ho, admits⟩
            objection := ⟨e', rest', rfl, by simpa [brought] using objection⟩ }
        exact .inr ⟨e :: before, f, halts⟩

theorem Admits.unobjected {bs : Bindings} {before after : List EntryPoint} {e : EntryPoint}
    (h : Admits bs (before ++ e :: after)) : e.objection? (bs ++ brought bs before) = none := by
  induction before generalizing bs with
  | nil => simpa [brought] using h.1
  | cons d before ih => simpa [brought] using ih h.2

theorem takeUpAll_admits {es : List EntryPoint} (h : Admits c.bindings es) :
    ∃ records, takeUpAll es (c, log) =
      .ok () ({ c with bindings := c.bindings ++ brought c.bindings es }, log ++ records) := by
  induction es generalizing c log with
  | nil => exact ⟨[], by simp [takeUpAll, brought]⟩
  | cons e rest ih =>
    obtain ⟨ho, admits⟩ := h
    obtain ⟨records, hrun⟩ := takeUp_run c log e
    obtain ⟨records', hrest⟩ := ih { c with bindings := c.bindings ++ e.brings c.bindings }
      (log ++ records) admits
    refine ⟨records ++ records', ?_⟩
    rw [takeUpAll, run_bind, hrun, ho]
    dsimp only
    rw [hrest]
    simp [brought]

theorem takeUpAll_halts {es before : List EntryPoint} {f : Failure}
    (h : Halts c.bindings es before f) :
    ∃ records, takeUpAll es (c, log) =
      .error f ({ c with bindings := c.bindings ++ brought c.bindings before }, log ++ records) := by
  obtain ⟨admits, e, rest, rfl, objection⟩ := h
  induction before generalizing c log with
  | nil =>
    obtain ⟨records, hrun⟩ := takeUp_run c log e
    have ho : e.objection? c.bindings = some f := by simpa [brought] using objection
    exact ⟨[], by simp [takeUpAll, run_bind, hrun, ho, brought]⟩
  | cons d before ih =>
    obtain ⟨ho, admits⟩ := admits
    obtain ⟨records, hrun⟩ := takeUp_run c log d
    obtain ⟨records', hrest⟩ := ih { c with bindings := c.bindings ++ d.brings c.bindings }
      (log ++ records) admits (by simpa [brought] using objection)
    refine ⟨records ++ records', ?_⟩
    rw [List.cons_append, takeUpAll, run_bind, hrun, ho]
    dsimp only
    rw [hrest]
    simp [brought]

/-- A name stands for what it was bound to, or else for what the first entry point gives that gives
something for it. -/
theorem find?_brought (key : Key) (bs : Bindings) (es : List EntryPoint) :
    find? key (bs ++ brought bs es) = (find? key bs).or (es.findSome? (·.given? key)) := by
  induction es generalizing bs with
  | nil => simp [brought]
  | cons e rest ih =>
    calc find? key (bs ++ brought bs (e :: rest))
        = find? key (bs ++ e.brings bs ++ brought (bs ++ e.brings bs) rest) := by simp [brought]
      _ = ((find? key bs).or (find? key (e.brings bs))).or (rest.findSome? (·.given? key)) := by
        rw [ih, find?_append]
      _ = ((find? key bs).or (e.given? key)).or (rest.findSome? (·.given? key)) := by
        rw [e.find?_brings]
      _ = (find? key bs).or ((e :: rest).findSome? (·.given? key)) := by
        rw [Option.or_assoc, List.findSome?_cons]
        cases e.given? key <;> rfl

/-! ## Discovery and registration -/

theorem discover_discovered (h : c.discovered = true) : discover (c, log) = .ok () (c, log) := by
  simp [discover, run_bind, h]

/-- The first record of a discovery. -/
def openingRecord : LogRecord :=
  ⟨.info, "tracekit.registry", "Discovering tracer providers via entry points..."⟩

/-- The last record of a discovery. -/
def closingRecord (c : Catalog) : LogRecord :=
  ⟨.info, "tracekit.registry", "Tracer providers available: " ++ Value.shownList c.allNames⟩

theorem discover_undiscovered (h : c.discovered = false) :
    discover (c, log) =
      match takeUpAll c.announced ({ c with reads := c.reads + 1 }, log ++ [openingRecord]) with
      | .ok _ (c', log') => .ok () ({ c' with discovered := true }, log' ++ [closingRecord c'])
      | .error f s => .error f s := by
  simp only [discover, run_bind, run_get, h, Bool.false_eq_true, if_false, say_run, update_run,
    openingRecord]
  cases takeUpAll c.announced (_, _) <;> rfl

/-- What a discovery leaves that has read the entry points and taken up those in `es`. -/
def extended (es : List EntryPoint) (discovered : Bool) : Catalog :=
  { c with
    bindings := c.bindings ++ brought c.bindings es
    discovered
    reads := c.reads + 1 }

theorem discover_admits (h : c.discovered = false) (admits : Admits c.bindings c.announced) :
    ∃ records, discover (c, log) = .ok () (c.extended c.announced true, log ++ records) := by
  obtain ⟨records, hrun⟩ :=
    takeUpAll_admits { c with reads := c.reads + 1 } (log ++ [openingRecord]) admits
  refine ⟨openingRecord :: records ++ [closingRecord (c.extended c.announced true)], ?_⟩
  rw [discover_undiscovered c log h, hrun]
  simp [extended, closingRecord, allNames]

theorem discover_halts (h : c.discovered = false) {before : List EntryPoint} {f : Failure}
    (halts : Halts c.bindings c.announced before f) :
    ∃ records, discover (c, log) = .error f (c.extended before false, log ++ records) := by
  obtain ⟨records, hrun⟩ :=
    takeUpAll_halts { c with reads := c.reads + 1 } (log ++ [openingRecord]) halts
  refine ⟨openingRecord :: records, ?_⟩
  rw [discover_undiscovered c log h, hrun]
  simp [extended, h]

/-- A discovery that fails was stopped by an entry point. -/
theorem discover_fails {f : Failure} {s : Catalog × List LogRecord}
    (hrun : discover (c, log) = .error f s) :
    ∃ before, Halts c.bindings c.announced before f ∧ s.1 = c.extended before false := by
  cases h : c.discovered with
  | true =>
    rw [discover_discovered c log h] at hrun
    cases hrun
  | false =>
    rcases admits_or_halts c.bindings c.announced with admits | ⟨before, f', halts⟩
    · obtain ⟨records, hrun'⟩ := discover_admits c log h admits
      rw [hrun] at hrun'
      cases hrun'
    · obtain ⟨records, hrun'⟩ := discover_halts c log h halts
      rw [hrun] at hrun'
      cases hrun'
      exact ⟨before, halts, rfl⟩

/-- A discovery that returns had been made before, or took up all entry points. -/
theorem discover_returns {s : Catalog × List LogRecord} (hrun : discover (c, log) = .ok () s) :
    (c.discovered = true ∧ s.1 = c) ∨ (c.discovered = false ∧
      Admits c.bindings c.announced ∧ s.1 = c.extended c.announced true) := by
  cases h : c.discovered with
  | true =>
    rw [discover_discovered c log h] at hrun
    cases hrun
    exact .inl ⟨rfl, rfl⟩
  | false =>
    rcases admits_or_halts c.bindings c.announced with admits | ⟨before, f', halts⟩
    · obtain ⟨records, hrun'⟩ := discover_admits c log h admits
      rw [hrun] at hrun'
      cases hrun'
      exact .inr ⟨rfl, admits, rfl⟩
    · obtain ⟨records, hrun'⟩ := discover_halts c log h halts
      rw [hrun] at hrun'
      cases hrun'

/-- A name that has another class is refused. -/
theorem register_refuses {name : Value} {key : Key} (hk : name.key? = some key) {d : ProviderClass}
    (h : find? key c.bindings = some (some d)) {other : Option ProviderClass} (hne : other ≠ some d) :
    register name other (c, log) = .error (.alreadyRegistered name d.shown) (c, log) := by
  simp [register, run_bind, nameKey_of_some c log hk, h, hne.symm]

/-- A name that has no other class is bound. -/
theorem register_accepts {name : Value} {key : Key} (hk : name.key? = some key)
    {new : Option ProviderClass} (same : ∀ d, find? key c.bindings = some (some d) → new = some d) :
    register name new (c, log) = .ok () ({ c with bindings := bind name new c.bindings },
      log ++ [⟨.debug, "tracekit.registry", "Registered tracer provider: " ++ name.text⟩]) := by
  simp only [register, run_bind, nameKey_of_some c log hk, bindings?_run]
  cases hb : find? key c.bindings with
  | none => rfl
  | some d =>
    cases d with
    | none => rfl
    | some d => simp [run_bind, same d hb]

/-- A registration is refused, or the name has no other class and is bound. -/
theorem register_cases (name : Value) (new : Option ProviderClass) :
    (∃ f, register name new (c, log) = .error f (c, log)) ∨
      ∃ key record, name.key? = some key ∧
        (∀ d, find? key c.bindings = some (some d) → new = some d) ∧
        register name new (c, log) =
          .ok () ({ c with bindings := bind name new c.bindings }, log ++ [record]) := by
  cases hk : name.key? with
  | none => exact .inl ⟨_, by rw [register, run_bind, nameKey_of_none c log hk]⟩
  | some key =>
    by_cases same : ∀ d, find? key c.bindings = some (some d) → new = some d
    · exact .inr ⟨key, _, rfl, same, register_accepts c log hk same⟩
    · obtain ⟨d, other⟩ := Classical.not_forall.mp same
      obtain ⟨hb, hne⟩ := Classical.not_imp.mp other
      exact .inl ⟨_, register_refuses c log hk hb hne⟩

end

/-! ## Lookups -/

/-- The catalog that an operation leaves. -/
def left {α : Type} (x : Cataloguing α) (s : Catalog × List LogRecord) : Catalog :=
  match x s with
  | .ok _ s' => s'.1
  | .error _ s' => s'.1

theorem left_of_ok {α : Type} {x : Cataloguing α} {s s' : Catalog × List LogRecord} {a : α}
    (h : x s = .ok a s') : left x s = s'.1 := by
  rw [left, h]

theorem left_of_error {α : Type} {x : Cataloguing α} {s s' : Catalog × List LogRecord}
    {f : Failure} (h : x s = .error f s') : left x s = s'.1 := by
  rw [left, h]

section

variable (s : Catalog × List LogRecord)

theorem names_run : names s =
    match discover s with
    | .ok _ s' => .ok s'.1.allNames s'
    | .error f s' => .error f s' := by
  rw [names, run_bind]
  cases discover s <;> rfl

theorem isAvailable_run (name : Value) : isAvailable name s =
    match discover s with
    | .ok _ s' =>
      match name.key? with
      | some key => .ok (find? key s'.1.bindings).isSome s'
      | none => .error (.unhashable name.typeName) s'
    | .error f s' => .error f s' := by
  rw [isAvailable, run_bind]
  cases discover s with
  | error => rfl
  | ok _ s' => cases hk : name.key? <;> simp [run_bind, run_map, nameKey, hk, bindings?]

theorem select_run (name : Value) : select name s =
    match discover s with
    | .ok _ s' =>
      match name.key? with
      | some key =>
        match (find? key s'.1.bindings).join with
        | some c => .ok c s'
        | none => .error (.notFound name s'.1.allNames) s'
      | none => .error (.unhashable name.typeName) s'
    | .error f s' => .error f s' := by
  rw [select, run_bind]
  cases discover s with
  | error => rfl
  | ok _ s' =>
    cases hk : name.key? with
    | none => simp [run_bind, nameKey, hk]
    | some key =>
      cases hb : (find? key s'.1.bindings).join <;> simp [run_bind, nameKey, hk, bindings?, hb]

end

/-- The operations that look at a catalog, after a discovery. -/
inductive Lookup : {α : Type} → Cataloguing α → Prop where
  | discover : Lookup discover
  | names : Lookup names
  | isAvailable (name : Value) : Lookup (isAvailable name)
  | select (name : Value) : Lookup (select name)

namespace Lookup

variable {α : Type} {x : Cataloguing α} {s s' : Catalog × List LogRecord} {f : Failure}

/-- A lookup fails as its discovery does. -/
theorem fails (h : Lookup x) (hd : Catalog.discover s = .error f s') : x s = .error f s' := by
  cases h with
  | discover => exact hd
  | names => rw [names_run, hd]
  | isAvailable name => rw [isAvailable_run, hd]
  | select name => rw [select_run, hd]

/-- After its discovery a lookup leaves everything as it is. -/
theorem stays (h : Lookup x) (hd : Catalog.discover s = .ok () s') :
    (∃ a, x s = .ok a s') ∨ ∃ f, x s = .error f s' := by
  cases h with
  | discover => exact .inl ⟨_, hd⟩
  | names => exact .inl ⟨_, by rw [names_run, hd]⟩
  | isAvailable name =>
    cases hk : name.key? with
    | none => exact .inr ⟨_, by rw [isAvailable_run, hd, hk]⟩
    | some key => exact .inl ⟨_, by rw [isAvailable_run, hd, hk]⟩
  | select name =>
    cases hk : name.key? with
    | none => exact .inr ⟨_, by rw [select_run, hd, hk]⟩
    | some key =>
      cases hb : (find? key s'.1.bindings).join with
      | none => exact .inr ⟨_, by simp [select_run, hd, hk, hb]; rfl⟩
      | some c => exact .inl ⟨_, by simp [select_run, hd, hk, hb]; rfl⟩

theorem left_eq (h : Lookup x) (s : Catalog × List LogRecord) :
    left x s = left Catalog.discover s := by
  cases hd : Catalog.discover s with
  | error f s' => rw [left_of_error hd, left_of_error (h.fails hd)]
  | ok _ s' =>
    rcases h.stays hd with ⟨a, hrun⟩ | ⟨f, hrun⟩
    · rw [left_of_ok hd, left_of_ok hrun]
    · rw [left_of_ok hd, left_of_error hrun]

end Lookup

/-! ## What is kept -/

/-- Every name is one, and none is there twice. -/
structure Distinct (names : List Value) : Prop where
  keyed : ∀ name ∈ names, name.key? ≠ none
  once : (names.map Value.key?).Nodup

theorem Distinct.concat {names : List Value} (h : Distinct names) (hk : name.key? = some key)
    (new : some key ∉ names.map Value.key?) : Distinct (names ++ [name]) where
  keyed n hn := by
    rcases List.mem_append.mp hn with hn | hn
    · exact h.keyed n hn
    · rw [List.mem_singleton.mp hn, hk]
      exact Option.some_ne_none key
  once := by
    rw [List.map_append, List.map_singleton, hk, List.nodup_append]
    refine ⟨h.once, by simp, ?_⟩
    rintro k hmem _ hk' rfl
    exact new (List.mem_singleton.mp hk' ▸ hmem)

/-- Names keep their classes, and their places in the list of names. -/
structure Grows (bs bs' : Bindings) : Prop where
  kept : ∀ key d, find? key bs = some (some d) → find? key bs' = some (some d)
  names : bs.map (·.1) <+: bs'.map (·.1)
  distinct : Distinct (bs.map (·.1)) → Distinct (bs'.map (·.1))

namespace Grows

variable {bs bs' bs'' : Bindings}

theorem refl (bs : Bindings) : Grows bs bs := ⟨fun _ _ h => h, List.prefix_rfl, id⟩

theorem trans (h : Grows bs bs') (h' : Grows bs' bs'') : Grows bs bs'' where
  kept key d hd := h'.kept key d (h.kept key d hd)
  names := h.names.trans h'.names
  distinct hd := h'.distinct (h.distinct hd)

/-- A name that was bound stays bound. -/
theorem bound (h : Grows bs bs') {key : Key} (hb : (find? key bs).isSome) :
    (find? key bs').isSome := by
  rw [find?_isSome_iff] at hb ⊢
  exact (h.names.map Value.key?).subset hb

theorem bind {name : Value} {key : Key} (hk : name.key? = some key) {new : Option ProviderClass}
    (same : ∀ d, find? key bs = some (some d) → new = some d) :
    Grows bs (Catalog.bind name new bs) where
  kept k d hd := by
    rw [find?_bind hk]
    by_cases h : key = k
    · subst h
      rw [if_pos rfl, same d hd]
    · rwa [if_neg h]
  names := by
    cases hb : find? key bs with
    | none => simp [bind_new hk hb]
    | some d =>
      have was : (find? key bs).isSome := by simp [hb]
      exact names_bind_bound hk was ▸ List.prefix_rfl
  distinct hd := by
    cases hb : find? key bs with
    | none =>
      have new : some key ∉ (bs.map (·.1)).map Value.key? := by
        rw [← find?_isSome_iff, hb]
        exact Bool.false_ne_true
      rw [bind_new hk hb, List.map_append]
      exact hd.concat hk new
    | some d =>
      rw [names_bind_bound hk (by simp [hb])]
      exact hd

theorem brings (e : EntryPoint) (bs : Bindings) : Grows bs (bs ++ e.brings bs) := by
  unfold EntryPoint.brings
  split
  · simpa using refl bs
  · next key hk =>
    split
    · next d hb _ =>
      rw [← bind_new hk hb]
      exact bind hk (by simp [hb])
    · simpa using refl bs

theorem brought (bs : Bindings) (es : List EntryPoint) : Grows bs (bs ++ Catalog.brought bs es) := by
  induction es generalizing bs with
  | nil => simpa [Catalog.brought] using refl bs
  | cons e rest ih =>
    have first := (brings e bs).trans (ih (bs ++ e.brings bs))
    simpa [Catalog.brought] using first

end Grows

/-! ## Uses -/

/-- The operations on a catalog. -/
inductive Operation : {α : Type} → Cataloguing α → Prop where
  | lookup {α : Type} {x : Cataloguing α} (lookup : Lookup x) : Operation x
  | register (name : Value) (c : Option ProviderClass) : Operation (register name c)

/-- What steps that satisfy `P` do to a catalog: they perform an operation on it, or announce other
entry points. -/
inductive Use (P : Step → Prop) (c : Catalog) : Catalog → Prop where
  | perform {α : Type} {x : Cataloguing α} (operation : Operation x) (log : List LogRecord) :
      Use P c (left x (c, log))
  | announce (announced : List EntryPoint) (reset : Bool)
      (allowed : P (.entryPoints announced reset)) : Use P c (c.announce announced reset)

abbrev Uses (P : Step → Prop) : Catalog → Catalog → Prop := Relation.ReflTransGen (Use P)

section

variable {P : Step → Prop} {c c' : Catalog}

theorem left_discover (c : Catalog) (log : List LogRecord) :
    left discover (c, log) = c ∨
      ∃ es discovered, left discover (c, log) = c.extended es discovered := by
  cases hrun : discover (c, log) with
  | ok _ s =>
    rw [left_of_ok hrun]
    rcases discover_returns c log hrun with ⟨-, same⟩ | ⟨-, -, extended⟩
    · exact .inl same
    · exact .inr ⟨_, _, extended⟩
  | error f s =>
    rw [left_of_error hrun]
    obtain ⟨before, -, extended⟩ := discover_fails c log hrun
    exact .inr ⟨_, _, extended⟩

theorem Use.grows (h : Use P c c') : Grows c.bindings c'.bindings := by
  cases h with
  | announce => exact .refl _
  | perform operation log =>
    cases operation with
    | lookup lookup =>
      rw [lookup.left_eq]
      rcases left_discover c log with hl | ⟨es, discovered, hl⟩
      · rw [hl]
        exact .refl _
      · rw [hl]
        exact .brought c.bindings es
    | register name new =>
      rcases register_cases c log name new with ⟨f, hrun⟩ | ⟨key, record, hk, same, hrun⟩
      · rw [left_of_error hrun]
        exact .refl _
      · rw [left_of_ok hrun]
        exact .bind hk same

theorem Uses.grows (h : Uses P c c') : Grows c.bindings c'.bindings := by
  induction h with
  | refl => exact .refl _
  | tail _ use ih => exact ih.trans use.grows

end

end Catalog

end Tracing
