import Tracing.Proofs.Bindings

/-!
# Tracing.Proofs.Discovery

The discovery of entry points that give classes of the modules that they name.

* `EntryPoint.Faithful` — an entry point that does.
* `EntryPoint.Settled`  — its name is bound to a class of that module. An entry point that was taken
  up is settled from then on, and a settled one is passed over.
* `Agree`               — the modules of a name are one, whatever the order of the entry points.
  `admits_iff_agree` — so they can all be taken up, in turn.
* `discovery_unordered` — the discoveries of entry points in two orders come to the same.
-/

namespace Tracing

open Act Catalog

namespace EntryPoint

variable {e e' : EntryPoint} {bs bs' : Bindings} {key : Key}

/-- The entry point gives a class of the module that it names. -/
def Faithful (e : EntryPoint) : Prop :=
  ∃ d, e.load = .gives (some d) ∧ e.moduleName = .ok d.moduleName

/-- The name of the entry point is bound to a class of the module that it names. -/
def Settled (e : EntryPoint) (bs : Bindings) : Prop :=
  ∃ key d, e.name.key? = some key ∧ find? key bs = some (some d) ∧ e.moduleName = .ok d.moduleName

/-! ## Settled entry points -/

theorem Settled.unobjected (h : e.Settled bs) : e.objection? bs = none := by
  obtain ⟨key, d, hk, hb, hm⟩ := h
  simp [objection?, hk, hb, hm]

theorem Settled.brings_nothing (h : e.Settled bs) : e.brings bs = [] := by
  obtain ⟨key, d, hk, hb, -⟩ := h
  simp [brings, hk, hb]

theorem Settled.grows (h : e.Settled bs) (grows : Grows bs bs') : e.Settled bs' := by
  obtain ⟨key, d, hk, hb, hm⟩ := h
  exact ⟨key, d, hk, grows.kept key d hb, hm⟩

theorem Settled.of_same (h : e.Settled bs) (hk : e'.name.key? = e.name.key?)
    (hm : e'.moduleName = e.moduleName) : e'.Settled bs := by
  obtain ⟨key, d, hk', hb, hm'⟩ := h
  exact ⟨key, d, hk.trans hk', hb, hm.trans hm'⟩

theorem given?_eq_some {d : Option ProviderClass} :
    e.given? key = some d ↔ e.load = .gives d ∧ e.name.key? = some key := by
  unfold given?
  cases e.load with
  | raises f => simp
  | gives c => by_cases hk : e.name.key? = some key <;> simp [hk]

/-- A faithful entry point is taken up if its name is new, and if it is settled. -/
theorem Faithful.unobjected (h : e.Faithful) (hk : e.name.key? = some key)
    (hb : (find? key bs).isSome → e.Settled bs) : e.objection? bs = none := by
  cases hf : find? key bs with
  | some c => exact (hb (by rw [hf]; rfl)).unobjected
  | none =>
    obtain ⟨d, hl, -⟩ := h
    simp [objection?, hk, hf, hl]

/-- A faithful entry point is settled once it was taken up. -/
theorem Faithful.settled (h : e.Faithful) (unobjected : e.objection? bs = none) :
    e.Settled (bs ++ e.brings bs) := by
  obtain ⟨d, hl, hm⟩ := h
  unfold objection? at unobjected
  split at unobjected
  · cases unobjected
  · next key hk =>
    split at unobjected
    · cases unobjected
    · next c hb =>
      rw [hm] at unobjected
      dsimp only at unobjected
      split at unobjected
      · next same =>
        exact ⟨key, c, hk, (Grows.brings e bs).kept key c hb, same ▸ hm⟩
      · cases unobjected
    · next hb =>
      have given : e.given? key = some (some d) := given?_eq_some.mpr ⟨hl, hk⟩
      have found : find? key (bs ++ e.brings bs) = some (some d) := by
        rw [find?_append, find?_brings, hb, given, Option.none_or]
      exact ⟨key, d, hk, found, hm⟩

end EntryPoint

namespace Catalog

variable {bs : Bindings} {es es' : List EntryPoint}

/-- Faithful entry points that were taken up are all settled, those also that came first. -/
theorem settled_of_admits (faithful : ∀ e ∈ es, e.Faithful) (h : Admits bs es) :
    ∀ e ∈ es, e.Settled (bs ++ brought bs es) := by
  induction es generalizing bs with
  | nil => exact List.forall_mem_nil _
  | cons e rest ih =>
    obtain ⟨he, faithful⟩ := List.forall_mem_cons.mp faithful
    obtain ⟨unobjected, admits⟩ := h
    rw [brought, ← List.append_assoc]
    refine List.forall_mem_cons.mpr ⟨?_, ih faithful admits⟩
    -- what the rest brings does not take the name of `e` away
    exact (he.settled unobjected).grows (.brought _ rest)

/-- Entry points that are settled bring nothing, and none is objected to. -/
theorem admits_of_settled (h : ∀ e ∈ es, e.Settled bs) : Admits bs es ∧ brought bs es = [] := by
  induction es with
  | nil => exact ⟨trivial, rfl⟩
  | cons e rest ih =>
    obtain ⟨he, h⟩ := List.forall_mem_cons.mp h
    obtain ⟨admits, nothing⟩ := ih h
    have unchanged : bs ++ e.brings bs = bs := by rw [he.brings_nothing, List.append_nil]
    refine ⟨⟨he.unobjected, ?_⟩, ?_⟩
    · rwa [unchanged]
    · rw [brought, unchanged, nothing, he.brings_nothing, List.append_nil]

/-! ## One module for each name -/

/-- Every name is one, and its module is one: that of the class to which it is bound, if it is, and
that which all entry points name that have it. -/
structure Agree (bs : Bindings) (es : List EntryPoint) : Prop where
  keyed : ∀ e ∈ es, ∃ key, e.name.key? = some key
  bound : ∀ e ∈ es, ∀ key, e.name.key? = some key → (find? key bs).isSome → e.Settled bs
  together : ∀ e ∈ es, ∀ e' ∈ es, e.name.key? = e'.name.key? → e.moduleName = e'.moduleName

theorem Agree.perm (h : Agree bs es) (perm : es'.Perm es) : Agree bs es' where
  keyed e he := h.keyed e (perm.subset he)
  bound e he := h.bound e (perm.subset he)
  together e he e' he' := h.together e (perm.subset he) e' (perm.subset he')

theorem Agree.of_admits (faithful : ∀ e ∈ es, e.Faithful) (h : Admits bs es) : Agree bs es where
  keyed e he := by
    obtain ⟨key, d, hk, -, -⟩ := settled_of_admits faithful h e he
    exact ⟨key, hk⟩
  bound e he key hk hb := by
    obtain ⟨key', d, hk', hb', hm⟩ := settled_of_admits faithful h e he
    obtain rfl : key = key' := Option.some.inj (hk.symm.trans hk')
    obtain ⟨c, hc⟩ := Option.isSome_iff_exists.mp hb
    rw [find?_brought, hc, Option.some_or] at hb'
    exact ⟨key, d, hk, hc.trans hb', hm⟩
  together e he e' he' hkk := by
    obtain ⟨key, d, hk, hb, hm⟩ := settled_of_admits faithful h e he
    obtain ⟨key', d', hk', hb', hm'⟩ := settled_of_admits faithful h e' he'
    obtain rfl : key = key' := Option.some.inj (hk.symm.trans (hkk.trans hk'))
    rw [hb] at hb'
    cases hb'
    rw [hm, hm']

/-- The rest agrees with what the first one brought. -/
theorem Agree.rest {e : EntryPoint} (h : Agree bs (e :: es))
    (settled : e.Settled (bs ++ e.brings bs)) : Agree (bs ++ e.brings bs) es where
  keyed e' he' := h.keyed e' (List.mem_cons_of_mem e he')
  bound e' he' key hk hb := by
    -- the name was bound before, or `e` has just brought it
    rw [find?_append, e.find?_brings] at hb
    by_cases old : (find? key bs).isSome
    · exact (h.bound e' (List.mem_cons_of_mem e he') key hk old).grows (.brings e bs)
    · have new : find? key bs = none := by simpa using old
      rw [new, Option.none_or] at hb
      obtain ⟨c, hc⟩ := Option.isSome_iff_exists.mp hb
      have hkk : e'.name.key? = e.name.key? := hk.trans (EntryPoint.given?_eq_some.mp hc).2.symm
      exact settled.of_same hkk
        (h.together e' (List.mem_cons_of_mem e he') e (List.mem_cons_self ..) hkk)
  together e' he' e'' he'' :=
    h.together e' (List.mem_cons_of_mem e he') e'' (List.mem_cons_of_mem e he'')

theorem Agree.admits (faithful : ∀ e ∈ es, e.Faithful) (h : Agree bs es) : Admits bs es := by
  induction es generalizing bs with
  | nil => trivial
  | cons e rest ih =>
    obtain ⟨he, faithful⟩ := List.forall_mem_cons.mp faithful
    obtain ⟨key, hk⟩ := h.keyed e (List.mem_cons_self ..)
    have unobjected := he.unobjected hk (h.bound e (List.mem_cons_self ..) key hk)
    exact ⟨unobjected, ih faithful (h.rest (he.settled unobjected))⟩

/-- Whether entry points are all taken up does not depend on their order. -/
theorem admits_iff_agree (faithful : ∀ e ∈ es, e.Faithful) : Admits bs es ↔ Agree bs es :=
  ⟨.of_admits faithful, Agree.admits faithful⟩

/-! ## Raising and returning -/

section

variable {c : Catalog}

theorem discover_raises_iff (h : c.discovered = false) (log : List LogRecord) :
    (∃ f s, discover (c, log) = .error f s) ↔ ¬Admits c.bindings c.announced := by
  constructor
  · rintro ⟨f, s, hrun⟩ admits
    obtain ⟨records, hrun'⟩ := discover_admits c log h admits
    rw [hrun] at hrun'
    cases hrun'
  · intro objected
    rcases admits_or_halts c.bindings c.announced with admits | ⟨before, f, halts⟩
    · exact absurd admits objected
    · obtain ⟨records, hrun⟩ := discover_halts c log h halts
      exact ⟨f, _, hrun⟩

theorem discover_takes (h : c.discovered = false) {log : List LogRecord}
    {s : Catalog × List LogRecord} (hrun : discover (c, log) = .ok () s) :
    Admits c.bindings c.announced ∧ s.1 = c.extended c.announced true := by
  rcases discover_returns c log hrun with ⟨discovered, -⟩ | ⟨-, taken⟩
  · rw [h] at discovered
    cases discovered
  · exact taken

/-- A discovery that was not made before returns exactly if the modules of each name are one. -/
theorem discover_returns_iff (faithful : ∀ e ∈ c.announced, e.Faithful) (log : List LogRecord) :
    (∃ s, discover (c, log) = .ok () s) ↔
      c.discovered = true ∨ Agree c.bindings c.announced := by
  rw [← admits_iff_agree faithful]
  constructor
  · rintro ⟨s, hrun⟩
    rcases discover_returns c log hrun with ⟨discovered, -⟩ | ⟨-, admits, -⟩
    · exact .inl discovered
    · exact .inr admits
  · intro h
    cases hd : c.discovered with
    | true => exact ⟨_, discover_discovered c log hd⟩
    | false =>
      have admits : Admits c.bindings c.announced :=
        h.resolve_left fun discovered => Bool.false_ne_true (hd.symm.trans discovered)
      obtain ⟨records, hrun⟩ := discover_admits c log hd admits
      exact ⟨_, hrun⟩

/-! ## In any order -/

/-- Where all that is found is the same, it is found whatever comes first. -/
theorem findSome?_of_one {α β : Type} {g : α → Option β} {l : List α}
    (one : ∀ a ∈ l, ∀ b ∈ l, ∀ x y, g a = some x → g b = some y → x = y) {x : β} :
    l.findSome? g = some x ↔ ∃ a ∈ l, g a = some x := by
  refine ⟨List.exists_of_findSome?_eq_some, ?_⟩
  rintro ⟨a, ha, hx⟩
  have found : (l.findSome? g).isSome := List.findSome?_isSome_iff.mpr ⟨a, ha, by rw [hx]; rfl⟩
  obtain ⟨y, hy⟩ := Option.isSome_iff_exists.mp found
  obtain ⟨b, hb, hy'⟩ := List.exists_of_findSome?_eq_some hy
  rw [hy, one a ha b hb x y hx hy']

/-- The first entry point that gives something for a name gives what all of them give. -/
theorem findSome?_given?_perm {key : Key} (perm : es'.Perm es)
    (one : ∀ e ∈ es, ∀ e' ∈ es, e.name.key? = e'.name.key? → e.load = e'.load) :
    es'.findSome? (·.given? key) = es.findSome? (·.given? key) := by
  have same : ∀ e ∈ es, ∀ e' ∈ es, ∀ d d', e.given? key = some d → e'.given? key = some d' →
      d = d' := by
    intro e he e' he' d d' hd hd'
    obtain ⟨hl, hk⟩ := EntryPoint.given?_eq_some.mp hd
    obtain ⟨hl', hk'⟩ := EntryPoint.given?_eq_some.mp hd'
    have loads := one e he e' he' (hk.trans hk'.symm)
    rw [hl, hl'] at loads
    cases loads
    rfl
  have same' : ∀ e ∈ es', ∀ e' ∈ es', ∀ d d', e.given? key = some d → e'.given? key = some d' →
      d = d' := fun e he e' he' => same e (perm.subset he) e' (perm.subset he')
  ext d
  rw [findSome?_of_one same, findSome?_of_one same']
  simp only [perm.mem_iff]

/-- The discovery of `c` beside that of `c` with its entry points in the order of `announced`. -/
structure DiscoverAlike (c : Catalog) (announced : List EntryPoint) : Prop where
  raises : ∀ log log', (∃ f s, discover (c, log) = .error f s) ↔
    ∃ f s, discover ({ c with announced }, log') = .error f s
  mapping : ∀ log log' s s', discover (c, log) = .ok () s →
    discover ({ c with announced }, log') = .ok () s' →
      ∀ key, find? key s.1.bindings = find? key s'.1.bindings
  /-- The discovery returns exactly if the modules of each name are one. -/
  returns_iff : ∀ log, (∃ s, discover (c, log) = .ok () s) ↔ Agree c.bindings c.announced
  settled : ∀ log s, discover (c, log) = .ok () s → ∀ e ∈ c.announced, e.Settled s.1.bindings

/-- The order in which packages announce their entry points makes no difference. -/
theorem discovery_unordered (undiscovered : c.discovered = false)
    (faithful : ∀ e ∈ c.announced, e.Faithful)
    (same : ∀ e ∈ c.announced, ∀ e' ∈ c.announced, e.name.key? = e'.name.key? →
      e.moduleName = e'.moduleName → e.load = e'.load)
    {announced : List EntryPoint} (perm : announced.Perm c.announced) :
    DiscoverAlike c announced where
  raises log log' := by
    have faithful' : ∀ e ∈ announced, e.Faithful := fun e he => faithful e (perm.subset he)
    have agree : Agree c.bindings c.announced ↔ Agree c.bindings announced :=
      ⟨fun h => h.perm perm, fun h => h.perm perm.symm⟩
    rw [discover_raises_iff undiscovered, admits_iff_agree faithful, agree,
      ← admits_iff_agree faithful']
    exact (discover_raises_iff (c := { c with announced }) undiscovered log').symm
  mapping log log' s s' hs hs' key := by
    obtain ⟨admits, left⟩ := discover_takes undiscovered hs
    obtain ⟨-, left'⟩ := discover_takes (c := { c with announced }) undiscovered hs'
    have agree := Agree.of_admits faithful admits
    have one : ∀ e ∈ c.announced, ∀ e' ∈ c.announced, e.name.key? = e'.name.key? →
        e.load = e'.load :=
      fun e he e' he' hk => same e he e' he' hk (agree.together e he e' he' hk)
    calc find? key s.1.bindings
        = (find? key c.bindings).or (c.announced.findSome? (·.given? key)) := by
          rw [left, extended, find?_brought]
      _ = (find? key c.bindings).or (announced.findSome? (·.given? key)) := by
          rw [findSome?_given?_perm perm one]
      _ = find? key s'.1.bindings := by
          rw [left', extended, find?_brought]
  returns_iff log := by
    rw [discover_returns_iff faithful, undiscovered]
    simp
  settled log s hs := by
    obtain ⟨admits, left⟩ := discover_takes undiscovered hs
    rw [left]
    exact settled_of_admits faithful admits

/-! Entry points of two packages, the first of which is announced twice. -/

def customPoint : EntryPoint := ⟨.str "a", .str "custom_pkg:CustomProvider", .gives (some .custom)⟩

def otherPoint : EntryPoint :=
  ⟨.str "b", .str "other_pkg.providers:OtherProvider", .gives (some .other)⟩

def twoPackages : List EntryPoint := [customPoint, otherPoint, customPoint]

theorem mem_twoPackages {e : EntryPoint} (h : e ∈ twoPackages) :
    e = customPoint ∨ e = otherPoint := by
  have h : e = customPoint ∨ e = otherPoint ∨ e = customPoint := by simpa [twoPackages] using h
  grind

theorem twoPackages_faithful : ∀ e ∈ twoPackages, e.Faithful := by
  intro e he
  rcases mem_twoPackages he with rfl | rfl
  · exact ⟨_, rfl, rfl⟩
  · exact ⟨_, rfl, rfl⟩

theorem twoPackages_same : ∀ e ∈ twoPackages, ∀ e' ∈ twoPackages,
    e.name.key? = e'.name.key? → e.moduleName = e'.moduleName → e.load = e'.load := by
  have differ : customPoint.name.key? ≠ otherPoint.name.key? := by decide
  intro e he e' he' hk _
  rcases mem_twoPackages he with rfl | rfl <;> rcases mem_twoPackages he' with rfl | rfl
  · rfl
  · exact absurd hk differ
  · exact absurd hk.symm differ
  · rfl

theorem reversed_packages_alike :
    DiscoverAlike { announced := twoPackages } twoPackages.reverse :=
  discovery_unordered (c := { announced := twoPackages }) rfl twoPackages_faithful twoPackages_same
    twoPackages.reverse_perm

end

end Catalog

end Tracing
