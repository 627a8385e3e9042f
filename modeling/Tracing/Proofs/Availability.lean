import Tracing.Proofs.Discovery
import Tracing.Proofs.Making

/-!
# Tracing.Proofs.Availability

Which names a catalog has available, and what is created by them.

* `Finds`, `instantiate_finds` — the making of a provider never fails for want of a name.
* `names_found`, `isAvailable_found`, `create_found` — the operations, after a discovery.
* `World.Agrees`     — a name is listed exactly if it is available, and a provider is created by it
  exactly then.
* `Catalog.ClassUse` — a use of a catalog that binds and announces classes only.
* `available_exactly` — availability and creation agree on all names but those bound to nothing, of
  which a catalog of classes has none.
-/

namespace Tracing

open Act Catalog

/-! ## Failures for want of a name -/

/-- Whether a catalog had no class for a name. -/
def Failure.isNotFound : Failure → Bool
  | .notFound .. => true
  | _ => false

/-- It does not fail for want of a name. -/
def Finds {α : Type} (x : Except Failure α) : Prop := ∀ e, x = .error e → e.isNotFound = false

namespace Finds

variable {α β : Type}

theorem ok (a : α) : Finds (.ok a) := nofun

theorem error {e : Failure} (h : e.isNotFound = false) : Finds (.error e : Except Failure α) := by
  rintro _ ⟨⟩
  exact h

theorem bind {x : Except Failure α} {f : α → Except Failure β} (hx : Finds x)
    (hf : ∀ a, Finds (f a)) : Finds (x >>= f) := by
  intro e h
  rcases bind_eq_error_iff.mp h with h | ⟨a, -, h⟩
  · exact hx e h
  · exact hf a e h

theorem guarded {b : Bool} {e : Failure} (h : e.isNotFound = false) :
    Finds (if b then throw e else pure () : Except Failure Unit) := by
  cases b
  · exact .ok ()
  · exact .error h

end Finds

section

variable (v v' : Value) (o : Options) (b : BatchOptions)

theorem Value.elements_finds : Finds v.elements := by
  unfold Value.elements
  split
  · exact .ok _
  · exact .error rfl

theorem Value.atMost_finds : Finds (v.atMost v') := by
  unfold Value.atMost
  split
  · exact .ok _
  · exact .error rfl

theorem Value.exceeds_finds : Finds (v.exceeds v') := by
  unfold Value.exceeds
  split
  · exact .ok _
  · exact .error rfl

theorem Value.contains_finds : Finds (v.contains v') := by
  unfold Value.contains
  repeat' split
  all_goals first
    | exact .ok _
    | exact .error rfl

theorem Value.bindPairs_finds (entries : List (Value × Value)) (index : Nat)
    (items : List Value) : Finds (Value.bindPairs entries index items) := by
  induction items generalizing entries index with
  | nil => exact .ok _
  | cons v rest ih =>
    unfold Value.bindPairs
    split
    next e h =>
      unfold Value.pairAt at h
      repeat' split at h
      all_goals cases h
      all_goals exact .error rfl
    next => exact ih _ _

theorem Value.update_finds (old : List (Value × Value)) : Finds (Value.update old v) := by
  unfold Value.update
  split
  · exact .ok _
  · split
    next e h => exact .error (v.elements_finds e h)
    next => exact Value.bindPairs_finds _ _ _

theorem Batching.get_finds (batching : Batching) (firstField : String) :
    Finds (batching.get firstField) := by
  cases batching with
  | options b => exact .ok b
  | other v => exact .error rfl

theorem Options.requirePositive_finds (field : String) :
    Finds (Options.requirePositive field v) :=
  (v.atMost_finds _).bind fun _ => .guarded rfl

theorem Options.check_finds : Finds o.check := by
  unfold Options.check
  split
  · exact .error rfl
  · refine (Batching.get_finds _ _).bind fun b => ?_
    refine (Options.requirePositive_finds _ _).bind fun _ => ?_
    refine (Options.requirePositive_finds _ _).bind fun _ => ?_
    refine (Value.exceeds_finds _ _).bind fun above => ?_
    cases above with
    | true => exact .error rfl
    | false =>
      exact (Options.requirePositive_finds _ _).bind fun _ => Options.requirePositive_finds _ _

theorem resourceOf_finds : Finds (resourceOf o) :=
  (Value.update_finds _ _).bind fun _ => .ok _

theorem Value.unwritten?_finds {e : Failure} (h : v.unwritten? = some e) :
    e.isNotFound = false := by
  obtain ⟨o, -, rfl⟩ := Option.map_eq_some_iff.mp h
  rfl

/-- The text of a value can only be missing. -/
theorem Wording.written_finds (before : Text) :
    Finds (((before : Wording) ++ v.wording).written) := by
  intro e h
  simp only [Wording.written, Wording.fault?_append, Option.none_or, Value.wording] at h
  split at h
  · cases h
  next hu =>
    cases h
    exact v.unwritten?_finds hu

theorem Endpoint.ofOptions_finds : Finds (Endpoint.ofOptions o) := by
  refine (Value.contains_finds _ _).bind fun marked => ?_
  cases marked with
  | false => exact (Wording.written_finds _ _).bind fun _ => .ok _
  | true =>
    simp only [if_true]
    split
    · exact .ok _
    · exact .error rfl

theorem BatchOptions.checkSizes_finds : Finds b.checkSizes := by
  have refuse : ∀ fault refused, Finds (BatchOptions.refuse fault refused) := by
    intro fault refused
    cases refused
    · exact .ok ()
    · exact .error rfl
  refine (Value.atMost_finds _ _).bind fun _ => (refuse _ _).bind fun _ => ?_
  refine (Value.atMost_finds _ _).bind fun _ => (refuse _ _).bind fun _ => ?_
  refine (Value.atMost_finds _ _).bind fun _ => (refuse _ _).bind fun _ => ?_
  refine (Value.exceeds_finds _ _).bind fun _ => (refuse _ _).bind fun _ => ?_
  unfold BatchOptions.checkLength
  repeat' split
  all_goals first
    | exact .ok ()
    | exact .error rfl

theorem Pipeline.exportProcessor_finds : Finds (Pipeline.exportProcessor o) := by
  refine (Endpoint.ofOptions_finds o).bind fun endpoint => ?_
  refine (Batching.get_finds _ _).bind fun b => ?_
  split
  · exact .ok _
  · exact (BatchOptions.checkSizes_finds b).bind fun _ => .ok _

end

theorem build_finds {plan : Recorder.Plan} {w w' : World} {e : Failure}
    (h : plan.build w = .error e w') : e.isNotFound = false := by
  cases hp : plan.pipelines with
  | some ps =>
    rw [build_given hp] at h
    cases h
  | none =>
    cases hx : plan.options.exports with
    | false =>
      rw [build_unexporting hp hx] at h
      cases h
    | true =>
      rw [build_exporting hp hx] at h
      cases hb : Pipeline.exportProcessor plan.options with
      | ok made =>
        rw [hb] at h
        cases h
      | error e' =>
        rw [hb] at h
        cases h
        exact Pipeline.exportProcessor_finds _ _ hb

theorem make_finds {plan : Recorder.Plan} {w w' : World} {e : Failure}
    (h : Recorder.make plan w = .error e w') : e.isNotFound = false := by
  rw [make_run] at h
  cases hc : plan.options.check with
  | error e' =>
    rw [hc] at h
    cases h
    exact Options.check_finds _ _ hc
  | ok =>
    cases ha : plan.attributes with
    | error e' =>
      rw [hc, ha] at h
      cases h
      have finds : Finds plan.attributes := by
        unfold Recorder.Plan.attributes
        split
        · exact .ok _
        · exact resourceOf_finds _
      exact finds _ ha
    | ok resource =>
      cases hb : plan.build w with
      | error e' w₁ =>
        rw [hc, ha, hb] at h
        cases h
        exact build_finds hb
      | ok ps w₁ =>
        rw [hc, ha, hb] at h
        dsimp only at h
        split at h
        · cases h
        next hu =>
          cases h
          exact Value.unwritten?_finds _ hu

theorem instantiate_recorder {c : ProviderClass} (h : c.instances = .recorder) (o : Options) :
    c.instantiate o = .recorder <$> Recorder.make { className := c.className, options := o } := by
  simp [ProviderClass.instantiate, h]

/-- Whatever goes wrong in the making of a provider, its name was found. -/
theorem instantiate_finds {o : Options} {c : ProviderClass} {w w' : World} {e : Failure}
    (h : c.instantiate o w = .error e w') : e.isNotFound = false := by
  cases hi : c.instances with
  | recorder =>
    rw [instantiate_recorder hi, run_map] at h
    cases hm : Recorder.make { className := c.className, options := o } w with
    | ok r w₁ =>
      rw [hm] at h
      cases h
    | error e' w₁ =>
      rw [hm] at h
      cases h
      exact make_finds hm
  | noop | minimal =>
    simp only [ProviderClass.instantiate, hi] at h
    cases h
  | interface | exploding =>
    simp only [ProviderClass.instantiate, hi] at h
    cases h
    rfl

/-! ## Lookups and creations -/

/-- Options by which a provider is to be looked up. -/
structure Options.Asks (o : Options) (t : Text) : Prop where
  enabled : o.enabled.isTruthy = true
  named : o.provider = .str t

theorem Options.asks_default (t : Text) : ({ provider := .str t } : Options).Asks t := ⟨rfl, rfl⟩

namespace World

/-- What a text stands for in the catalog. -/
def bound? (w : World) (t : Text) : Option (Option ProviderClass) :=
  find? (.text t) w.catalog.bindings

/-- The text is found to be a name. -/
def Available (w : World) (t : Text) : Prop :=
  ∃ w', Act.catalog (isAvailable (.str t)) w = .ok true w'

/-- The text is in the list of all names. -/
def Listed (w : World) (t : Text) : Prop :=
  ∃ names w', Act.catalog Catalog.names w = .ok names w' ∧ .str t ∈ names

/-- A creation with options is refused for want of the provider that they name. -/
def NotFound (w : World) (o : Options) : Prop :=
  ∃ names w', Provider.create o w = .error (.notFound o.provider names) w'

/-- A class makes a provider with options, and a record names it by a text. -/
def createdBy (d : ProviderClass) (o : Options) (t : Text) (w : World) :
    EStateM.Result Failure World Provider :=
  match d.instantiate o w with
  | .ok p w' =>
    .ok p { w' with
      log := w'.log ++ [⟨.info, Provider.catalogLogger, "Created tracer provider: " ++ t⟩] }
  | .error e w' => .error e w'

/-- Availability and creation agree on a text: it is listed exactly if it is available, and a
creation is refused for want of it exactly if it is not; else its class makes the provider. -/
structure Agrees (w : World) (t : Text) : Prop where
  listed_iff : w.Listed t ↔ w.Available t
  notFound_iff : ∀ o : Options, o.Asks t → (w.NotFound o ↔ ¬w.Available t)
  created : ∀ o : Options, o.Asks t → w.Available t → ∃ d w',
    Act.catalog discover w = .ok () w' ∧ w'.bound? t = some (some d) ∧
      Provider.create o w = createdBy d o t w'

/-- What is known of a text in a world of which a discovery makes `w'`. -/
structure AvailableExactly (w w' : World) (t : Text) : Prop where
  available : ∃ available, Act.catalog (isAvailable (.str t)) w = .ok available w' ∧
    (available = true ↔ (w'.bound? t).isSome)
  listed : ∃ names, Act.catalog Catalog.names w = .ok names w' ∧
    (.str t ∈ names ↔ (w'.bound? t).isSome)
  notFound_iff : ∀ o : Options, o.Asks t → (w.NotFound o ↔ (w'.bound? t).join = none)
  created : ∀ (o : Options) (d : ProviderClass), o.Asks t → w'.bound? t = some (some d) →
    Provider.create o w = createdBy d o t w'
  /-- A name that is bound to nothing is listed and available, and no provider is found by it. -/
  agrees_iff : w.Agrees t ↔ w'.bound? t ≠ some none

section

variable {w w' : World} {t : Text} {o : Options}

theorem catalog_ok {α : Type} {x : Cataloguing α} {a : α} (h : Act.catalog x w = .ok a w') :
    ∃ c log, x (w.catalog, []) = .ok a (c, log) ∧
      w' = { w with catalog := c, log := w.log ++ log } := by
  unfold Act.catalog at h
  split at h
  next b c log hx =>
    cases h
    exact ⟨c, log, hx, rfl⟩
  next => cases h

theorem names_found (found : Act.catalog discover w = .ok () w') :
    Act.catalog Catalog.names w = .ok w'.catalog.allNames w' := by
  obtain ⟨c, log, hd, rfl⟩ := catalog_ok found
  simp [Act.catalog, names_run, hd]

theorem isAvailable_found (found : Act.catalog discover w = .ok () w') (t : Text) :
    Act.catalog (isAvailable (.str t)) w = .ok (w'.bound? t).isSome w' := by
  obtain ⟨c, log, hd, rfl⟩ := catalog_ok found
  simp [Act.catalog, isAvailable_run, hd, Value.key?, bound?]

theorem select_found (found : Act.catalog discover w = .ok () w') (t : Text) :
    Act.catalog (Catalog.select (.str t)) w =
      match (w'.bound? t).join with
      | some d => .ok d w'
      | none => .error (.notFound (.str t) w'.catalog.allNames) w' := by
  obtain ⟨c, log, hd, rfl⟩ := catalog_ok found
  simp only [Act.catalog, select_run, hd, Value.key?, bound?]
  cases (find? (.text t) c.bindings).join <;> rfl

/-- A creation with options that are to be looked up. -/
theorem create_found (found : Act.catalog discover w = .ok () w') (asks : o.Asks t) :
    Provider.create o w =
      match (w'.bound? t).join with
      | some d => createdBy d o t w'
      | none => .error (.notFound (.str t) w'.catalog.allNames) w' := by
  rw [create_enabled asks.enabled, run_bind, asks.named, select_found found]
  cases (w'.bound? t).join with
  | none => rfl
  | some d =>
    dsimp only
    rw [run_bind, createdBy]
    cases d.instantiate o w' <;> rfl

theorem createdBy_finds {d : ProviderClass} {e : Failure} {w'' : World}
    (h : createdBy d o t w = .error e w'') : e.isNotFound = false := by
  unfold createdBy at h
  cases hi : d.instantiate o w with
  | ok p w₁ =>
    rw [hi] at h
    cases h
  | error e' w₁ =>
    rw [hi] at h
    cases h
    exact instantiate_finds hi

theorem notFound_iff (found : Act.catalog discover w = .ok () w') (asks : o.Asks t) :
    w.NotFound o ↔ (w'.bound? t).join = none := by
  unfold NotFound
  rw [create_found found asks]
  cases (w'.bound? t).join with
  | none => simp [asks.named]
  | some d =>
    refine iff_of_false ?_ nofun
    rintro ⟨names, w'', h⟩
    exact Bool.noConfusion (createdBy_finds h)

theorem mem_allNames_iff (c : Catalog) (t : Text) :
    .str t ∈ c.allNames ↔ (find? (.text t) c.bindings).isSome := by
  have text : ∀ v : Value, v.key? = some (.text t) ↔ v = .str t := by
    intro v
    cases v <;> simp [Value.key?]
  rw [find?_isSome_iff]
  change _ ↔ some (.text t) ∈ c.allNames.map Value.key?
  simp only [List.mem_map, text, exists_eq_right]

theorem available_iff (found : Act.catalog discover w = .ok () w') (t : Text) :
    w.Available t ↔ (w'.bound? t).isSome := by
  simp [Available, isAvailable_found found]

theorem listed_iff (found : Act.catalog discover w = .ok () w') (t : Text) :
    w.Listed t ↔ (w'.bound? t).isSome := by
  simp [Listed, names_found found, mem_allNames_iff, bound?]

theorem agrees_iff (found : Act.catalog discover w = .ok () w') (t : Text) :
    w.Agrees t ↔ w'.bound? t ≠ some none := by
  have available := available_iff found t
  constructor
  · intro agrees void
    -- what is bound to nothing is available, and refused
    have refused := (notFound_iff found (Options.asks_default t)).mpr (by rw [void]; rfl)
    exact (agrees.notFound_iff _ (Options.asks_default t)).mp refused
      (available.mpr (by rw [void]; rfl))
  · intro filled
    have join : (w'.bound? t).join = none ↔ ¬(w'.bound? t).isSome = true := by
      rcases hb : w'.bound? t with _ | _ | d
      · simp
      · exact absurd hb filled
      · simp
    exact
      { listed_iff := (listed_iff found t).trans available.symm
        notFound_iff := fun o asks => by rw [notFound_iff found asks, available, join]
        created := fun o asks h => by
          rcases hb : w'.bound? t with _ | _ | d
          · rw [available, hb] at h
            cases h
          · exact absurd hb filled
          · exact ⟨d, w', found, hb, by rw [create_found found asks, hb]; rfl⟩ }

end

end World

/-! ## Catalogs of classes -/

namespace Catalog

/-- A use of a catalog that binds and announces classes only. What cannot be loaded may be announced
as well. -/
inductive ClassUse (c : Catalog) : Catalog → Prop where
  | lookup {α : Type} {x : Cataloguing α} (lookup : Lookup x) (log : List LogRecord) :
      ClassUse c (left x (c, log))
  | register (name : Value) (d : ProviderClass) (log : List LogRecord) :
      ClassUse c (left (register name (some d)) (c, log))
  | announce (announced : List EntryPoint) (reset : Bool)
      (loads : ∀ e ∈ announced, e.load ≠ .gives none) : ClassUse c (c.announce announced reset)

/-- No name is bound to nothing, and none is announced to be. -/
structure OfClasses (c : Catalog) : Prop where
  bound : ∀ key, find? key c.bindings ≠ some none
  announced : ∀ e ∈ c.announced, e.load ≠ .gives none

namespace OfClasses

variable {c c' : Catalog}

theorem initial : OfClasses {} where
  bound key h := by
    simp only [find?] at h
    repeat' split at h
    all_goals cases h
  announced e he := by
    simp only [List.mem_cons, List.not_mem_nil, or_false] at he
    rcases he with rfl | rfl
    all_goals
      intro h
      cases h

theorem extended (h : c.OfClasses) {es : List EntryPoint} (announced : es ⊆ c.announced)
    (discovered : Bool) : (c.extended es discovered).OfClasses where
  bound key hb := by
    rw [Catalog.extended, find?_brought, Option.or_eq_some_iff] at hb
    rcases hb with hb | ⟨-, hb⟩
    · exact h.bound key hb
    · obtain ⟨e, he, given⟩ := List.exists_of_findSome?_eq_some hb
      unfold EntryPoint.given? at given
      split at given
      next d hl =>
        split at given
        · cases given
          exact h.announced e (announced he) hl
        · cases given
      next => cases given
  announced := h.announced

theorem discovered (h : c.OfClasses) (log : List LogRecord) :
    (left Catalog.discover (c, log)).OfClasses := by
  cases hrun : Catalog.discover (c, log) with
  | ok _ s =>
    rw [left_of_ok hrun]
    rcases discover_returns c log hrun with ⟨-, same⟩ | ⟨-, -, extended⟩
    · exact same ▸ h
    · exact extended ▸ h.extended (List.Subset.refl _) true
  | error f s =>
    rw [left_of_error hrun]
    obtain ⟨before, halts, extended⟩ := discover_fails c log hrun
    obtain ⟨e, rest, announced, -⟩ := halts.objection
    rw [extended]
    exact h.extended (announced ▸ List.subset_append_left before _) false

/-- Whatever is done with classes only, no name is bound to nothing. -/
theorem used (h : c.OfClasses) (use : ClassUse c c') : c'.OfClasses := by
  cases use with
  | lookup lookup log =>
    rw [lookup.left_eq]
    exact h.discovered log
  | register name d log =>
    rcases register_cases c log name (some d) with ⟨f, hrun⟩ | ⟨key, record, hk, -, hrun⟩
    · rw [left_of_error hrun]
      exact h
    · rw [left_of_ok hrun]
      refine ⟨fun k hb => ?_, h.announced⟩
      rw [find?_bind hk] at hb
      split at hb
      · cases hb
      · exact h.bound k hb
  | announce announced reset loads => exact ⟨h.bound, loads⟩

theorem of_uses (uses : Relation.ReflTransGen ClassUse {} c) : c.OfClasses := by
  induction uses with
  | refl => exact initial
  | tail _ use ih => exact ih.used use

end OfClasses

end Catalog

/-! ## Availability -/

/-- In a world that can be discovered, availability and creation agree on all names but those bound
to nothing; in a catalog of classes they agree on all. -/
theorem available_exactly {w w' : World} (found : Act.catalog discover w = .ok () w') :
    (∀ t, w.AvailableExactly w' t) ∧
      (Relation.ReflTransGen ClassUse {} w.catalog → ∀ t, w.Agrees t) := by
  refine ⟨fun t => ?_, fun uses t => ?_⟩
  · exact
      { available := ⟨_, World.isAvailable_found found t, Iff.rfl⟩
        listed := ⟨_, World.names_found found, World.mem_allNames_iff _ t⟩
        notFound_iff := fun o => World.notFound_iff found
        created := fun o d asks hb => by rw [World.create_found found asks, hb]; rfl
        agrees_iff := World.agrees_iff found t }
  · rw [World.agrees_iff found]
    have classes := (OfClasses.of_uses uses).discovered []
    obtain ⟨c, log, hd, rfl⟩ := World.catalog_ok found
    rw [left_of_ok hd] at classes
    exact classes.bound _

/-! A package announces a provider that it does not have, as one whose optional parts are missing
may do, before another one. -/

def voidPoint : EntryPoint := ⟨.str "x", .str "pkg:X", .gives none⟩

def voidWorld : World := { catalog := { announced := [voidPoint, customPoint] } }

theorem void_discovered : ∃ w', Act.catalog discover voidWorld = .ok () w' ∧
    w'.bound? "x" = some none ∧ w'.bound? "a" = some (some .custom) :=
  ⟨_, rfl, by decide +kernel, by decide +kernel⟩

theorem void_world_available : ∃ w', Act.catalog discover voidWorld = .ok () w' ∧
    (∀ t, voidWorld.AvailableExactly w' t) ∧ voidWorld.Agrees "a" := by
  obtain ⟨w', found, -, filled⟩ := void_discovered
  have exactly := available_exactly found
  exact ⟨w', found, exactly.1, (exactly.1 "a").agrees_iff.mpr (by rw [filled]; nofun)⟩

/-- The name is listed and available, and by it no provider is found. -/
theorem void_name_refused : voidWorld.Listed "x" ∧ voidWorld.Available "x" ∧
    voidWorld.NotFound { provider := .str "x" } ∧ ¬voidWorld.Agrees "x" := by
  obtain ⟨w', found, void, -⟩ := void_discovered
  refine ⟨?_, ?_, ?_, ?_⟩
  · rw [World.listed_iff found, void]
    rfl
  · rw [World.available_iff found, void]
    rfl
  · rw [World.notFound_iff found (Options.asks_default "x"), void]
    rfl
  · rw [World.agrees_iff found]
    exact fun filled => filled void

end Tracing
