import Tracing.Proofs.Loading
import Tracing.Proofs.Tracers

/-!
# Tracing.Proofs.Misfits

What a load refuses with a failure other than a broken rule.

* `Value.NoDictionary` — a value that cannot be read as a dictionary.
* `Options.Misfit`     — a dictionary with a value of a type that its field cannot have.
* `Surroundings.Escapes` — a path that is too long, a document that nests too deep, or a misfit.
* `load_valid_or_escapes` — a load gives options that pass their check, or names a rule that is
  broken, unless one of these escapes it.
-/

namespace Tracing

open Loading

section

variable {e : Failure} {v : Value}

/-! ## Values -/

namespace Value

theorem elements_error_iff : v.elements = .error e ↔
    v.elements? = none ∧ e = .notIterable v.typeName := by
  unfold elements
  cases v.elements? <;> simp [eq_comm]

theorem elements_ok_iff {items : List Value} : v.elements = .ok items ↔
    v.elements? = some items := by
  unfold elements
  cases v.elements? <;> simp

theorem order?_ne_none {w : Value} (hv : v.number? ≠ none) (hw : w.number? ≠ none) :
    v.order? w ≠ none := by
  cases v <;> cases w <;> simp_all [order?, number?, order?.intOrder, order?.intOrder?]

theorem number?_eq_none_iff : v.order? (.int 0) = none ↔ v.number? = none := by
  cases v <;> simp [order?, number?, order?.intOrder, order?.intOrder?]

/-- An element that is read as an entry of a dictionary. -/
def IsPair (v : Value) : Prop := ∃ k w, v.elements? = some [k, w] ∧ k.key?.isSome = true

/-- An element that is no entry, other than for its length. -/
inductive NoPair (index : Nat) : Value → Failure → Prop where
  | noSequence {v : Value} (h : v.elements? = none) : NoPair index v (.noPair index)
  | noKey {v k w : Value} (h : v.elements? = some [k, w]) (hk : k.key? = none) :
      NoPair index v (.unhashable k.typeName)

/-- A value that cannot be read as a dictionary, other than for the length of an element. -/
inductive NoDictionary (v : Value) : Failure → Prop where
  | noSequence (h : v.elements? = none) : NoDictionary v (.notIterable v.typeName)
  | element {before after : List Value} {x : Value} {e : Failure}
      (list : ∀ entries, v ≠ .dict entries) (h : v.elements? = some (before ++ x :: after))
      (pairs : ∀ y ∈ before, y.IsPair) (hx : NoPair before.length x e) : NoDictionary v e

theorem pairAt_ok_iff {index : Nat} : (∃ entry, pairAt index v = .ok entry) ↔ v.IsPair := by
  unfold pairAt IsPair elements
  rcases v.elements? with _ | (_ | ⟨k, _ | ⟨w, _ | _⟩⟩) <;> simp
  cases k.key? <;> simp

theorem pairAt_escapes_iff {index : Nat} :
    pairAt index v = .error e ∧ e.kind ≠ "ValueError" ↔ NoPair index v e := by
  constructor
  · rintro ⟨h, kind⟩
    have length : ∀ n, pairAt index v ≠ .error (.pairLength index n) := by
      rintro n h'
      rw [h'] at h
      cases h
      exact kind rfl
    cases hv : v.elements? with
    | none =>
      simp only [pairAt, elements, hv] at h
      cases h
      exact .noSequence hv
    | some items =>
      rcases items with _ | ⟨k, _ | ⟨w, _ | _⟩⟩
      · exact absurd (by simp [pairAt, elements, hv]) (length 0)
      · exact absurd (by simp [pairAt, elements, hv]) (length 1)
      · cases hk : k.key? with
        | none =>
          simp [pairAt, elements, hv, hk] at h
          exact h ▸ .noKey hv hk
        | some key => simp [pairAt, elements, hv, hk] at h
      · exact absurd (by simp [pairAt, elements, hv]; rfl) (length _)
  · intro h
    cases h with
    | noSequence h => simp [pairAt, elements, h, Failure.kind]
    | noKey h hk => simp [pairAt, elements, h, hk, Failure.kind]

/-- The first element that is no entry decides. -/
theorem bindPairs_escapes_iff {entries : List (Value × Value)} {index : Nat} {items : List Value} :
    bindPairs entries index items = .error e ∧ e.kind ≠ "ValueError" ↔
      ∃ before x after, items = before ++ x :: after ∧ (∀ y ∈ before, y.IsPair) ∧
        NoPair (index + before.length) x e := by
  induction items generalizing entries index with
  | nil => simp [bindPairs]
  | cons v rest ih =>
    unfold bindPairs
    cases hv : pairAt index v with
    | error e' =>
      dsimp only
      constructor
      · rintro ⟨h, kind⟩
        cases h
        exact ⟨[], v, rest, rfl, nofun, pairAt_escapes_iff.mp ⟨hv, kind⟩⟩
      · rintro ⟨_ | ⟨y, before⟩, x, after, split, pairs, hx⟩
        · cases split
          obtain ⟨h, kind⟩ := pairAt_escapes_iff.mpr hx
          obtain rfl := Except.error.inj (hv.symm.trans h)
          exact ⟨rfl, kind⟩
        · cases split
          obtain ⟨entry, hy⟩ := pairAt_ok_iff.mpr (pairs v List.mem_cons_self)
          rw [hv] at hy
          cases hy
    | ok entry =>
      obtain ⟨k, w⟩ := entry
      dsimp only
      rw [ih]
      constructor
      · rintro ⟨before, x, after, rfl, pairs, hx⟩
        refine ⟨v :: before, x, after, rfl, List.forall_mem_cons.mpr
          ⟨pairAt_ok_iff.mp ⟨_, hv⟩, pairs⟩, ?_⟩
        rwa [List.length_cons, Nat.add_comm before.length, ← Nat.add_assoc]
      · rintro ⟨_ | ⟨y, before⟩, x, after, split, pairs, hx⟩
        · cases split
          obtain ⟨h, -⟩ := pairAt_escapes_iff.mpr hx
          cases hv.symm.trans h
        · cases split
          refine ⟨before, x, after, rfl, (List.forall_mem_cons.mp pairs).2, ?_⟩
          rwa [List.length_cons, Nat.add_comm before.length, ← Nat.add_assoc] at hx

theorem entries_escapes_iff : v.entries = .error e ∧ e.kind ≠ "ValueError" ↔ NoDictionary v e := by
  by_cases dictionary : ∃ entries, v = .dict entries
  · obtain ⟨entries, rfl⟩ := dictionary
    constructor
    · rintro ⟨h, -⟩
      cases h
    · intro h
      cases h with
      | noSequence h => cases h
      | element list => exact absurd rfl (list entries)
  · have list : ∀ entries, v ≠ .dict entries := fun entries h => dictionary ⟨entries, h⟩
    have read : v.entries = v.elements >>= bindPairs [] 0 := by
      cases v <;> first | rfl | exact absurd rfl (list _)
    rw [read]
    cases hv : v.elements with
    | error e' =>
      obtain ⟨none, rfl⟩ := elements_error_iff.mp hv
      constructor
      · rintro ⟨h, -⟩
        cases h
        exact .noSequence none
      · intro h
        cases h with
        | noSequence => exact ⟨rfl, by simp [Failure.kind]⟩
        | element _ h => simp [none] at h
    | ok items =>
      have hitems := elements_ok_iff.mp hv
      rw [show (Except.ok items >>= bindPairs [] 0) = bindPairs [] 0 items from rfl,
        bindPairs_escapes_iff]
      constructor
      · rintro ⟨before, x, after, rfl, pairs, hx⟩
        exact .element list hitems pairs (Nat.zero_add before.length ▸ hx)
      · intro h
        cases h with
        | noSequence none => simp [none] at hitems
        | element _ h pairs hx =>
          obtain rfl := Option.some.inj (hitems.symm.trans h)
          exact ⟨_, _, _, rfl, pairs, (Nat.zero_add _).symm ▸ hx⟩

end Value

/-! ## Rules -/

/-- Checks one after the other, up to the first that fails. -/
def inTurn : List (Except Failure Unit) → Except Failure Unit
  | [] => .ok ()
  | r :: rest => do
    r
    inTurn rest

theorem inTurn_error_iff {checks : List (Except Failure Unit)} :
    inTurn checks = .error e ↔
      ∃ before after, checks = before ++ .error e :: after ∧ ∀ r ∈ before, r = .ok () := by
  induction checks with
  | nil => simp [inTurn]
  | cons r rest ih =>
    rw [inTurn, bind_eq_error_iff]
    constructor
    · rintro (rfl | ⟨⟨⟩, rfl, h⟩)
      · exact ⟨[], rest, rfl, nofun⟩
      · obtain ⟨before, after, rfl, kept⟩ := ih.mp h
        exact ⟨.ok () :: before, after, rfl, List.forall_mem_cons.mpr ⟨rfl, kept⟩⟩
    · rintro ⟨_ | ⟨r', before⟩, after, split, kept⟩
      · cases split
        exact .inl rfl
      · cases split
        obtain ⟨hr, kept⟩ := List.forall_mem_cons.mp kept
        exact .inr ⟨(), hr, ih.mpr ⟨before, after, rfl, kept⟩⟩

namespace Options

def endpointRule (o : Options) : Except Failure Unit := do
  if o.enabled.isTruthy && o.otlpEnabled.isTruthy && !o.otlpEndpoint.isTruthy then
    throw .endpointMissing

def batchRule (b : BatchOptions) : Except Failure Unit := do
  if ← b.maxExportBatchSize.exceeds b.maxQueueSize then throw .batchAboveQueue

/-- The rules, in the order in which they are checked. -/
def rules (o : Options) (b : BatchOptions) : List (Except Failure Unit) := [
  o.endpointRule,
  requirePositive "max_queue_size" b.maxQueueSize,
  requirePositive "max_export_batch_size" b.maxExportBatchSize,
  batchRule b,
  requirePositive "max_cached_tracers" o.maxCachedTracers,
  requirePositive "flush_timeout_millis" o.flushTimeout]

variable {o : Options} {b : BatchOptions} {name : String}

theorem check_eq (h : o.batching = .options b) : o.check = inTurn (o.rules b) := by
  have read : ∀ {β : Type} (f : BatchOptions → Except Failure β), (Except.ok b >>= f) = f b :=
    fun _ => rfl
  simp only [check, h, Batching.get, rules, inTurn, endpointRule, batchRule, read]
  split
  · rfl
  · cases requirePositive "max_queue_size" b.maxQueueSize <;> try rfl
    cases requirePositive "max_export_batch_size" b.maxExportBatchSize <;> try rfl
    rcases b.maxExportBatchSize.exceeds b.maxQueueSize with _ | (_ | _) <;> try rfl
    cases requirePositive "max_cached_tracers" o.maxCachedTracers <;> try rfl
    cases requirePositive "flush_timeout_millis" o.flushTimeout <;> rfl

theorem requirePositive_escapes_iff : requirePositive name v = .error e ∧ e.kind ≠ "ValueError" ↔
    v.number? = none ∧ e = .unordered "<=" v.typeName "int" := by
  rw [← Value.number?_eq_none_iff]
  unfold requirePositive Value.atMost
  rcases v.order? (.int 0) with _ | (_ | _ | _ | _)
  · constructor
    · rintro ⟨h, -⟩
      cases h
      exact ⟨rfl, rfl⟩
    · rintro ⟨-, rfl⟩
      exact ⟨rfl, by simp [Failure.kind]⟩
  all_goals
    constructor
    · rintro ⟨h, kind⟩
      cases h <;> exact absurd rfl kind
    · rintro ⟨h, -⟩
      cases h

theorem endpointRule_error (h : o.endpointRule = .error e) : e.kind = "ValueError" := by
  unfold endpointRule at h
  split at h <;> cases h
  rfl

/-- Two numbers can be compared, and limits that are kept are numbers. -/
theorem batchRule_error (queue : requirePositive "max_queue_size" b.maxQueueSize = .ok ())
    (batch : requirePositive "max_export_batch_size" b.maxExportBatchSize = .ok ())
    (h : batchRule b = .error e) : e.kind = "ValueError" := by
  have number : ∀ {name v}, requirePositive name v = .ok () → v.number? ≠ none := by
    intro name v kept none
    obtain ⟨failed, -⟩ := requirePositive_escapes_iff.mpr ⟨none, rfl⟩
    cases kept.symm.trans failed
  have ordered := Value.order?_ne_none (number batch) (number queue)
  unfold batchRule Value.exceeds at h
  split at h
  next order _ =>
    rcases order with _ | (_ | _ | _) <;> cases h
    rfl
  next none => exact absurd none ordered

/-- A rule that fails, the ones before it being kept, is broken unless its value is no number. -/
theorem check_escapes_iff (h : o.batching = .options b) :
    o.check = .error e ∧ e.kind ≠ "ValueError" ↔
      ∃ before after name v, o.rules b = before ++ requirePositive name v :: after ∧
        (∀ r ∈ before, r = .ok ()) ∧ v.number? = none ∧ e = .unordered "<=" v.typeName "int" := by
  rw [check_eq h]
  constructor
  · rintro ⟨failed, kind⟩
    obtain ⟨before, after, split, kept⟩ := inTurn_error_iff.mp failed
    suffices ∃ name v, requirePositive name v = .error e by
      obtain ⟨name, v, hr⟩ := this
      exact ⟨before, after, name, v, hr ▸ split, kept, requirePositive_escapes_iff.mp ⟨hr, kind⟩⟩
    -- The rule that fails is the one behind those before it.
    rcases before with _ | ⟨_, _ | ⟨_, _ | ⟨_, _ | ⟨_, _ | ⟨_, _ | ⟨_, _⟩⟩⟩⟩⟩⟩ <;>
      simp [rules] at split kept
    · exact absurd (endpointRule_error split.1) kind
    · exact ⟨_, _, split.2.1⟩
    · exact ⟨_, _, split.2.2.1⟩
    · obtain ⟨rfl, rfl, rfl, failed, -⟩ := split
      exact absurd (batchRule_error kept.2.1 kept.2.2 failed) kind
    · exact ⟨_, _, split.2.2.2.2.1⟩
    · exact ⟨_, _, split.2.2.2.2.2.1⟩
  · rintro ⟨before, after, name, v, split, kept, escapes⟩
    obtain ⟨failed, kind⟩ := requirePositive_escapes_iff.mpr escapes
    exact ⟨inTurn_error_iff.mpr ⟨before, after, failed ▸ split, kept⟩, kind⟩

/-- A dictionary that cannot be read as options, or that holds a limit that is no number. -/
inductive Misfit (entries : List (Value × Value)) : Failure → Prop where
  | noList (h : (field entries "suppressed_instrumentations" (.list [])).elements? = none) :
      Misfit entries
        (.notIterable (field entries "suppressed_instrumentations" (.list [])).typeName)
  | noDictionary {e : Failure}
      (list : (field entries "suppressed_instrumentations" (.list [])).elements? ≠ none)
      (h : (field entries "extra_resource_attributes" (.dict [])).NoDictionary e) :
      Misfit entries e
  /-- The rules before the one for the limit are kept. -/
  | noNumber {o : Options} {b : BatchOptions} {before after : List (Except Failure Unit)}
      {name : String} {v : Value} (read : ofEntries entries = .ok o)
      (batching : o.batching = .options b)
      (rules : o.rules b = before ++ requirePositive name v :: after)
      (kept : ∀ r ∈ before, r = .ok ()) (h : v.number? = none) :
      Misfit entries (.unordered "<=" v.typeName "int")

variable {entries : List (Value × Value)}

theorem ofEntries_batching (h : ofEntries entries = .ok o) : ∃ b, o.batching = .options b := by
  obtain ⟨suppressed, -, h⟩ := ok_of_bind h
  obtain ⟨extra, -, h⟩ := ok_of_bind h
  cases h
  exact ⟨_, rfl⟩

theorem ofEntries_escapes_iff : ofEntries entries = .error e ∧ e.kind ≠ "ValueError" ↔
    (field entries "suppressed_instrumentations" (.list [])).elements? = none ∧
        e = .notIterable (field entries "suppressed_instrumentations" (.list [])).typeName ∨
      (field entries "suppressed_instrumentations" (.list [])).elements? ≠ none ∧
        (field entries "extra_resource_attributes" (.dict [])).NoDictionary e := by
  unfold ofEntries
  dsimp only
  rw [bind_eq_error_iff, Value.elements_error_iff, ← Value.entries_escapes_iff]
  constructor
  · rintro ⟨⟨none, rfl⟩ | ⟨suppressed, list, h⟩, kind⟩
    · exact .inl ⟨none, rfl⟩
    · rcases bind_eq_error_iff.mp h with h | ⟨extra, -, h⟩
      · exact .inr ⟨by simp [Value.elements_ok_iff.mp list], h, kind⟩
      · cases h
  · rintro (⟨none, rfl⟩ | ⟨list, h, kind⟩)
    · exact ⟨.inl ⟨none, rfl⟩, by simp [Failure.kind]⟩
    · obtain ⟨suppressed, list⟩ := Option.ne_none_iff_exists'.mp list
      refine ⟨.inr ⟨suppressed, Value.elements_ok_iff.mpr list, ?_⟩, kind⟩
      exact bind_eq_error_iff.mpr (.inl h)

/-- Options that are read and checked are refused for a rule that is broken, or for a misfit. -/
theorem checked_escapes_iff :
    (do let o ← ofEntries entries; o.check; return o) = .error e ∧ e.kind ≠ "ValueError" ↔
      Misfit entries e := by
  constructor
  · rintro ⟨h, kind⟩
    rcases bind_eq_error_iff.mp h with h | ⟨o, read, h⟩
    · rcases ofEntries_escapes_iff.mp ⟨h, kind⟩ with ⟨none, rfl⟩ | ⟨list, h⟩
      · exact .noList none
      · exact .noDictionary list h
    · obtain ⟨b, batching⟩ := ofEntries_batching read
      rcases bind_eq_error_iff.mp h with h | ⟨-, -, h⟩
      · obtain ⟨before, after, name, v, rules, kept, none, rfl⟩ :=
          (check_escapes_iff batching).mp ⟨h, kind⟩
        exact .noNumber read batching rules kept none
      · cases h
  · intro h
    have unread (h : ofEntries entries = .error e ∧ e.kind ≠ "ValueError") :
        (do let o ← ofEntries entries; o.check; return o) = .error e ∧ e.kind ≠ "ValueError" :=
      ⟨bind_eq_error_iff.mpr (.inl h.1), h.2⟩
    cases h with
    | noList none => exact unread (ofEntries_escapes_iff.mpr (.inl ⟨none, rfl⟩))
    | noDictionary list h => exact unread (ofEntries_escapes_iff.mpr (.inr ⟨list, h⟩))
    | noNumber read batching rules kept none =>
      obtain ⟨failed, kind⟩ :=
        (check_escapes_iff batching).mpr ⟨_, _, _, _, rules, kept, none, rfl⟩
      exact ⟨bind_eq_error_iff.mpr (.inr ⟨_, read, bind_eq_error_iff.mpr (.inl failed)⟩), kind⟩

end Options

/-! ## Files -/

namespace Surroundings

variable {s : Surroundings} {named : Option FilePath} {p : FilePath}

/-- A path that a load looks up. -/
inductive Asks (s : Surroundings) (named : Option FilePath) : FilePath → Prop where
  | given {p : FilePath} (h : s.given named = some p) : Asks s named p
  | search {p : FilePath} (h : s.given named = none)
      (first : searchPaths.find? s.isPresent = some p) : Asks s named p
  | resolved {p : FilePath} {place : Place} (h : s.given named = none)
      (first : searchPaths.find? s.isPresent = some p) (found : s.reach p = .ok place) :
      Asks s named (FileTree.resolved place)

theorem place?_error_iff : s.place? p = .error e ↔
    s.reach p = .error .nameTooLong ∧ e = .file .nameTooLong p.render := by
  unfold place? reach
  rcases s.files.locate s.current p with (_ | _ | _) | place <;> simp [eq_comm]

theorem placeAt_error_iff (present : s.isPresent p = true) : s.placeAt p = .error e ↔
    s.reach p = .error .nameTooLong ∧ e = .file .nameTooLong p.render := by
  rw [← place?_error_iff, place?_eq, if_pos present]
  cases s.placeAt p <;> simp [Except.map]

theorem opened_error_iff : s.opened named = .error e ↔
    ∃ p, s.Asks named p ∧ s.reach p = .error .nameTooLong ∧ e = .file .nameTooLong p.render := by
  unfold opened
  cases hgiven : s.given named with
  | some p =>
    dsimp only
    rw [place?_error_iff]
    constructor
    · exact fun h => ⟨p, .given hgiven, h⟩
    · rintro ⟨q, asks, h⟩
      cases asks <;> simp_all
  | none =>
    cases hfirst : searchPaths.find? s.isPresent with
    | none =>
      constructor
      · intro h
        cases h
      · rintro ⟨q, asks, -⟩
        cases asks <;> simp_all
    | some p =>
      have present := List.find?_some hfirst
      dsimp only
      rw [bind_eq_error_iff, placeAt_error_iff present]
      constructor
      · rintro (h | ⟨place, found, h⟩)
        · exact ⟨p, .search hgiven hfirst, h⟩
        · exact ⟨_, .resolved hgiven hfirst (placeAt_ok_iff.mp found), place?_error_iff.mp h⟩
      · rintro ⟨q, asks, h⟩
        cases asks with
        | given hq => simp [hgiven] at hq
        | search _ first =>
          obtain rfl := Option.some.inj (hfirst.symm.trans first)
          exact .inl h
        | resolved _ first found =>
          obtain rfl := Option.some.inj (hfirst.symm.trans first)
          exact .inr ⟨_, placeAt_ok_iff.mpr found, place?_error_iff.mpr h⟩

theorem document?_error_iff {place : Place} : s.document? place = .error e ↔
    ∃ text isObject, (s.files.read? place).bind String.fromUTF8? = some text ∧
      Json.parse text.toList = .error (.tooDeep isObject) ∧ e = .tooDeep isObject := by
  unfold document?
  cases (s.files.read? place).bind String.fromUTF8? with
  | none => simp
  | some text =>
    rcases h : Json.parse text.toList with (_ | _ | _) | v <;> simp [h, eq_comm]

theorem entriesFor_error_iff : s.entriesFor named = .error e ↔
    (∃ p, s.Asks named p ∧ s.reach p = .error .nameTooLong ∧ e = .file .nameTooLong p.render) ∨
      ∃ place, s.opened named = .ok (some place) ∧ s.document? place = .error e := by
  rw [entriesFor, bind_eq_error_iff, opened_error_iff]
  refine or_congr_right ⟨?_, ?_⟩
  · rintro ⟨_ | place, opened, h⟩
    · cases h
    · refine ⟨place, opened, ?_⟩
      rcases hd : s.document? place with e' | v <;> simp_all [entriesOf, Except.map]
  · rintro ⟨place, opened, h⟩
    exact ⟨some place, opened, by rw [entriesOf, h]; rfl⟩

/-- What a load refuses although no rule is broken. -/
inductive Escapes (s : Surroundings) (named : Option FilePath) : Failure → Prop where
  | nameTooLong {p : FilePath} (asks : s.Asks named p) (h : s.reach p = .error .nameTooLong) :
      Escapes s named (.file .nameTooLong p.render)
  | tooDeep {place : Place} {text : String} {isObject : Bool}
      (opened : s.opened named = .ok (some place))
      (read : (s.files.read? place).bind String.fromUTF8? = some text)
      (h : Json.parse text.toList = .error (.tooDeep isObject)) :
      Escapes s named (.tooDeep isObject)
  | misfit {entries : List (Value × Value)} {e : Failure} (read : s.entriesFor named = .ok entries)
      (h : Options.Misfit (s.environment.apply entries) e) : Escapes s named e

/-- A load gives options that pass their check, or it names a rule that is broken. A failure of any
other kind comes of a path, a document or a misfit, and of each of these it does. -/
theorem load_valid_or_escapes (s : Surroundings) (named : Option FilePath)
    (log : List LogRecord) :
    (∀ o log', s.load named log = .ok o log' → o.check = .ok ()) ∧
      ∀ e, (∃ log', s.load named log = .error e log') ∧ e.kind ≠ "ValueError" ↔
        s.Escapes named e := by
  constructor
  · intro o log' h
    obtain ⟨-, -, -, checked⟩ := load_ok h
    exact checked
  · intro e
    rw [(s.load_gives named).error_iff, bind_eq_error_iff, entriesFor_error_iff]
    constructor
    · rintro ⟨(⟨p, asks, tooLong, rfl⟩ | ⟨place, opened, h⟩) | ⟨entries, read, h⟩, kind⟩
      · exact .nameTooLong asks tooLong
      · obtain ⟨text, isObject, hread, deep, rfl⟩ := document?_error_iff.mp h
        exact .tooDeep opened hread deep
      · exact .misfit read (Options.checked_escapes_iff.mp ⟨h, kind⟩)
    · intro h
      cases h with
      | nameTooLong asks h =>
        exact ⟨.inl (.inl ⟨_, asks, h, rfl⟩), by simp [Failure.kind, FileFault.kind]⟩
      | tooDeep opened read h =>
        have failed := document?_error_iff.mpr ⟨_, _, read, h, rfl⟩
        exact ⟨.inl (.inr ⟨_, opened, failed⟩), by simp [Failure.kind]⟩
      | misfit read h =>
        obtain ⟨failed, kind⟩ := Options.checked_escapes_iff.mpr h
        exact ⟨.inr ⟨_, read, failed⟩, kind⟩

end Surroundings

end

/-! ## A limit that is a text -/

/-- An options file whose limit of queued spans is a text. -/
def textualDocument : String := "\x7b\"max_queue_size\": \"many\"\x7d"

def textualTree : FileTree :=
  (FileTree.write {} (.ofTextAtRoot "work/c.json") textualDocument.toUTF8).toOption.getD {}

def textualSurroundings : Surroundings where
  files := textualTree
  current := textualTree.placeOf (.ofTextAtRoot "work")

def isTypeError : EStateM.Result Failure (List LogRecord) Options → Bool
  | .ok _ _ => false
  | .error e _ => e.kind == "TypeError"

/-- A load of it fails, but not with a rule that is broken. -/
theorem textual_limit_escapes : ∃ e log,
    textualSurroundings.load (some (.ofText "c.json")) [] = .error e log ∧
      e.kind = "TypeError" := by
  have fails : isTypeError (textualSurroundings.load (some (.ofText "c.json")) []) = true := by
    decide +kernel
  cases h : textualSurroundings.load (some (.ofText "c.json")) [] with
  | ok o log =>
    rw [h] at fails
    cases fails
  | error e log =>
    rw [h] at fails
    exact ⟨e, log, rfl, by simpa [isTypeError] using fails⟩

end Tracing
