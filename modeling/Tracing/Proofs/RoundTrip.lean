import Tracing.Proofs.Precedence

/-!
# Tracing.Proofs.RoundTrip

Options written as a dictionary and read again, and the other way round.

* `Value.WellFormed` — a value as a document or a program can hold it: the keys of a dictionary are
  scalars, and none stands twice. `same_self` — such a value is equal to itself.
* `ofRecord_toRecord` — options are read again as they were, but for copies of the two containers.
* `ReadAgain`         — so they are equal exactly if the containers are a list and a dictionary.
* `records_inverse`   — both ways round, for all options and all dictionaries.
-/

namespace Tracing

/-! ## Values equal to themselves -/

namespace Value

mutual

/-- At any depth the keys of a dictionary are scalars, and none stands twice. -/
def WellFormed : Value → Prop
  | .list items => WellFormedItems items
  | .dict entries => WellFormedEntries entries
  | _ => True

def WellFormedItems : List Value → Prop
  | [] => True
  | v :: rest => WellFormed v ∧ WellFormedItems rest

def WellFormedEntries : List (Value × Value) → Prop
  | [] => True
  | e :: rest => WellFormedEntry e rest ∧ WellFormedEntries rest

/-- An entry before the others of a dictionary. -/
def WellFormedEntry : Value × Value → List (Value × Value) → Prop
  | (k, v), rest => (∃ key, k.key? = some key ∧ lookup key rest = none) ∧ WellFormed v

end

mutual

theorem same_self : ∀ v : Value, v.WellFormed → v.same v = true
  | .list items, h => by
    rw [same]
    exact sameItems_self items h
  | .dict entries, h => by
    rw [same, beq_self_eq_true, Bool.true_and]
    exact sameEntries_self entries entries h fun _ _ found => found
  | .null, _ | .bool _, _ | .int _, _ | .float _, _ | .str _, _ => by simp [same, key?, number?]

theorem sameItems_self : ∀ items : List Value, WellFormedItems items → sameItems items items = true
  | [], _ => by rw [sameItems]
  | v :: rest, h => by rw [sameItems, same_self v h.1, sameItems_self rest h.2, Bool.true_and]

/-- All entries are in a dictionary in which every key stands for the same value. -/
theorem sameEntries_self : ∀ entries whole : List (Value × Value), WellFormedEntries entries →
    (∀ key v, lookup key entries = some v → lookup key whole = some v) →
      sameEntries entries whole = true
  | [], _, _, _ => by rw [sameEntries]
  | (k, v) :: rest, whole, h, within => by
    obtain ⟨⟨⟨key, hk, new⟩, hv⟩, hrest⟩ := h
    have here : lookup key whole = some v := within key v (by simp [lookup, hk])
    have others : ∀ key' v', lookup key' rest = some v' → lookup key' whole = some v' := by
      intro key' v' found
      refine within key' v' ?_
      have other : key ≠ key' := by
        rintro rfl
        simp [new] at found
      simp [lookup, hk, other, found]
    rw [sameEntries, sameEntry, hk]
    simp only [Option.bind_some, here, same_self v hv, Bool.true_and]
    exact sameEntries_self rest whole hrest others

end

/-- Only a list is equal to a list. -/
theorem list_of_same {items : List Value} {v : Value} (h : same (.list items) v = true) :
    ∃ vs, v = .list vs := by
  cases v with
  | list vs => exact ⟨vs, rfl⟩
  | _ => simp [same] at h

theorem dict_of_same {entries : List (Value × Value)} {v : Value}
    (h : same (.dict entries) v = true) : ∃ es, v = .dict es := by
  cases v with
  | dict es => exact ⟨es, rfl⟩
  | _ => simp [same] at h

end Value

namespace Options

/-! ## Options read again -/

/-- A field of a dictionary whose keys are texts. -/
theorem lookup_recordValue (name : String) (record : List (String × Value)) :
    Value.lookup (.text name) (record.map fun e => (.str e.1, e.2)) = record.lookup name := by
  induction record with
  | nil => rfl
  | cons e rest ih =>
    obtain ⟨key, v⟩ := e
    by_cases h : name = key
    · simp [Value.lookup, Value.key?, h]
    · have other : (name == key) = false := by simp [h]
      simp [Value.lookup, Value.key?, List.lookup_cons, Ne.symm h, other, ih]

/-- Options written as a dictionary are read as they were, but for copies of the containers. -/
theorem ofRecord_toRecord {o : Options} {record : List (String × Value)}
    (h : o.toRecord = .ok record) : ∃ vs es, o.suppressed.elements = .ok vs ∧
      o.extraAttributes.entries = .ok es ∧
      ofRecord (recordValue record) =
        .ok { o with suppressed := .list vs, extraAttributes := .dict es } := by
  obtain ⟨vs, hvs, h⟩ := ok_of_bind h
  obtain ⟨b, hb, h⟩ := ok_of_bind h
  obtain ⟨es, hes, h⟩ := ok_of_bind h
  refine ⟨vs, es, hvs, hes, ?_⟩
  have batching : o.batching = .options b := by
    cases ho : o.batching with
    | options b' =>
      rw [ho] at hb
      cases hb
      rfl
    | other v =>
      rw [ho] at hb
      cases hb
  cases h
  simp only [recordValue, ofRecord, ofEntries, field, lookup_recordValue]
  simp [List.lookup_cons, batching]
  rfl

/-- The suppressed libraries are a list, and the extra attributes a dictionary. -/
def Contained (o : Options) : Prop :=
  (∃ vs, o.suppressed = .list vs) ∧ ∃ es, o.extraAttributes = .dict es

end Options

def BatchOptions.values (b : BatchOptions) : List Value :=
  [b.maxQueueSize, b.maxExportBatchSize, b.exportTimeout, b.scheduleDelay, b.syncExport]

def Batching.values : Batching → List Value
  | .options b => b.values
  | .other v => [v]

namespace Options

/-- What the fields hold. -/
def values (o : Options) : List Value :=
  [o.enabled, o.provider, o.environment, o.serviceName, o.serviceVersion, o.otlpEnabled,
    o.otlpEndpoint, o.otlpUseTls, o.suppressed, o.maxCachedTracers, o.flushTimeout,
    o.extraAttributes] ++ o.batching.values

theorem same_self {o : Options} (h : ∀ v ∈ o.values, v.WellFormed) : o.same o = true := by
  have each : ∀ v ∈ o.values, v.same v = true := fun v hv => v.same_self (h v hv)
  have batching : o.batching.same o.batching = true := by
    cases hb : o.batching <;> simp_all [values, Batching.values, BatchOptions.values, Batching.same,
      BatchOptions.same]
  simp_all [values, same]

/-- What is read from the dictionary of options, compared with the options themselves. -/
structure ReadAgain (o : Options) (record : List (String × Value)) (back : Options) : Prop where
  read : ofRecord (recordValue record) = .ok back
  /-- They hold the very same values exactly if the two containers are of the kind that is read. -/
  eq_iff : back = o ↔ o.Contained
  /-- They are equal in no other case. -/
  same_iff : (∀ v ∈ o.values, v.WellFormed) → (back.same o = true ↔ o.Contained)

theorem read_again {o : Options} {record : List (String × Value)} (h : o.toRecord = .ok record) :
    ∃ back, ReadAgain o record back := by
  obtain ⟨vs, es, hvs, hes, read⟩ := ofRecord_toRecord h
  have kept : o.Contained →
      ({ o with suppressed := .list vs, extraAttributes := .dict es } : Options) = o := by
    rintro ⟨⟨vs', hs⟩, es', he⟩
    rw [hs] at hvs
    rw [he] at hes
    cases hvs
    cases hes
    rw [← hs, ← he]
  refine ⟨_, read, ⟨fun eq => ?_, kept⟩, fun wellFormed => ⟨fun eq => ?_, fun contained => ?_⟩⟩
  · rw [← eq]
    exact ⟨⟨vs, rfl⟩, es, rfl⟩
  · simp only [same, Bool.and_eq_true] at eq
    exact ⟨Value.list_of_same eq.1.1.1.1.2, Value.dict_of_same eq.2⟩
  · rw [kept contained]
    exact same_self wellFormed

/-- Of what is read from any dictionary each field is written as it was given, or with the default
that fields hold where nothing is said, and what is written is read as before. -/
structure WrittenAgain (entries : List (Value × Value)) (o : Options)
    (record : List (String × Value)) : Prop where
  written : o.toRecord = .ok record
  keys : record.map (·.1) = fields.map (·.1)
  distinct : (record.map (·.1)).Nodup
  settles : List.Forall₂ (Settles fun name => Value.lookup (.text name) entries) fields record
  read : ofRecord (recordValue record) = .ok o

theorem names_of_settles {said : String → Option Value} {fields record : List (String × Value)}
    (h : List.Forall₂ (Settles said) fields record) : record.map (·.1) = fields.map (·.1) := by
  induction h with
  | nil => rfl
  | cons first _ ih => rw [List.map_cons, List.map_cons, first.name, ih]

theorem written_again {entries : List (Value × Value)} {o : Options}
    (h : ofRecord (.dict entries) = .ok o) : ∃ record, WrittenAgain entries o record := by
  obtain ⟨record, written, settles⟩ := ofEntries_settles h
  obtain ⟨back, again⟩ := read_again written
  have contained : o.Contained := by
    obtain ⟨vs, -, h⟩ := ok_of_bind h
    obtain ⟨es, -, h⟩ := ok_of_bind h
    cases h
    exact ⟨⟨vs, rfl⟩, es, rfl⟩
  obtain rfl := again.eq_iff.mpr contained
  have keys := names_of_settles settles
  have distinct : (fields.map (·.1)).Nodup := by decide
  exact ⟨record, written, keys, keys ▸ distinct, settles, again.read⟩

/-- Writing and reading are inverse to each other exactly where the containers allow it: what was
read from a dictionary always is read again as it is. -/
theorem records_inverse :
    toRecord {} = .ok fields ∧
      (∀ (o : Options) (record : List (String × Value)), o.toRecord = .ok record →
        ∃ back, ReadAgain o record back) ∧
      ∀ (entries : List (Value × Value)) (o : Options), ofRecord (.dict entries) = .ok o →
        ∃ record, WrittenAgain entries o record :=
  ⟨rfl, fun _ _ => read_again, fun _ _ => written_again⟩

/-- A NaN among the limits, and a text in place of the list of suppressed libraries. -/
def nanOptions (suppressed : Value) : Options :=
  { maxCachedTracers := .float Binary64.nan, suppressed }

-- The NaN is read again as it was; the text comes back as a list of its characters.
example : (nanOptions (.list [.str "ab"])).roundTrips.toOption = some true ∧
    (nanOptions (.str "ab")).roundTrips.toOption = some false := by decide +kernel

end Options

end Tracing
