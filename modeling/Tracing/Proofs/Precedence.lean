import Mathlib.Data.List.Forall2
import Tracing.Proofs.Loading

/-!
# Tracing.Proofs.Precedence

Which source a loaded option comes from: the environment, the options file or the defaults.

* `Surroundings.documentFor` — the document of the first file that is there.
* `Environment.override`     — the value that the environment gives to a field.
* `Options.Settles`          — a field holds the override, else what the file says, else the default.
* `load_precedence`          — so does every field of loaded options.
-/

namespace Tracing

open Loading

/-! ## The file -/

namespace Surroundings

/-- The paths at which the options file may stand, in the order in which they are tried. A path that
is named is the only one. -/
def candidates (s : Surroundings) : Option FilePath → List FilePath
  | some p => [p]
  | none =>
    let named := (s.environment.lookup ("TRACEKIT_CONFIG" : Text)).filter (!·.isEmpty)
    (named.map FilePath.ofText).toList ++
      [.ofText "configs/tracing.json", .ofText "../configs/tracing.json"]

/-- What stands at a place as a document: nothing if it is no file, if its bytes are no text or if
the text is no document. -/
def contents? (s : Surroundings) (place : Place) : Option Value :=
  ((s.files.read? place).bind String.fromUTF8?).bind fun text => (Json.parse text.toList).toOption

theorem candidates_none (s : Surroundings) :
    s.candidates none = s.environmentPath.toList ++ searchPaths := rfl

/-- The document at the first candidate that is there. -/
def documentFor (s : Surroundings) (named : Option FilePath) : Option Value :=
  ((s.candidates named).findSome? fun p => (s.reach p).toOption).bind s.contents?

section

variable {s : Surroundings} {named : Option FilePath} {found : Option Place} {p : FilePath}
  {place : Place}

theorem reach_of_absent (h : s.isPresent p = false) : (s.reach p).toOption = none := by
  unfold isPresent at h
  split at h <;> simp_all [Except.toOption]

theorem place?_ok (h : s.place? p = .ok found) : found = (s.reach p).toOption := by
  unfold place? at h
  unfold reach
  split at h <;> cases h <;> simp_all [Except.toOption]

/-- What a search opens by the resolved path is what it found. -/
theorem place?_resolved (hs : s.Placed) (hp : s.reach p = .ok place)
    (h : s.place? (FileTree.resolved place) = .ok found) : found = some place := by
  have standing := FileTree.locate_stands hs.rooted hs.current hp
  rw [place?_ok h]
  rcases FileTree.locate_resolved standing s.current with again | tooLong
  · rw [reach, again]
    rfl
  · rw [place?, tooLong] at h
    cases h

theorem findSome?_absent {paths : List FilePath} (h : paths.find? s.isPresent = none) :
    (paths.findSome? fun p => (s.reach p).toOption) = none := by
  rw [List.findSome?_eq_none_iff]
  intro p hp
  have absent := List.find?_eq_none.mp h p hp
  exact reach_of_absent (by simpa using absent)

theorem findSome?_first {paths : List FilePath} (h : paths.find? s.isPresent = some p)
    (hp : s.reach p = .ok place) :
    (paths.findSome? fun p => (s.reach p).toOption) = some place := by
  obtain ⟨-, before, after, rfl, absent⟩ := List.find?_eq_some_iff_append.mp h
  have skipped : before.find? s.isPresent = none := List.find?_eq_none.mpr fun q hq => by
    simpa using absent q hq
  rw [List.findSome?_append, findSome?_absent skipped, List.findSome?_cons, hp]
  rfl

/-- The place that is read is that of the first candidate that is there. -/
theorem opened_ok (hs : s.Placed) (h : s.opened named = .ok found) :
    found = (s.candidates named).findSome? fun p => (s.reach p).toOption := by
  unfold opened at h
  cases named with
  | some p =>
    rw [given, Option.some_or] at h
    rw [candidates, List.findSome?_singleton]
    exact place?_ok h
  | none =>
    rw [given, Option.none_or] at h
    rw [candidates_none, List.findSome?_append]
    cases hgiven : s.environmentPath.filter s.isPresent with
    | some p =>
      rw [hgiven] at h
      dsimp only at h
      obtain ⟨hp, present⟩ := Option.filter_eq_some_iff.mp hgiven
      rw [hp, Option.toList_some, List.findSome?_singleton, ← place?_ok h]
      rw [place?_eq, if_pos present] at h
      obtain ⟨place, -, h⟩ := ok_of_bind h
      cases h
      rfl
    | none =>
      rw [hgiven] at h
      have skipped : (s.environmentPath.toList.findSome? fun p => (s.reach p).toOption) = none := by
        refine findSome?_absent (List.find?_eq_none.mpr fun p hp => ?_)
        exact (Option.filter_eq_none_iff.mp hgiven) p (Option.mem_toList.mp hp)
      rw [skipped, Option.none_or]
      cases hfirst : searchPaths.find? s.isPresent with
      | none =>
        rw [hfirst] at h
        cases h
        exact (findSome?_absent hfirst).symm
      | some p =>
        rw [hfirst] at h
        obtain ⟨place, hplace, h⟩ := ok_of_bind h
        have hp := placeAt_ok_iff.mp hplace
        rw [findSome?_first hfirst hp]
        exact place?_resolved hs hp h

theorem document?_ok {v : Option Value} (h : s.document? place = .ok v) : v = s.contents? place := by
  unfold document? at h
  unfold contents?
  split at h
  next none =>
    cases h
    rw [none]
    rfl
  next text hread =>
    rw [hread, Option.bind_some]
    split at h <;> cases h <;> simp_all [Except.toOption]

/-- What is read for the library stands in the document of the first file that is there. -/
theorem entriesFor_ok (hs : s.Placed) {entries : List (Value × Value)}
    (h : s.entriesFor named = .ok entries) : entries = optionsIn (s.documentFor named) := by
  obtain ⟨found, hfound, h⟩ := ok_of_bind h
  rw [documentFor, ← opened_ok hs hfound]
  cases found with
  | none =>
    cases h
    rfl
  | some place =>
    obtain ⟨v, hv, h⟩ := ok_of_bind h
    cases h
    rw [Option.bind_some, ← document?_ok hv]

end

end Surroundings

/-! ## The environment -/

theorem lookup_bind (key : Key) (k v : Value) (entries : List (Value × Value)) :
    Value.lookup key (Value.bind k v entries) =
      if k.key? = some key then some v else Value.lookup key entries := by
  induction entries with
  | nil => rfl
  | cons e rest ih =>
    obtain ⟨k', v'⟩ := e
    by_cases same : k'.key? = k.key?
    · simp only [Value.bind, same, if_true, Value.lookup]
      split <;> rfl
    · simp only [Value.bind, same, if_false, Value.lookup, ih]
      split
      next hk' => rw [if_neg fun hk => same (hk'.trans hk.symm)]
      · rfl

namespace Environment

/-- The value that the environment gives to a field, whatever the file says of it. Only variables
that are set and not empty count. -/
def override (env : Environment) (field : String) : Option Value :=
  let given (name : String) := (env.lookup (name : Text)).filter (!·.isEmpty)
  match field with
  | "enabled" =>
    -- White space around the value and its case do not matter.
    let word := (given "OTEL_SDK_DISABLED").bind fun t => Text.toChars? ⟨Text.strip t.points⟩
    if word.map (·.map Char.toLower) = some ['t', 'r', 'u', 'e'] then some (.bool false) else none
  | "service_name" => (given "OTEL_SERVICE_NAME").map .str
  | "otlp_endpoint" => (given "OTEL_EXPORTER_OTLP_ENDPOINT").map .str
  | "provider" => (given "TRACEKIT_PROVIDER").map .str
  | "suppressed_instrumentations" => (given "TRACEKIT_SUPPRESSED_INSTRUMENTATIONS").map fun t =>
    .list ((nameList t.points).map fun name => .str ⟨name⟩)
  | _ => none

theorem isDisabled_eq (env : Environment) : env.isDisabled = true ↔
    ((env.get? "OTEL_SDK_DISABLED").bind fun t => Text.toChars? ⟨Text.strip t.points⟩).map
      (·.map Char.toLower) = some ['t', 'r', 'u', 'e'] := by
  unfold isDisabled
  cases env.get? "OTEL_SDK_DISABLED" with
  | none => simp
  | some t =>
    unfold Text.isWord
    cases ht : Text.toChars? ⟨Text.strip t.points⟩ <;> simp [ht]

theorem lookup_overlay (name key : String) (v : Option Value) (entries : List (Value × Value)) :
    Value.lookup (.text name) (overlay key v entries) =
      if name = key then v.or (Value.lookup (.text name) entries)
      else Value.lookup (.text name) entries := by
  cases v with
  | none => simp [overlay]
  | some v =>
    have same : (Value.str key).key? = some (.text name) ↔ name = key := by
      simp [Value.key?, eq_comm]
    simp [overlay, lookup_bind, same]

/-- Under the overrides a field has the one that the environment gives to it, if there is one. -/
theorem lookup_apply (env : Environment) (entries : List (Value × Value)) (name : String) :
    Value.lookup (.text name) (env.apply entries) =
      (env.override name).or (Value.lookup (.text name) entries) := by
  have disabled : (if env.isDisabled then some (Value.bool false) else none) =
      env.override "enabled" := by
    rw [override, if_congr env.isDisabled_eq rfl rfl]
    rfl
  simp only [apply, lookup_overlay, disabled]
  by_cases h₁ : name = "enabled"
  · subst h₁; simp
  by_cases h₂ : name = "service_name"
  · subst h₂; simp [override, get?]
  by_cases h₃ : name = "otlp_endpoint"
  · subst h₃; simp [override, get?]
  by_cases h₄ : name = "provider"
  · subst h₄; simp [override, get?]
  by_cases h₅ : name = "suppressed_instrumentations"
  · subst h₅
    simp [override, get?]
    rfl
  simp [override, h₁, h₂, h₃, h₄, h₅]

end Environment

/-! ## The fields -/

namespace Options

/-- The fields of the dictionary of options and what they hold when nothing is said. -/
def fields : List (String × Value) := [
  ("enabled", .bool true),
  ("provider", .str "sdk"),
  ("environment", .str "development"),
  ("service_name", .str "unknown_service"),
  ("service_version", .null),
  ("otlp_enabled", .bool true),
  ("otlp_endpoint", .str "localhost:4317"),
  ("otlp_use_tls", .bool false),
  ("suppressed_instrumentations", .list []),
  ("max_cached_tracers", .int 1000),
  ("flush_timeout_millis", .int 30000),
  ("max_queue_size", .int 2048),
  ("max_export_batch_size", .int 512),
  ("export_timeout_millis", .int 30000),
  ("schedule_delay_millis", .int 500),
  ("use_sync_export", .bool false),
  ("extra_resource_attributes", .dict [])]

/-- A value as a field holds it: the two containers are copied as a list and a dictionary. -/
def settle (name : String) (v : Value) : Except Failure Value :=
  match name with
  | "suppressed_instrumentations" => .list <$> v.elements
  | "extra_resource_attributes" => .dict <$> v.entries
  | _ => .ok v

/-- The entry of a field with its default holds what `said` gives for it. -/
structure Settles (said : String → Option Value) (field entry : String × Value) : Prop where
  name : entry.1 = field.1
  value : settle field.1 ((said field.1).getD field.2) = .ok entry.2

/-- The dictionary of options that were read from another one. -/
theorem ofEntries_settles {entries : List (Value × Value)} {o : Options}
    (h : ofEntries entries = .ok o) : ∃ record, o.toRecord = .ok record ∧
      List.Forall₂ (Settles fun name => Value.lookup (.text name) entries) fields record := by
  obtain ⟨suppressed, hs, h⟩ := ok_of_bind h
  obtain ⟨extra, he, h⟩ := ok_of_bind h
  cases h
  refine ⟨_, rfl, ?_⟩
  have list : Settles (fun name => Value.lookup (.text name) entries)
      ("suppressed_instrumentations", .list []) (_, .list suppressed) :=
    ⟨rfl, congrArg (Value.list <$> ·) hs⟩
  have dictionary : Settles (fun name => Value.lookup (.text name) entries)
      ("extra_resource_attributes", .dict []) (_, .dict extra) :=
    ⟨rfl, congrArg (Value.dict <$> ·) he⟩
  repeat' apply List.Forall₂.cons
  all_goals first
    | exact list
    | exact dictionary
    | exact ⟨rfl, rfl⟩
    | exact .nil

end Options

/-! ## Loaded options -/

/-- What is said of a field: by the environment, else by the file. -/
def Surroundings.said (s : Surroundings) (named : Option FilePath) (name : String) : Option Value :=
  (s.environment.override name).or
    (Value.lookup (.text name) (Surroundings.optionsIn (s.documentFor named)))

/-- Each field of loaded options holds what the environment says of it, else what the file says of
it, else its default, whatever is said of the others. -/
theorem load_precedence {s : Surroundings} (hs : s.Placed) {named : Option FilePath}
    {log log' : List LogRecord} {o : Options} (h : s.load named log = .ok o log') :
    ∃ record, o.toRecord = .ok record ∧
      List.Forall₂ (Options.Settles (s.said named)) Options.fields record := by
  obtain ⟨entries, hentries, ho, -⟩ := Surroundings.load_ok h
  have settles := Options.ofEntries_settles ho
  have said : s.said named = fun name : String =>
      Value.lookup (.text name) (s.environment.apply entries) := by
    funext name
    rw [Environment.lookup_apply, Surroundings.entriesFor_ok hs hentries]
    rfl
  rwa [said]

/-- The service and the environment of an options file. -/
def servedDocument : String :=
  "\x7b\"tracing\": \x7b\"service_name\": \"a\", \"environment\": \"b\"\x7d\x7d"

/-- The tree with the file at the first search path. -/
def servedTree : FileTree :=
  (FileTree.write {} (.ofTextAtRoot "work/configs/tracing.json")
    servedDocument.toUTF8).toOption.getD {}

/-- The environment names the service, too. -/
def servedSurroundings : Surroundings where
  files := servedTree
  current := servedTree.placeOf (.ofTextAtRoot "work")
  environment := [("OTEL_SERVICE_NAME", "c")]

theorem servedSurroundings_placed : servedSurroundings.Placed := by
  refine FileTree.Made.placed ?_ _ _
  unfold servedTree
  cases h : FileTree.write {} (.ofTextAtRoot "work/configs/tracing.json") _ with
  | ok t => exact .file .empty h
  | error e => exact .empty

/-- Whether a load gives the service of the environment, the environment of the file and the
default provider. -/
def isServed : EStateM.Result Failure (List LogRecord) Options → Bool
  | .ok o _ => o.serviceName.same (.str "c") && o.environment.same (.str "b") &&
    o.provider.same (.str "sdk")
  | .error _ _ => false

theorem served_precedence : ∃ o log, servedSurroundings.load none [] = .ok o log ∧
    isServed (.ok o log) = true ∧ ∃ record, o.toRecord = .ok record ∧
      List.Forall₂ (Options.Settles (servedSurroundings.said none)) Options.fields record := by
  have served : isServed (servedSurroundings.load none []) = true := by decide +kernel
  cases h : servedSurroundings.load none [] with
  | ok o log => exact ⟨o, log, rfl, h ▸ served, load_precedence servedSurroundings_placed h⟩
  | error e log =>
    rw [h] at served
    cases served

end Tracing
