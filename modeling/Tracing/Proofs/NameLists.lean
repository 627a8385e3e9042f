import Mathlib.Data.List.DropRight
import Tracing.Proofs.Precedence

/-!
# Tracing.Proofs.NameLists

Comma-separated lists of names, as the environment gives them.

* `IsName`      — a name that such a list can give: not empty, without a comma, and not begun or
  ended by white space.
* `Spells`      — a text spells names if its fields are these names in order, with any white space
  around each, and any blank fields between them.
* `spells_iff`  — the names read from a text are the only ones that it spells.
* `names_exactly` — so are the libraries that the environment suppresses, whatever the file says.
-/

namespace Tracing

namespace Text

variable {separator c : CodePoint} {cs name before after rest : List CodePoint}

/-! ## Fields -/

theorem fields_eq_splitOn (separator : CodePoint) (cs : List CodePoint) :
    fields separator cs = cs.splitOn separator := by
  rw [List.splitOn_eq_splitOnP]
  induction cs with
  | nil => rfl
  | cons c rest ih =>
    rw [fields, List.splitOnP_cons_eq_if_modifyHead, ih]
    by_cases h : c = separator
    · simp [h]
    · cases hp : rest.splitOnP (· == separator) with
      | nil => exact absurd hp (List.splitOnP_ne_nil _ rest)
      | cons field more => simp [h]

theorem joinFields_eq_intercalate (separator : CodePoint) (pieces : List (List CodePoint)) :
    joinFields separator pieces = [separator].intercalate pieces := by
  induction pieces with
  | nil => rfl
  | cons piece rest ih =>
    cases rest with
    | nil => simp [joinFields]
    | cons next more => simp [joinFields, ih, List.intercalate_cons_cons]

theorem joinFields_fields (separator : CodePoint) (cs : List CodePoint) :
    joinFields separator (fields separator cs) = cs := by
  rw [joinFields_eq_intercalate, fields_eq_splitOn, List.intercalate_splitOn]

/-- Pieces without separators are found again. -/
theorem fields_joinFields {pieces : List (List CodePoint)}
    (uncut : ∀ piece ∈ pieces, separator ∉ piece) (h : pieces ≠ []) :
    fields separator (joinFields separator pieces) = pieces := by
  rw [joinFields_eq_intercalate, fields_eq_splitOn, List.splitOn_intercalate separator uncut h]

theorem not_mem_field {field : List CodePoint} (h : field ∈ fields separator cs) :
    separator ∉ field := by
  induction cs generalizing field with
  | nil =>
    rw [fields, List.mem_singleton] at h
    simp [h]
  | cons c rest ih =>
    rw [fields] at h
    split at h
    · rcases List.mem_cons.mp h with rfl | h
      · exact List.not_mem_nil
      · exact ih h
    · next other =>
      split at h
      · rw [List.mem_singleton] at h
        simp [h, Ne.symm other]
      next first more hf =>
        rw [hf] at ih
        rcases List.mem_cons.mp h with rfl | h
        · have uncut := ih List.mem_cons_self
          simp [Ne.symm other, uncut]
        · exact ih (List.mem_cons_of_mem _ h)

/-- What stands in joined pieces is a separator or stands in one of the pieces. -/
theorem mem_joinFields {pieces : List (List CodePoint)} (h : c ∈ joinFields separator pieces) :
    c = separator ∨ ∃ piece ∈ pieces, c ∈ piece := by
  induction pieces with
  | nil => cases h
  | cons piece rest ih =>
    cases rest with
    | nil => exact .inr ⟨piece, List.mem_cons_self, h⟩
    | cons next more =>
      rcases List.mem_append.mp h with h | h
      · exact .inr ⟨piece, List.mem_cons_self, h⟩
      · rcases List.mem_cons.mp h with h | h
        · exact .inl h
        · refine (ih h).imp_right ?_
          rintro ⟨p, hp, hc⟩
          exact ⟨p, List.mem_cons_of_mem _ hp, hc⟩

theorem mem_joinFields_of_mem {pieces : List (List CodePoint)} {piece : List CodePoint}
    (hp : piece ∈ pieces) (h : c ∈ piece) : c ∈ joinFields separator pieces := by
  induction pieces with
  | nil => cases hp
  | cons first rest ih =>
    cases rest with
    | nil =>
      obtain rfl := List.mem_singleton.mp hp
      exact h
    | cons next more =>
      rcases List.mem_cons.mp hp with rfl | hp
      · exact List.mem_append_left _ h
      · exact List.mem_append_right _ (List.mem_cons_of_mem _ (ih hp))

/-! ## White space -/

def AllBlank (cs : List CodePoint) : Prop := ∀ c ∈ cs, isBlank c = true

/-- A text that neither begins nor ends with white space. -/
structure Trimmed (cs : List CodePoint) : Prop where
  begins : ∀ c ∈ cs.head?, isBlank c = false
  ends : ∀ c ∈ cs.getLast?, isBlank c = false

/-- What does not begin with white space is left of what stands behind white space. -/
theorem dropWhile_blank (hb : AllBlank before) (hr : ∀ c ∈ rest.head?, isBlank c = false) :
    (before ++ rest).dropWhile isBlank = rest := by
  rw [List.dropWhile_append_of_pos hb]
  cases rest with
  | nil => rfl
  | cons c rest => exact List.dropWhile_cons_of_neg (by simp [hr c rfl])

theorem strip_padded (hb : AllBlank before) (ha : AllBlank after) (hn : name ≠ [])
    (trimmed : Trimmed name) : strip (before ++ name ++ after) = name := by
  have begins : ∀ c ∈ (name ++ after).head?, isBlank c = false := by
    rw [List.head?_append_of_ne_nil _ hn]
    exact trimmed.begins
  have left : stripLeft (before ++ name ++ after) = name ++ after := by
    rw [List.append_assoc]
    exact dropWhile_blank hb begins
  have reversed : AllBlank after.reverse := fun c hc => ha c (List.mem_reverse.mp hc)
  have ends : ∀ c ∈ name.reverse.head?, isBlank c = false := by
    rw [List.head?_reverse]
    exact trimmed.ends
  rw [strip, left, stripRight, List.reverse_append, dropWhile_blank reversed ends,
    List.reverse_reverse]

theorem stripRight_eq (cs : List CodePoint) : stripRight cs = cs.rdropWhile isBlank := rfl

theorem strip_eq_nil_iff : strip cs = [] ↔ AllBlank cs := by
  rw [strip, stripRight_eq, List.rdropWhile_eq_nil_iff, stripLeft]
  constructor
  · intro h
    rw [AllBlank, ← List.dropWhile_eq_nil_iff]
    by_contra hne
    have blank := h _ (List.head_mem hne)
    rw [List.head_dropWhile_not isBlank hne] at blank
    exact Bool.false_ne_true blank
  · intro h c hc
    exact h c ((List.dropWhile_suffix isBlank).subset hc)

theorem strip_trimmed (cs : List CodePoint) : Trimmed (strip cs) where
  begins c hc := by
    obtain ⟨after, h⟩ := List.rdropWhile_prefix isBlank (stripLeft cs)
    have first : c ∈ (stripLeft cs).head? := by
      rw [← h, List.head?_append, ← stripRight_eq, ← strip, Option.mem_def.mp hc]
      rfl
    have unblank := List.head?_dropWhile_not isBlank cs
    rw [stripLeft] at first
    rw [Option.mem_def.mp first] at unblank
    exact unblank
  ends c hc := by
    have hne : strip cs ≠ [] := by
      intro h
      rw [h] at hc
      cases hc
    have last := List.rdropWhile_last_not isBlank (stripLeft cs) hne
    rw [List.getLast?_eq_some_getLast hne] at hc
    cases hc
    exact Bool.eq_false_iff.mpr last

/-- Stripping takes away white space at the ends and nothing else. -/
theorem strip_parts (cs : List CodePoint) :
    ∃ before after, AllBlank before ∧ AllBlank after ∧ cs = before ++ strip cs ++ after := by
  have left : cs = cs.takeWhile isBlank ++ stripLeft cs := (List.takeWhile_append_dropWhile).symm
  have right : stripLeft cs =
      strip cs ++ ((stripLeft cs).reverse.takeWhile isBlank).reverse := by
    rw [strip, stripRight, ← List.reverse_append, List.takeWhile_append_dropWhile,
      List.reverse_reverse]
  refine ⟨cs.takeWhile isBlank, ((stripLeft cs).reverse.takeWhile isBlank).reverse,
    fun c hc => List.mem_takeWhile_imp hc,
    fun c hc => List.mem_takeWhile_imp (List.mem_reverse.mp hc), ?_⟩
  rw [List.append_assoc, ← right, ← left]

theorem strip_subset (cs : List CodePoint) : strip cs ⊆ cs := fun _ hc =>
  (List.dropWhile_suffix isBlank).subset ((List.rdropWhile_prefix isBlank _).subset hc)

end Text

/-! ## Names -/

/-- A name that a list can give. -/
structure IsName (name : List CodePoint) : Prop extends Text.Trimmed name where
  nonempty : name ≠ []
  uncut : (',' : CodePoint) ∉ name

/-- The fields of a list are the names in order, each with white space around it, and others that
hold nothing but white space. -/
inductive Spaced : List (List CodePoint) → List (List CodePoint) → Prop where
  | nil : Spaced [] []
  | blank {names fields : List (List CodePoint)} {field : List CodePoint}
      (blank : Text.AllBlank field) (rest : Spaced names fields) : Spaced names (field :: fields)
  | name {names fields : List (List CodePoint)} {before name after : List CodePoint}
      (hb : Text.AllBlank before) (ha : Text.AllBlank after) (rest : Spaced names fields) :
      Spaced (name :: names) ((before ++ name ++ after) :: fields)

/-- A text is a way to write a list of names. -/
def Spells (names : List (List CodePoint)) (cs : List CodePoint) : Prop :=
  (∀ name ∈ names, IsName name) ∧
    ∃ fields, Spaced names fields ∧ Text.joinFields ',' fields = cs

section

variable {names fields : List (List CodePoint)} {cs name : List CodePoint}

theorem Text.AllBlank.uncut {cs : List CodePoint} (h : AllBlank cs) : (',' : CodePoint) ∉ cs := by
  intro hc
  have blank := h _ hc
  revert blank
  decide

theorem Spaced.uncut (h : Spaced names fields) (hn : ∀ name ∈ names, IsName name) :
    ∀ field ∈ fields, (',' : CodePoint) ∉ field := by
  induction h with
  | nil => simp
  | blank blank _ ih => exact List.forall_mem_cons.mpr ⟨blank.uncut, ih hn⟩
  | name hb ha _ ih =>
    obtain ⟨first, others⟩ := List.forall_mem_cons.mp hn
    refine List.forall_mem_cons.mpr ⟨?_, ih others⟩
    simp [hb.uncut, first.uncut, ha.uncut]

/-- Stripped and without the blank ones the fields are the names. -/
theorem Spaced.read (h : Spaced names fields) (hn : ∀ name ∈ names, IsName name) :
    (fields.map Text.strip).filter (!·.isEmpty) = names := by
  induction h with
  | nil => rfl
  | blank blank _ ih => simp [Text.strip_eq_nil_iff.mpr blank, ih hn]
  | name hb ha _ ih =>
    obtain ⟨first, others⟩ := List.forall_mem_cons.mp hn
    have stripped := Text.strip_padded hb ha first.nonempty first.toTrimmed
    rw [List.map_cons, stripped, List.filter_cons_of_pos (by simp [first.nonempty]), ih others]

/-- Whatever the fields are, they are the names that are read from them, spaced out. -/
theorem spaced_of_read (fields : List (List CodePoint)) :
    Spaced ((fields.map Text.strip).filter (!·.isEmpty)) fields := by
  induction fields with
  | nil => exact .nil
  | cons field rest ih =>
    by_cases h : Text.strip field = []
    · rw [List.map_cons, List.filter_cons_of_neg (by simp [h])]
      exact .blank (Text.strip_eq_nil_iff.mp h) ih
    · obtain ⟨before, after, hb, ha, parts⟩ := Text.strip_parts field
      have spaced : Spaced (Text.strip field :: (rest.map Text.strip).filter (!·.isEmpty))
          ((before ++ Text.strip field ++ after) :: rest) := .name hb ha ih
      rw [← parts] at spaced
      rw [List.map_cons, List.filter_cons_of_pos (by simp [h])]
      exact spaced

theorem nameList_of_spells (h : Spells names cs) : nameList cs = names := by
  obtain ⟨hn, fields, spaced, rfl⟩ := h
  by_cases hf : fields = []
  · subst hf
    cases spaced
    decide
  · rw [nameList, Text.fields_joinFields (spaced.uncut hn) hf, spaced.read hn]

theorem isName_of_mem_nameList (h : name ∈ nameList cs) : IsName name := by
  obtain ⟨hmem, hne⟩ := List.mem_filter.mp h
  obtain ⟨field, hf, rfl⟩ := List.mem_map.mp hmem
  exact
    { Text.strip_trimmed field with
      nonempty := by simpa using hne
      uncut := fun hc => Text.not_mem_field hf (Text.strip_subset field hc) }

theorem spells_iff : Spells names cs ↔ nameList cs = names := by
  refine ⟨nameList_of_spells, ?_⟩
  rintro rfl
  exact ⟨fun _ => isName_of_mem_nameList, Text.fields ',' cs, spaced_of_read _,
    Text.joinFields_fields ',' cs⟩

theorem Spaced.self (names : List (List CodePoint)) : Spaced names names := by
  induction names with
  | nil => exact .nil
  | cons name rest ih =>
    have unspaced : Text.AllBlank [] := nofun
    have spaced : Spaced (name :: rest) (([] ++ name ++ []) :: rest) := .name unspaced unspaced ih
    simpa using spaced

/-- Joined by commas, the names of a list are read again. -/
theorem nameList_joinFields (hn : ∀ name ∈ names, IsName name) :
    nameList (Text.joinFields ',' names) = names :=
  nameList_of_spells ⟨hn, names, .self names, rfl⟩

theorem nameList_eq_nil_iff :
    nameList cs = [] ↔ ∀ c ∈ cs, c = (',' : CodePoint) ∨ Text.isBlank c = true := by
  have blank_iff : nameList cs = [] ↔ ∀ field ∈ Text.fields ',' cs, Text.AllBlank field := by
    simp [nameList, Text.strip_eq_nil_iff]
  rw [blank_iff]
  constructor
  · intro h c hc
    rw [← Text.joinFields_fields ',' cs] at hc
    refine (Text.mem_joinFields hc).imp_right ?_
    rintro ⟨field, hf, hc⟩
    exact h field hf c hc
  · intro h field hf c hc
    have within : c ∈ cs := by
      rw [← Text.joinFields_fields ',' cs]
      exact Text.mem_joinFields_of_mem hf hc
    refine (h c within).resolve_left ?_
    rintro rfl
    exact Text.not_mem_field hf hc

end

/-! ## The environment -/

namespace Environment

/-- The variable that names the libraries suppressed. -/
def suppressedVariable : String := "TRACEKIT_SUPPRESSED_INSTRUMENTATIONS"

def namesOf (names : List (List CodePoint)) : Value := .list (names.map fun name => .str ⟨name⟩)

/-- The libraries suppressed are those named, whatever a file says of them. -/
structure Suppresses (env : Environment) (names : List (List CodePoint)) : Prop where
  overrides : ∀ entries, Value.lookup (.text "suppressed_instrumentations") (env.apply entries) =
    some (namesOf names)
  read : ∀ entries o, Options.ofEntries (env.apply entries) = .ok o → o.suppressed = namesOf names

theorem namesOf_inj {names names' : List (List CodePoint)} (h : namesOf names = namesOf names') :
    names = names' := by
  have inj : Function.Injective fun name : List CodePoint => Value.str ⟨name⟩ := by
    intro a b hab
    cases hab
    rfl
  exact List.map_injective_iff.mpr inj (Value.list.inj h)

variable {env : Environment} {s : Text} {names : List (List CodePoint)}

theorem suppresses_nameList (h : env.get? suppressedVariable = some s) :
    env.Suppresses (nameList s.points) := by
  have overrides : ∀ entries, Value.lookup (.text "suppressed_instrumentations")
      (env.apply entries) = some (namesOf (nameList s.points)) := by
    intro entries
    rw [suppressedVariable, get?] at h
    simp only [lookup_apply, override, h, Option.map_some]
    rfl
  refine ⟨overrides, ?_⟩
  intro entries o ho
  obtain ⟨suppressed, hs, ho⟩ := ok_of_bind ho
  obtain ⟨extra, -, ho⟩ := ok_of_bind ho
  cases ho
  rw [Options.field, overrides] at hs
  cases hs
  rfl

/-- A list of names is suppressed exactly if it is the one that the variable is read as. -/
theorem suppresses_iff (h : env.get? suppressedVariable = some s) :
    env.Suppresses names ↔ nameList s.points = names := by
  refine ⟨fun suppresses => ?_, fun same => same ▸ suppresses_nameList h⟩
  have given := (suppresses_nameList h).overrides []
  rw [suppresses.overrides []] at given
  exact (namesOf_inj (Option.some.inj given)).symm

/-- What an environment in which the variable holds `s` makes of it. -/
structure NamesExactly (env : Environment) (s : Text) : Prop where
  /-- The names suppressed are the only ones that `s` spells. -/
  spelled : ∀ names, env.Suppresses names ↔ Spells names s.points
  /-- There always are such names, be it none. -/
  suppressed : ∃ names, env.Suppresses names
  /-- Joined by commas they are read again. -/
  again : ∀ names, env.Suppresses names → ∀ env' : Environment,
    env'.get? suppressedVariable = some ⟨Text.joinFields ',' names⟩ → env'.Suppresses names
  none_iff : env.Suppresses [] ↔ ∀ c ∈ s.points, c = (',' : CodePoint) ∨ Text.isBlank c = true

/-- The list of suppressed libraries is read from the environment exactly as it is spelled. -/
theorem names_exactly (h : env.get? suppressedVariable = some s) : NamesExactly env s where
  spelled names := by rw [suppresses_iff h, spells_iff]
  suppressed := ⟨_, suppresses_nameList h⟩
  again names suppresses env' h' := by
    rw [suppresses_iff h] at suppresses
    rw [suppresses_iff h']
    exact nameList_joinFields fun name hn => isName_of_mem_nameList (suppresses ▸ hn)
  none_iff := by rw [suppresses_iff h, nameList_eq_nil_iff]

/-- Two names, the first of them once more, with ideographic and no-break spaces around them and
blank fields between. -/
def spacedNames : String := ",　a ,, 	b c , ,a,"

theorem spaced_names_exactly :
    get? [(suppressedVariable, spacedNames)] suppressedVariable = some spacedNames ∧
      NamesExactly [(suppressedVariable, spacedNames)] spacedNames ∧
      Suppresses [(suppressedVariable, spacedNames)]
        (["a", "b c", "a"].map fun name => (Text.ofString name).points) := by
  have given : get? [(suppressedVariable, spacedNames)] suppressedVariable = some spacedNames := by
    decide +kernel
  have exactly := names_exactly given
  refine ⟨given, exactly, (suppresses_iff given).mpr ?_⟩
  decide +kernel

end Environment

end Tracing
