import Tracing.Options.Load
import Tracing.Proofs.Operation

/-!
# Tracing.Proofs.Places

Places of a file system and the paths that lead to them.

* `FileTree.Stands`  — a place is reached from a root by names, each of which leads one step down.
* `FileTree.Rooted`  — the directory that the tree stands in is there, as in every tree made.
* `locate_stands`    — what a path leads to from a standing place stands.
* `locate_resolved`  — the resolved path of a standing place leads to it, unless it is too long.
* `Surroundings.Placed` — the current directory stands, as that of all surroundings made.
-/

namespace Tracing

def Place.path : Place → List FileName
  | .directory path | .file path => path

/-- A name that a component of a path can give. -/
def FileName.IsGiven (name : FileName) : Prop := name.contains 0 = false

namespace FileTree

/-- The directory that the tree stands in is there. -/
def Rooted (t : FileTree) : Prop := treeRoot.dropLast ∈ t.directories

inductive Stands (t : FileTree) : Place → Prop where
  | system : Stands t (.directory [])
  | tree : Stands t (.directory treeRoot)
  | step {place next : Place} {name : FileName} (above : Stands t place) (given : name.IsGiven)
      (down : name ≠ .parent) (found : t.step place name = .ok next) : Stands t next

section

variable {t t' : FileTree} {place place' current : Place} {name : FileName}
  {names : List FileName}

/-! ## Steps -/

theorem step_parent (path : List FileName) :
    t.step (.directory path) .parent = .ok (.directory path.dropLast) := by
  simp [step]

theorem path_step (down : name ≠ .parent) (h : t.step place name = .ok place') :
    place = .directory place.path ∧ place'.path = place.path ++ [name] := by
  cases place with
  | file path => cases h
  | directory path =>
    refine ⟨rfl, ?_⟩
    simp only [step, down, if_false] at h
    split at h
    · cases h
    · split at h
      · cases h
        rfl
      · split at h <;> cases h
        rfl

theorem step_directory {path : List FileName} (down : name ≠ .parent)
    (short : name.length ≤ maxName) (there : path ++ [name] ∈ t.directories) :
    t.step (.directory path) name = .ok (.directory (path ++ [name])) := by
  simp [step, down, short, there]

theorem walk_concat (names : List FileName) (name : FileName) :
    t.walk place (names ++ [name]) = (t.walk place names).bind (t.step · name) := by
  induction names generalizing place with
  | nil => cases h : t.step place name <;> simp [walk, h, Except.bind]
  | cons first rest ih =>
    cases h : t.step place first with
    | ok next => simpa [walk, h] using ih
    | error e => simp [walk, h, Except.bind]

/-! ## Standing places -/

theorem Stands.parent (rooted : t.Rooted) (h : t.Stands place) :
    t.Stands (.directory place.path.dropLast) := by
  cases h with
  | system => exact .system
  | tree =>
    have given : (FileName.ofString "tmp").IsGiven := by
      unfold FileName.IsGiven
      decide +kernel
    have down : FileName.ofString "tmp" ≠ .parent := by decide +kernel
    exact .step .system given down (step_directory down (by decide +kernel) rooted)
  | step above given down found =>
    obtain ⟨directory, path⟩ := path_step down found
    rw [path, List.dropLast_concat, ← directory]
    exact above

theorem Stands.further (rooted : t.Rooted) (h : t.Stands place) (given : name.IsGiven)
    (found : t.step place name = .ok place') : t.Stands place' := by
  by_cases down : name = .parent
  · subst down
    cases place with
    | file path => cases found
    | directory path =>
      rw [step_parent] at found
      cases found
      exact h.parent rooted
  · exact .step h given down found

theorem Stands.walk (rooted : t.Rooted) (h : t.Stands place)
    (given : ∀ name ∈ names, name.IsGiven) (found : t.walk place names = .ok place') :
    t.Stands place' := by
  induction names generalizing place with
  | nil =>
    cases found
    exact h
  | cons name rest ih =>
    rw [FileTree.walk] at found
    split at found
    next next hstep =>
      have standing := h.further rooted (given name List.mem_cons_self) hstep
      exact ih standing (fun n hn => given n (List.mem_cons_of_mem _ hn)) found
    · cases found

/-- A standing place is below one of the roots, and its path says how far. -/
theorem Stands.walked (h : t.Stands place) :
    ∃ root names, (root = [] ∨ root = treeRoot) ∧ place.path = root ++ names ∧
      (∀ name ∈ names, name.IsGiven) ∧ t.walk (.directory root) names = .ok place := by
  induction h with
  | system => exact ⟨[], [], .inl rfl, rfl, nofun, rfl⟩
  | tree => exact ⟨treeRoot, [], .inr rfl, rfl, nofun, rfl⟩
  | @step place next name above given down found ih =>
    obtain ⟨root, names, hroot, path, allGiven, walked⟩ := ih
    refine ⟨root, names ++ [name], hroot, ?_, ?_, ?_⟩
    · rw [(path_step down found).2, path, List.append_assoc]
    · intro n hn
      rcases List.mem_append.mp hn with hn | hn
      · exact allGiven n hn
      · obtain rfl := List.mem_singleton.mp hn
        exact given
    · rw [walk_concat, walked]
      exact found

/-! ## Paths -/

theorem isGiven_of_ofText? {part : Text} (h : FileName.ofText? part = some name) :
    name.IsGiven := by
  have kept := (Option.filter_eq_some_iff.mp h).2
  simpa [FileName.IsGiven] using kept

theorem ofText?_ofBytes (given : name.IsGiven) :
    FileName.ofText? (Text.ofBytes name) = some name := by
  rw [FileName.ofText?, Text.toBytes?_ofBytes, Option.filter_some, given]
  rfl

theorem isGiven_of_mapM {parts : List Text} (h : parts.mapM FileName.ofText? = some names) :
    ∀ name ∈ names, name.IsGiven := by
  induction parts generalizing names with
  | nil =>
    cases h
    exact nofun
  | cons part rest ih =>
    simp only [List.mapM_cons, Option.pure_def, Option.bind_eq_bind, Option.bind_eq_some_iff] at h
    obtain ⟨first, hfirst, others, hothers, heq⟩ := h
    cases heq
    intro name hn
    rcases List.mem_cons.mp hn with rfl | hn
    · exact isGiven_of_ofText? hfirst
    · exact ih hothers name hn

theorem mapM_ofText?_ofBytes (given : ∀ name ∈ names, name.IsGiven) :
    (names.map Text.ofBytes).mapM FileName.ofText? = some names := by
  induction names with
  | nil => rfl
  | cons first rest ih =>
    rw [List.map_cons, List.mapM_cons, ofText?_ofBytes (given first List.mem_cons_self),
      ih fun name hn => given name (List.mem_cons_of_mem _ hn)]
    rfl

/-- What a path leads to stands. -/
theorem locate_stands (rooted : t.Rooted) (h : t.Stands current) {p : FilePath}
    (found : t.locate current p = .ok place) : t.Stands place := by
  have start : t.Stands (start current p.base) := by
    cases p.base with
    | current => exact h
    | root => exact .tree
    | system => exact .system
  unfold locate at found
  split at found
  next names bytes hnames _ =>
    split at found
    · cases found
    · exact start.walk rooted (isGiven_of_mapM hnames) found
  · cases found

/-! ## Resolved paths -/

theorem resolved_root (names : List FileName) (h : place.path = treeRoot ++ names) :
    resolved place = ⟨.root, names.map Text.ofBytes⟩ := by
  have under : treeRoot.isPrefixOf place.path = true := by simp [h]
  cases place <;> simp_all [resolved, Place.path]

/-- No name that a path gives is the last one of the tree's directory. -/
theorem resolved_system (h : ∀ name ∈ place.path, name.IsGiven) :
    resolved place = ⟨.system false, place.path.map Text.ofBytes⟩ := by
  have outside : treeRoot.isPrefixOf place.path = false := by
    apply Bool.eq_false_iff.mpr
    intro under
    have mem : [0] ∈ place.path :=
      (List.isPrefixOf_iff_prefix.mp under).subset (by simp [treeRoot])
    have given := h _ mem
    simp [FileName.IsGiven] at given
  cases place <;> simp_all [resolved, Place.path]

/-- A path of names is made of bytes, and so it can be looked up. -/
theorem render_ofBytes (base : PathBase) (names : List FileName) :
    ∃ bytes, (FilePath.mk base (names.map Text.ofBytes)).render.toBytes? = some bytes := by
  have slash : Text.toBytes? "/" = some [0x2f] := by decide +kernel
  have ofNames : ∀ piece ∈ names.map Text.ofBytes, ∃ bytes, piece.toBytes? = some bytes := by
    intro piece hp
    obtain ⟨name, -, rfl⟩ := List.mem_map.mp hp
    exact ⟨name, Text.toBytes?_ofBytes name⟩
  obtain ⟨bytes, joined⟩ := Text.toBytes?_intercalate slash ofNames
  cases base with
  | root =>
    have mark : Text.toBytes? FilePath.rootMark = some "<root>".toUTF8.toList := by decide +kernel
    exact Text.toBytes?_intercalate slash (List.forall_mem_cons.mpr ⟨⟨_, mark⟩, ofNames⟩)
  | system doubled =>
    have slashes : Text.toBytes? (if doubled then "//" else "/" : String) =
        some (if doubled then [0x2f, 0x2f] else [0x2f]) := by
      revert doubled
      decide +kernel
    exact ⟨_, Text.toBytes?_append slashes joined⟩
  | current =>
    cases names with
    | nil => exact ⟨[0x2e], by decide +kernel⟩
    | cons first rest => exact ⟨bytes, joined⟩

/-- The resolved path of a standing place leads to it from anywhere, if it is short enough to be
used. -/
theorem locate_resolved (h : t.Stands place) (current : Place) :
    t.locate current (resolved place) = .ok place ∨
      t.locate current (resolved place) = .error .nameTooLong := by
  obtain ⟨root, names, hroot, path, given, walked⟩ := h.walked
  obtain ⟨base, resolves, hstart⟩ : ∃ base, resolved place = ⟨base, names.map Text.ofBytes⟩ ∧
      start current base = .directory root := by
    rcases hroot with rfl | rfl
    · rw [List.nil_append] at path
      exact ⟨.system false, path ▸ resolved_system (path ▸ given), rfl⟩
    · exact ⟨.root, resolved_root names path, rfl⟩
  obtain ⟨bytes, hbytes⟩ := render_ofBytes base names
  rw [resolves, locate, mapM_ofText?_ofBytes given, hbytes, hstart]
  dsimp only
  split
  · exact .inr rfl
  · exact .inl walked

/-! ## Trees made -/

theorem makeUpwards_directories {base : PathBase} {parts : List Text}
    (h : t.makeUpwards base parts = .ok t') : t.directories ⊆ t'.directories := by
  induction parts generalizing t' with
  | nil =>
    cases h
    exact List.Subset.refl _
  | cons part above ih =>
    unfold makeUpwards at h
    obtain ⟨made, -, h⟩ := ok_of_bind h
    cases made with
    | true =>
      cases h
      exact List.Subset.refl _
    | false =>
      obtain ⟨t₁, h₁, h⟩ := ok_of_bind h
      obtain ⟨made, -, h⟩ := ok_of_bind h
      have grown := ih h₁
      cases made <;> cases h
      · exact List.subset_append_of_subset_right _ grown
      · exact grown

theorem makeDirectory_directories {p : FilePath} (h : t.makeDirectory p = .ok t') :
    t.directories ⊆ t'.directories := by
  obtain ⟨-, -, h⟩ := ok_of_bind h
  exact makeUpwards_directories h

theorem write_directories {p : FilePath} {bytes : ByteArray} (h : t.write p bytes = .ok t') :
    t.directories ⊆ t'.directories := by
  obtain ⟨t₁, made, h⟩ := ok_of_bind h
  obtain ⟨-, -, h⟩ := ok_of_bind h
  have same : t'.directories = t₁.directories := by
    split at h <;> cases h <;> rfl
  exact same ▸ makeDirectory_directories made

/-- A tree that is made from the one with nothing in it. -/
inductive Made : FileTree → Prop where
  | empty : Made {}
  | directory {t t' : FileTree} (h : Made t) {p : FilePath} (made : t.makeDirectory p = .ok t') :
      Made t'
  | file {t t' : FileTree} (h : Made t) {p : FilePath} {bytes : ByteArray}
      (written : t.write p bytes = .ok t') : Made t'

theorem Made.rooted (h : t.Made) : t.Rooted := by
  induction h with
  | empty =>
    unfold Rooted
    decide +kernel
  | directory _ made ih => exact makeDirectory_directories made ih
  | file _ written ih => exact write_directories written ih

end

end FileTree

/-- The current directory stands in the file system. -/
structure Surroundings.Placed (s : Surroundings) : Prop where
  rooted : s.files.Rooted
  current : s.files.Stands s.current

/-- So it does wherever the directory of a path of a tree that was made is the current one. -/
theorem FileTree.Made.placed {t : FileTree} (h : t.Made) (p : FilePath)
    (environment : Environment) :
    Surroundings.Placed { files := t, current := t.placeOf p, environment } where
  rooted := h.rooted
  current := by
    show t.Stands (t.placeOf p)
    unfold placeOf
    cases found : t.find p with
    | ok place => exact locate_stands h.rooted .tree found
    | error e => exact .tree

end Tracing
