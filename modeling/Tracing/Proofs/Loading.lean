import Tracing.Proofs.Places

/-!
# Tracing.Proofs.Loading

What a load of options comes to, whatever it logs.

* `Loading.Gives`      — whatever was logged before, work comes to one result.
* `Surroundings.opened` — the place that a load reads: of the path named, by the caller or by the
  environment, else of the first search path.
* `Surroundings.entriesFor` — the entries that the document there holds for the library.
* `load_gives`, `load_ok` — a load comes to the options of these entries, checked.
-/

namespace Tracing

namespace Loading

variable {α β : Type} {x : Loading α} {f : α → Loading β} {r : Except Failure α}

/-- Whatever was logged before, the work comes to `r`. -/
def Gives (x : Loading α) (r : Except Failure α) : Prop := ∀ log, ∃ log',
  x log = match r with
    | .ok a => .ok a log'
    | .error e => .error e log'

namespace Gives

theorem pure (a : α) : Gives (pure a) (.ok a) := fun log => ⟨log, rfl⟩

theorem ofExcept (r : Except Failure α) : Gives (MonadExcept.ofExcept r) r := by
  intro log
  cases r <;> exact ⟨log, rfl⟩

theorem say (level : Level) (message : Text) : Gives (Loading.say level message) (.ok ()) :=
  fun _ => ⟨_, rfl⟩

theorem bind_ok {f : α → Loading β} {a : α} {r : Except Failure β} (hx : Gives x (.ok a))
    (hf : Gives (f a) r) : Gives (x >>= f) r := by
  intro log
  obtain ⟨log₁, hrun⟩ := hx log
  obtain ⟨log₂, hrun'⟩ := hf log₁
  exact ⟨log₂, by rw [← hrun']; simp [Bind.bind, EStateM.bind, hrun]⟩

theorem bind_error {f : α → Loading β} {e : Failure} (hx : Gives x (.error e)) :
    Gives (x >>= f) (.error e) := by
  intro log
  obtain ⟨log₁, hrun⟩ := hx log
  exact ⟨log₁, by simp [Bind.bind, EStateM.bind, hrun]⟩

theorem bind {g : α → Except Failure β} (hx : Gives x r) (hf : ∀ a, Gives (f a) (g a)) :
    Gives (x >>= f) (r >>= g) := by
  cases r with
  | ok a => exact hx.bind_ok (hf a)
  | error e => exact hx.bind_error

/-- What is said on the way does not matter. -/
theorem say_bind {level : Level} {message : Text} {f : Unit → Loading β} {r : Except Failure β}
    (h : Gives (f ()) r) : Gives (Loading.say level message >>= f) r :=
  (say level message).bind_ok h

theorem ok_iff {log : List LogRecord} {a : α} (h : Gives x r) :
    (∃ log', x log = .ok a log') ↔ r = .ok a := by
  obtain ⟨log', hrun⟩ := h log
  cases r <;> simp [hrun]

theorem error_iff {log : List LogRecord} {e : Failure} (h : Gives x r) :
    (∃ log', x log = .error e log') ↔ r = .error e := by
  obtain ⟨log', hrun⟩ := h log
  cases r <;> simp [hrun]

end Gives

end Loading

open Loading

namespace Surroundings

/-- What a path leads to from the current directory. -/
def reach (s : Surroundings) (p : FilePath) : Except NotLocated Place :=
  s.files.locate s.current p

/-- Whether a path does not lead to nothing. -/
def isPresent (s : Surroundings) (p : FilePath) : Bool :=
  match s.reach p with
  | .error .missing | .error .belowFile => false
  | _ => true

/-- The path that the environment names. -/
def environmentPath (s : Surroundings) : Option FilePath :=
  (s.environment.get? configVariable).map FilePath.ofText

/-- The path that is used without a search: the one named, else the environment's if it is
present. -/
def given (s : Surroundings) (named : Option FilePath) : Option FilePath :=
  named.or (s.environmentPath.filter s.isPresent)

/-- What a present path leads to. -/
def placeAt (s : Surroundings) (p : FilePath) : Except Failure Place :=
  (s.reach p).mapError fun _ => .file .nameTooLong p.render

/-- The place that is read. What a search finds is looked up once more, by its resolved path. -/
def opened (s : Surroundings) (named : Option FilePath) : Except Failure (Option Place) :=
  match s.given named with
  | some p => s.place? p
  | none =>
    match searchPaths.find? s.isPresent with
    | none => .ok none
    | some p => do s.place? (FileTree.resolved (← s.placeAt p))

/-- The entries that a document holds for the library. -/
def optionsIn : Option Value → List (Value × Value)
  | some (.dict entries) =>
    match Value.lookup (.text "tracing") entries with
    | none => entries
    | some (.dict inner) => inner
    | some _ => []
  | _ => []

/-- The entries that the document at a place holds for the library. -/
def entriesOf (s : Surroundings) : Option Place → Except Failure (List (Value × Value))
  | none => .ok []
  | some place => (s.document? place).map optionsIn

def entriesFor (s : Surroundings) (named : Option FilePath) :
    Except Failure (List (Value × Value)) := do
  s.entriesOf (← s.opened named)

/-! ## Finding the file -/

theorem place?_eq (s : Surroundings) (p : FilePath) :
    s.place? p = if s.isPresent p then (s.placeAt p).map some else .ok none := by
  unfold place? isPresent placeAt reach
  rcases s.files.locate s.current p with (_ | _ | _) | place <;> rfl

theorem placeAt_ok_iff {s : Surroundings} {p : FilePath} {place : Place} :
    s.placeAt p = .ok place ↔ s.reach p = .ok place := by
  unfold placeAt
  cases s.reach p <;> constructor <;> intro h <;> cases h <;> rfl

theorem search_gives (s : Surroundings) (paths : List FilePath) :
    Gives (s.search paths)
      (match paths.find? s.isPresent with
        | none => .ok none
        | some p => (s.placeAt p).map fun place => some (FileTree.resolved place)) := by
  induction paths with
  | nil => exact .pure none
  | cons p rest ih =>
    rw [search, place?_eq]
    cases present : s.isPresent p with
    | false =>
      rw [List.find?_cons_of_neg (by simp [present])]
      exact (Gives.ofExcept _).bind_ok ih
    | true =>
      rw [List.find?_cons_of_pos present]
      dsimp only
      cases s.placeAt p with
      | error e => exact (Gives.ofExcept _).bind_error
      | ok place => exact (Gives.ofExcept _).bind_ok (.say_bind (.pure _))

theorem discover_gives (s : Surroundings) :
    Gives s.discover
      (match s.environmentPath.filter s.isPresent with
        | some p => (s.placeAt p).map fun _ => some p
        | none =>
          match searchPaths.find? s.isPresent with
          | none => .ok none
          | some p => (s.placeAt p).map fun place => some (FileTree.resolved place)) := by
  unfold discover environmentPath
  cases s.environment.get? configVariable with
  | none => exact s.search_gives searchPaths
  | some named =>
    dsimp only
    rw [place?_eq, Option.map_some, Option.filter_some]
    cases s.isPresent (.ofText named) with
    | false => exact (Gives.ofExcept _).bind_ok (.say_bind (s.search_gives searchPaths))
    | true =>
      simp only [if_true]
      cases s.placeAt (.ofText named) with
      | error e => exact (Gives.ofExcept _).bind_error
      | ok place => exact (Gives.ofExcept _).bind_ok (.say_bind (.pure _))

/-! ## Reading -/

theorem optionsIn_eq (v : Value) :
    optionsIn (some v) = match sectionOf v with
      | .entries entries => entries
      | _ => [] := by
  cases v with
  | dict entries =>
    unfold optionsIn sectionOf
    dsimp only
    rcases Value.lookup (.text "tracing") entries with _ | v
    · rfl
    · cases v <;> rfl
  | _ => rfl

theorem entriesAt_gives (s : Surroundings) (p : FilePath) (place : Place) :
    Gives (s.entriesAt p place) ((s.document? place).map optionsIn) := by
  unfold entriesAt
  rcases s.document? place with e | (_ | v)
  · exact (Gives.ofExcept _).bind_error
  · exact (Gives.ofExcept _).bind_ok (.say_bind (.pure _))
  · refine (Gives.ofExcept _).bind_ok ?_
    rw [Except.map, optionsIn_eq]
    dsimp only
    cases sectionOf v <;> exact .say_bind (.pure _)

theorem fileEntries_some (s : Surroundings) (p : FilePath) :
    Gives (s.fileEntries (some p)) (s.place? p >>= s.entriesOf) := by
  show Gives (MonadExcept.ofExcept (s.place? p) >>= _) _
  rcases s.place? p with e | (_ | place)
  · exact (Gives.ofExcept _).bind_error
  · exact (Gives.ofExcept _).bind_ok (.say_bind (.pure []))
  · exact (Gives.ofExcept _).bind_ok (s.entriesAt_gives p place)

/-- What is discovered is read like a file that is named. -/
theorem fileEntries_none (s : Surroundings) :
    s.fileEntries none = s.discover >>= fun found =>
      match found with
      | none => pure []
      | some p => s.fileEntries (some p) := rfl

theorem fileEntries_gives (s : Surroundings) (named : Option FilePath) :
    Gives (s.fileEntries named) (s.entriesFor named) := by
  cases named with
  | some p => exact s.fileEntries_some p
  | none =>
    have h := s.discover_gives
    rw [fileEntries_none, entriesFor, opened, given, Option.none_or]
    cases hgiven : s.environmentPath.filter s.isPresent with
    | some p =>
      rw [hgiven] at h
      have reads := s.fileEntries_some p
      dsimp only at h ⊢
      rw [place?_eq, if_pos (Option.filter_eq_some_iff.mp hgiven).2] at reads ⊢
      cases hp : s.placeAt p with
      | error e =>
        rw [hp] at h
        exact h.bind_error
      | ok place =>
        rw [hp] at h reads
        exact h.bind_ok reads
    | none =>
      rw [hgiven] at h
      dsimp only at h ⊢
      cases hfirst : searchPaths.find? s.isPresent with
      | none =>
        rw [hfirst] at h
        exact h.bind_ok (.pure [])
      | some p =>
        rw [hfirst] at h
        dsimp only at h ⊢
        cases hp : s.placeAt p with
        | error e =>
          rw [hp] at h
          exact h.bind_error
        | ok place =>
          rw [hp] at h
          exact h.bind_ok (s.fileEntries_some _)

/-- A load comes to the options of what is read, under the overrides of the environment. -/
theorem load_gives (s : Surroundings) (named : Option FilePath) :
    Gives (s.load named) (do
      let o ← Options.ofEntries (s.environment.apply (← s.entriesFor named))
      o.check
      return o) := by
  refine (s.fileEntries_gives named).bind fun entries => ?_
  refine (Gives.ofExcept _).bind fun o => ?_
  exact (Gives.ofExcept _).bind fun _ => .pure o

/-- Loaded options are those of what is read, and they pass their check. -/
theorem load_ok {s : Surroundings} {named : Option FilePath} {log log' : List LogRecord}
    {o : Options} (h : s.load named log = .ok o log') : ∃ entries,
      s.entriesFor named = .ok entries ∧
        Options.ofEntries (s.environment.apply entries) = .ok o ∧ o.check = .ok () := by
  have loaded := (s.load_gives named).ok_iff.mp ⟨log', h⟩
  obtain ⟨entries, hentries, loaded⟩ := ok_of_bind loaded
  obtain ⟨o', ho, loaded⟩ := ok_of_bind loaded
  obtain ⟨⟨⟩, checked, same⟩ := ok_of_bind loaded
  cases same
  exact ⟨entries, hentries, ho, checked⟩

end Surroundings

end Tracing
