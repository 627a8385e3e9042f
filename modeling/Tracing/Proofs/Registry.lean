import Tracing.Proofs.Library
import Tracing.Proofs.Recency
import Tracing.Proofs.Run

/-!
# Tracing.Proofs.Registry

The tracers that a recorder keeps are those used last.

* `World.SameRegistry` — a recorder keeps and counts the same tracers and looks none up.
* `World.LooksUp`      — a recorder looks an identity up: a hit or a miss.
* `Change.registry`    — whatever happens, it is one or the other.
* `World.Registered`   — what a recorder keeps and counts, by the identities that it looked up.
* `registry_recent`    — so it is in every reachable world, as long as every tracer can be made.
-/

namespace Tracing

open Act

/-- A step that leaves the number of tracers to be kept as it is. -/
def Step.KeepsLimit (s : Step) : Prop := ∀ id v, s ≠ .setOption id (.str "max_cached_tracers") v

namespace World

structure SameRegistry (r : Ref Recorder) (w w' : World) : Prop where
  recorders : w.recorders.size ≤ w'.recorders.size := by first | exact Nat.le_refl _ | simp
  tracers : (w'.recorders.get r).tracers = (w.recorders.get r).tracers := by rfl
  hits : (w'.recorders.get r).hits = (w.recorders.get r).hits := by rfl
  misses : (w'.recorders.get r).misses = (w.recorders.get r).misses := by rfl
  limit : w.recorders.Has r → (w'.recorders.get r).options.maxCachedTracers =
    (w.recorders.get r).options.maxCachedTracers := by intro _; rfl
  sought : w'.sought r = w.sought r := by rfl

/-- Nothing is looked up, and the limit is what it was. -/
theorem SameLibrary.registry {r : Ref Recorder} {w w' : World} (h : SameLibrary r w w')
    (size : w.recorders.size ≤ w'.recorders.size)
    (limit : w.recorders.Has r → (w'.recorders.get r).options.maxCachedTracers =
      (w.recorders.get r).options.maxCachedTracers) : SameRegistry r w w' where
  recorders := size
  tracers := h.tracers
  hits := h.hits
  misses := h.misses
  limit := limit
  sought := by rw [sought_lookupEvents, h.lookups, sought_lookupEvents]

/-- The identity is looked up. It is found if it was among the `n` identities used last; else a
tracer is made and kept with the others, as many as `n` allows, unless that is refused. -/
structure LooksUp (r : Ref Recorder) (n : Nat) (key : TracerKey) (w w' : World) : Prop where
  sought : w'.sought r = w.sought r ++ [key]
  hit : key ∈ recent n (w.sought r) → w'.journal = w.journal ++ [.sought r key] ∧
    (w'.recorders.get r).hits = (w.recorders.get r).hits + 1 ∧
    (w'.recorders.get r).misses = (w.recorders.get r).misses
  miss : key ∉ recent n (w.sought r) →
    (w'.journal = w.journal ++ [.sought r key, .issued r key] ∨
      w'.journal = w.journal ++ [.sought r key, .refused r key]) ∧
    (w'.recorders.get r).hits = (w.recorders.get r).hits ∧
    (w'.recorders.get r).misses = (w.recorders.get r).misses + 1
  tracers : .refused r key ∉ w'.journal →
    (w'.recorders.get r).tracers.keys = recent n (w'.sought r)

end World

open World

section

variable {r t : Ref Recorder} {w w' : World} {request : Request} {fault : Option Failure}

/-! ## Looking up -/

variable {key : TracerKey} {name version : Value} {n : Nat}

theorem get_withRecorder (hr : w.recorders.Has r) (f : Recorder → Recorder) :
    (w.withRecorder r f).recorders.get r = f (w.recorders.get r) :=
  w.recorders.get_modify_self f hr

theorem has_withRecorder (hr : w.recorders.Has r) (t : Ref Recorder) (f : Recorder → Recorder) :
    (w.withRecorder t f).recorders.Has r := by
  simpa [World.withRecorder, Store.Has] using hr

theorem sought_append {events : List Event} (h : w'.journal = w.journal ++ events) :
    w'.sought r = w.sought r ++ events.filterMap (Event.keySought r) := by
  rw [World.sought, h, List.filterMap_append, World.sought]

theorem looksUp_hit (hr : w.recorders.Has r)
    (kept : (w.recorders.get r).tracers.keys = recent (n + 1) (w.sought r))
    (hk : key ∈ (w.recorders.get r).tracers.keys) :
    LooksUp r (n + 1) key w ((w.entered (.sought r key)).withRecorder r (·.reuse key)) := by
  have hx := get_withRecorder (w := w.entered (.sought r key)) hr (·.reuse key)
  have sought : ((w.entered (.sought r key)).withRecorder r (·.reuse key)).sought r =
      w.sought r ++ [key] := by
    simp [World.sought, World.entered, World.withRecorder, Event.keySought]
  exact
    { sought := sought
      hit := fun _ => ⟨rfl, by rw [hx]; rfl, by rw [hx]; rfl⟩
      miss := fun h => absurd (kept ▸ hk) h
      tracers := fun _ => by
        rw [hx, sought]
        exact Lru.touch_recent kept hk }

theorem refused_recorder (hr : w.recorders.Has r) (key : TracerKey) :
    (Recorder.refusedWorld w r key).recorders.get r = (w.recorders.get r).missed :=
  get_withRecorder (w := w.entered (.sought r key)) hr _

theorem refused_journal (w : World) (r : Ref Recorder) (key : TracerKey) :
    (Recorder.refusedWorld w r key).journal = w.journal ++ [.sought r key, .refused r key] := by
  simp [Recorder.refusedWorld, World.entered, World.withRecorder]

theorem looksUp_refused (hr : w.recorders.Has r)
    (kept : (w.recorders.get r).tracers.keys = recent (n + 1) (w.sought r))
    (hk : key ∉ (w.recorders.get r).tracers.keys) :
    LooksUp r (n + 1) key w (Recorder.refusedWorld w r key) := by
  have hx := refused_recorder hr key
  have journal := refused_journal w r key
  exact
    { sought := by
        rw [sought_append journal]
        simp [Event.keySought]
      hit := fun h => absurd (kept ▸ h) hk
      miss := fun _ => ⟨.inr journal, by rw [hx]; rfl, by rw [hx]; rfl⟩
      tracers := fun h => absurd (journal ▸ by simp) h }

theorem made_recorder (hr : w.recorders.Has r) (key : TracerKey) (name version : Value) (n : Nat)
    (records : List LogRecord) :
    (Recorder.dropped (w.made r key name version) r n records).recorders.get r =
      ((w.recorders.get r).keep w.telemetryOff key name version).forget n := by
  have has : (w.made r key name version).recorders.Has r :=
    has_withRecorder (w := (w.entered _).entered _) hr r _
  rw [Recorder.dropped, World.logged, get_withRecorder has]
  exact congrArg (Recorder.forget · n) (get_withRecorder (w := (w.entered _).entered _) hr _)

theorem made_journal (w : World) (r : Ref Recorder) (key : TracerKey) (name version : Value)
    (n : Nat) (records : List LogRecord) :
    (Recorder.dropped (w.made r key name version) r n records).journal =
      w.journal ++ [.sought r key, .issued r key] := by
  simp [Recorder.dropped, World.logged, World.made, World.entered, World.withRecorder]

theorem looksUp_made (hr : w.recorders.Has r)
    (kept : (w.recorders.get r).tracers.keys = recent (n + 1) (w.sought r))
    (hk : key ∉ (w.recorders.get r).tracers.keys) (name version : Value)
    (records : List LogRecord) :
    LooksUp r (n + 1) key w (Recorder.dropped (w.made r key name version) r
      ((w.recorders.get r).tracers.size + 1 - (n + 1)) records) := by
  have hx := made_recorder hr key name version ((w.recorders.get r).tracers.size + 1 - (n + 1))
    records
  have journal := made_journal w r key name version
    ((w.recorders.get r).tracers.size + 1 - (n + 1)) records
  have sought := sought_append (r := r) journal
  exact
    { sought := by
        rw [sought]
        simp [Event.keySought]
      hit := fun h => absurd (kept ▸ h) hk
      miss := fun _ => ⟨.inl journal, by rw [hx]; rfl, by rw [hx]; rfl⟩
      tracers := fun _ => by
        have looked :
            [Event.sought r key, .issued r key].filterMap (Event.keySought r) = [key] := by
          simp [Event.keySought]
        rw [hx, sought, looked, ← Lru.push_recent kept hk
          ((w.recorders.get r).keptFor w.telemetryOff name version)]
        simp [Recorder.forget, Recorder.keep, Lru.keys] }

/-- What fails after the lookup only adds to the failures. -/
theorem World.LooksUp.failed (h : LooksUp r n key w w') (hr : w'.recorders.Has r)
    (records : List LogRecord) :
    LooksUp r n key w ((w'.withRecorder r Recorder.failed).logged records) := by
  have hx : ((w'.withRecorder r Recorder.failed).logged records).recorders.get r =
    (w'.recorders.get r).failed := get_withRecorder (w := w') hr _
  exact
    { sought := h.sought
      hit := fun hk => by rw [hx]; exact h.hit hk
      miss := fun hk => by rw [hx]; exact h.miss hk
      tracers := fun hk => by rw [hx]; exact h.tracers hk }

theorem getTracer_looksUp
    (limit : (w.recorders.get r).options.maxCachedTracers = .int (n + 1 : Nat))
    (kept : (w.recorders.get r).tracers.keys = recent (n + 1) (w.sought r))
    (hq : (w.recorders.get r).inquire request = .seeks key name version) :
    LooksUp r (n + 1) key w ((Recorder.getTracer r request fault).after w) := by
  have hr : w.recorders.Has r := Recorder.has_of_open (Recorder.open_of_seeks hq)
  have known := (w.recorders.get r).tracers.find?_isSome key
  cases hf : (w.recorders.get r).tracers.find? key with
  | some found =>
    rw [after_of_ok (Recorder.getTracer_hit hq hf)]
    exact looksUp_hit hr kept (known.mp (by rw [hf]; rfl))
  | none =>
    have hk : key ∉ (w.recorders.get r).tracers.keys := by
      rw [← known, hf]
      simp
    cases fault with
    | none =>
      have few : (w.recorders.get r).tracers.size ≤ n + 1 := by
        have length := congrArg List.length kept
        rw [Lru.keys, List.length_map, length_recent] at length
        exact Nat.le_trans (Nat.le_of_eq length) (Nat.min_le_left _ _)
      obtain ⟨records, hrun | ⟨e, hrun⟩⟩ := Recorder.getTracer_made_full hq hf limit few
      · rw [after_of_ok hrun]
        exact looksUp_made hr kept hk name version records
      · rw [after_of_ok hrun]
        refine (looksUp_made hr kept hk name version records).failed ?_ _
        exact has_withRecorder (has_withRecorder (w := (w.entered _).entered _) hr r _) r _
    | some e =>
      have refused := looksUp_refused hr kept hk
      have failed := refused.failed (has_withRecorder (w := w.entered _) hr r _)
      have hrun := Recorder.getTracer_refused (e := e) hq hf
      split at hrun
      · rw [after_of_error hrun]
        exact refused
      · split at hrun
        · rw [after_of_error hrun]
          simpa [World.logged] using failed []
        · rw [after_of_ok hrun]
          exact failed _

theorem getTracer_options (t : Ref Recorder) (request : Request) (fault : Option Failure) :
    w.SameOptions ((Recorder.getTracer t request fault).after w) := by
  have allows : AllowsRequest SameOptions t :=
    { entered := fun _ _ _ _ => rfl
      changed := fun w f h r => w.recorders.map_get_modify (·.options) t r fun x => by
        obtain ⟨_, _, _, _, _, _, -, hx⟩ := h x
        rw [hx]
      logged := fun _ _ _ => rfl }
  exact getTracer_allowed allows request fault w

/-! ## Changes -/

theorem Options.assign_limit {o o' : Options} {field : Text} {v : Value}
    (h : o.assign field v = some o') (hf : field ≠ "max_cached_tracers") :
    o'.maxCachedTracers = o.maxCachedTracers := by
  unfold Options.assign at h
  split at h <;> cases h <;> try rfl
  next hs => exact absurd (Text.ofString_of_toString? hs).symm hf

/-- A field that `get` reads is what it was, or the value assigned to it by its name. -/
theorem assign_or {get : Options → Value} {name : Text}
    (own : ∀ (x : Recorder) v, get (x.assign name v).options = v)
    (other : ∀ {o o' field v}, o.assign field v = some o' → field ≠ name → get o' = get o)
    (x : Recorder) (field : Text) (v : Value) :
    get (x.assign field v).options = get x.options ∨
      field = name ∧ get (x.assign field v).options = v := by
  by_cases hf : field = name
  · subst hf
    exact .inr ⟨rfl, own x v⟩
  · left
    unfold Recorder.assign
    split
    · rfl
    · cases h : x.options.assign field v with
      | none => rfl
      | some o => exact other h hf

/-- The number of tracers to be kept is what it was, or the value assigned to it. -/
theorem assign_limit (x : Recorder) (field : Text) (v : Value) :
    (x.assign field v).options.maxCachedTracers = x.options.maxCachedTracers ∨
      field = "max_cached_tracers" ∧ (x.assign field v).options.maxCachedTracers = v :=
  assign_or (fun _ _ => rfl) Options.assign_limit x field v

/-- The options of a recorder are what they were, or a field of them was assigned. -/
theorem Change.options_or {P : Step → Prop} (h : Change P w w') (hr : w.recorders.Has r) :
    (w'.recorders.get r).options = (w.recorders.get r).options ∨
      ∃ id field v, P (.setOption id (.str field) v) ∧
        (w'.recorders.get r).options = ((w.recorders.get r).assign field v).options := by
  cases h with
  | ask s _ t request fault => exact .inl (getTracer_options t request fault r)
  | addRecorder => exact .inl (by rw [w.recorders.get_add_of_lt _ hr])
  | attach t p =>
    exact .inl (w.recorders.map_get_modify (·.options) t r
      (f := (·.attaching p (w.pipelines.get p).processor)) fun _ => rfl)
  | assign id field v allowed t =>
    rcases w.recorders.get_modify_eq_or t r (·.assign field v) with same | ⟨-, assigned⟩
    · exact .inl (congrArg Recorder.options same)
    · exact .inr ⟨id, field, v, allowed, congrArg Recorder.options assigned⟩
  | startSpan t scope request => exact .inl ((startSpan_after t scope request).options r)
  | endSpan t span failed => exact .inl ((endSpan_after t span failed).options r)
  | shuttingDown t =>
    exact .inl (w.recorders.map_get_modify (·.options) t r
      (f := fun x => { x with closed := true }) fun _ => rfl)
  | _ => exact .inl rfl

theorem Change.limit_or {P : Step → Prop} (h : Change P w w') (hr : w.recorders.Has r) :
    (w'.recorders.get r).options.maxCachedTracers =
        (w.recorders.get r).options.maxCachedTracers ∨
      ∃ id v, P (.setOption id (.str "max_cached_tracers") v) ∧
        (w'.recorders.get r).options.maxCachedTracers = v := by
  rcases h.options_or hr with same | ⟨id, field, v, allowed, assigned⟩
  · exact .inl (congrArg Options.maxCachedTracers same)
  · rw [assigned]
    rcases assign_limit (w.recorders.get r) field v with same | ⟨hf, new⟩
    · exact .inl same
    · exact .inr ⟨id, v, hf ▸ allowed, new⟩

theorem Change.limit (h : Change Step.KeepsLimit w w') (hr : w.recorders.Has r) :
    (w'.recorders.get r).options.maxCachedTracers =
      (w.recorders.get r).options.maxCachedTracers := by
  rcases h.limit_or hr with same | ⟨id, v, keeps, -⟩
  · exact same
  · exact absurd rfl (keeps id v)

theorem getTracer_unlooked
    (h : ∀ key name version, (w.recorders.get r).inquire request ≠ .seeks key name version) :
    SameRegistry r w ((Recorder.getTracer r request fault).after w) := by
  obtain ⟨failures, log, hrun⟩ := getTracer_unsought h fault
  have counted : SameLibrary r w (w.withRecorder r fun x => { x with failures }) := .onRecorder r
  have options := getTracer_options (w := w) r request fault r
  rw [after_of_ok hrun] at options ⊢
  exact (counted.trans {}).registry (by simp [World.withRecorder])
    fun _ => congrArg Options.maxCachedTracers options

/-- Nothing but a request that looks an identity up changes what a recorder keeps. -/
theorem Change.registry (h : Change Step.KeepsLimit w w') (r : Ref Recorder) :
    SameRegistry r w w' ∨ ∃ request fault key name version,
      (w.recorders.get r).inquire request = .seeks key name version ∧
        w' = (Recorder.getTracer r request fault).after w := by
  have registry := fun same : SameLibrary r w w' => same.registry h.extends.recorders h.limit
  rcases h.library r with same | ⟨request, fault, rfl⟩
  · exact .inl (registry same)
  · by_cases hq : ∃ key name version, (w.recorders.get r).inquire request = .seeks key name version
    · obtain ⟨key, name, version, hq⟩ := hq
      exact .inr ⟨request, fault, key, name, version, hq, rfl⟩
    · exact .inl (getTracer_unlooked fun key name version h => hq ⟨key, name, version, h⟩)

/-! ## Reachable worlds -/

/-- A recorder that is not there yet has looked nothing up. -/
theorem Reachable.sought_eq_nil (h : Reachable Step.KeepsLimit w) (hr : ¬ w.recorders.Has r) :
    w.sought r = [] := by
  obtain ⟨telemetryOff, h⟩ := h
  induction h with
  | refl => rfl
  | tail _ h ih =>
    rcases h.registry r with same | ⟨request, fault, key, name, version, hq, rfl⟩
    · rw [same.sought]
      exact ih fun has => hr (h.extends.hasRecorder has)
    · have has := Recorder.has_of_open (Recorder.open_of_seeks hq)
      exact absurd (h.extends.hasRecorder has) hr

/-- What a recorder keeps and counts, by the identities that it looked up. -/
structure World.Registered (r : Ref Recorder) (n : Nat) (w : World) : Prop where
  tracers : (w.recorders.get r).tracers.keys = recent n (w.sought r)
  hits : (w.recorders.get r).hits = (lookups n (w.sought r)).count true
  misses : (w.recorders.get r).misses = (lookups n (w.sought r)).count false

theorem World.Registered.of_default (h : w.recorders.get r = default) (hs : w.sought r = []) :
    w.Registered r n := by
  constructor <;> rw [h, hs] <;> simp [default, Lru.keys]

theorem World.Registered.same (h : w.Registered r n) (same : SameRegistry r w w') :
    w'.Registered r n where
  tracers := by rw [same.tracers, same.sought, h.tracers]
  hits := by rw [same.hits, same.sought, h.hits]
  misses := by rw [same.misses, same.sought, h.misses]

theorem World.Registered.looksUp (h : w.Registered r n) (looked : LooksUp r n key w w')
    (unrefused : .refused r key ∉ w'.journal) : w'.Registered r n := by
  have counted := lookups_concat n (w.sought r) key
  by_cases hk : key ∈ recent n (w.sought r)
  · obtain ⟨-, hits, misses⟩ := looked.hit hk
    exact
      { tracers := looked.tracers unrefused
        hits := by simp [hits, looked.sought, counted, hk, h.hits]
        misses := by simp [misses, looked.sought, counted, hk, h.misses] }
  · obtain ⟨-, hits, misses⟩ := looked.miss hk
    exact
      { tracers := looked.tracers unrefused
        hits := by simp [hits, looked.sought, counted, hk, h.hits]
        misses := by simp [misses, looked.sought, counted, hk, h.misses] }

/-- A recorder that is not there keeps nothing, whatever the limit. -/
theorem Reachable.registered_of_not_has (h : Reachable Step.KeepsLimit w)
    (hr : ¬ w.recorders.Has r) : w.Registered r n := by
  have none : w.recorders.get r = default := Store.get_of_not_has hr
  exact .of_default none (h.sought_eq_nil hr)

theorem Reachable.registered (h : Reachable Step.KeepsLimit w)
    (limit : (w.recorders.get r).options.maxCachedTracers = .int (n + 1 : Nat))
    (unrefused : ∀ key, .refused r key ∉ w.journal) : w.Registered r (n + 1) := by
  obtain ⟨telemetryOff, h⟩ := h
  induction h with
  | refl => exact .of_default (Store.get_of_not_has (by simp [Store.Has, Store.size])) rfl
  | @tail w _ earlier h ih =>
    have reachable : Reachable Step.KeepsLimit w := ⟨telemetryOff, earlier⟩
    have unrefused' := fun key hmem => unrefused key (h.extends.journal.subset hmem)
    rcases h.registry r with same | ⟨request, fault, key, name, version, hq, rfl⟩
    · refine World.Registered.same ?_ same
      by_cases hr : w.recorders.Has r
      · exact ih (same.limit hr ▸ limit) unrefused'
      · exact reachable.registered_of_not_has hr
    · rw [getTracer_options r request fault r] at limit
      have before := ih limit unrefused'
      exact before.looksUp (getTracer_looksUp limit before.tracers hq) (unrefused key)

/-- What a recorder keeps is a cache of `n` tracers by use, and nothing but lookups touches it. -/
structure RecentRegistry (r : Ref Recorder) (n : Nat) (w : World) : Prop where
  tracers : (w.recorders.get r).tracers.keys = recent n (w.sought r)
  nodup : (w.recorders.get r).tracers.keys.Nodup
  kept : (w.recorders.get r).stats.kept = min n (w.sought r).dedup.length
  hits : (w.recorders.get r).stats.hits = (lookups n (w.sought r)).count true
  misses : (w.recorders.get r).stats.misses = (lookups n (w.sought r)).count false
  /-- A request that seeks an identity looks it up, and no other request does. -/
  lookUp : ∀ request fault key name version,
    (w.recorders.get r).inquire request = .seeks key name version →
      LooksUp r n key w ((Recorder.getTracer r request fault).after w)
  pass : ∀ request fault,
    (∀ key name version, (w.recorders.get r).inquire request ≠ .seeks key name version) →
      SameRegistry r w ((Recorder.getTracer r request fault).after w)
  changes : ∀ w', Change Step.KeepsLimit w w' → SameRegistry r w w' ∨
    ∃ request fault key name version,
      (w.recorders.get r).inquire request = .seeks key name version ∧
        w' = (Recorder.getTracer r request fault).after w ∧ LooksUp r n key w w'

/-- A recorder keeps exactly the tracers of the identities looked up last, as many as its options
allow, as long as every tracer can be made. -/
theorem registry_recent (hw : Reachable Step.KeepsLimit w) {n : Nat} (hn : 1 ≤ n)
    (limit : (w.recorders.get r).options.maxCachedTracers = .int n)
    (unrefused : ∀ key, .refused r key ∉ w.journal) : RecentRegistry r n w := by
  obtain ⟨n, rfl⟩ := Nat.exists_eq_add_of_le' hn
  have registered := hw.registered limit unrefused
  exact
    { tracers := registered.tracers
      nodup := registered.tracers ▸ recent_nodup _ _
      kept := by
        rw [← length_recent, ← registered.tracers]
        simp [Recorder.stats, Lru.size, Lru.keys]
      hits := registered.hits
      misses := registered.misses
      lookUp := fun request fault key name version hq =>
        getTracer_looksUp limit registered.tracers hq
      pass := fun request fault h => getTracer_unlooked h
      changes := fun w' h => by
        rcases h.registry r with same | ⟨request, fault, key, name, version, hq, rfl⟩
        · exact .inl same
        · exact .inr ⟨request, fault, key, name, version, hq, rfl,
            getTracer_looksUp limit registered.tracers hq⟩ }

end

/-- With room for two, the second of three identities goes: the first one was used again. -/
def recentProgram : List Step :=
  [.newProvider "p" (some [("max_cached_tracers", .int 2)]) (some []) none none false,
    .getTracer "p" none (.identity { name := .str "a" }) none,
    .getTracer "p" none (.identity { name := .str "b" }) none,
    .getTracer "p" none (.identity { name := .str "a" }) none,
    .getTracer "p" none (.identity { name := .str "c" }) none]

def recentWorld : World := (Script.run recentProgram {}).2

example : recent 2 (recentWorld.sought ⟨0⟩) = [(.text "a", .null), (.text "c", .null)] := by
  decide +kernel

def Value.isInt (n : Int) : Value → Bool
  | .int m => m = n
  | _ => false

theorem Value.eq_int {v : Value} {n : Int} (h : v.isInt n = true) : v = .int n := by
  cases v <;> simp [isInt] at h
  rw [h]

def Event.isRefused : Event → Bool
  | .refused _ _ => true
  | _ => false

theorem not_refused_of_all {events : List Event} (h : events.all (!·.isRefused) = true)
    (r : Ref Recorder) (key : TracerKey) : .refused r key ∉ events := by
  intro hmem
  have := List.all_eq_true.mp h _ hmem
  simp [Event.isRefused] at this

theorem recent_tracers_kept : RecentRegistry ⟨0⟩ 2 recentWorld :=
  registry_recent
    (Script.run_reachable (by simp [recentProgram, Step.EveryIn, Step.EveryInside, Step.KeepsLimit,
      Step.EveryInPipelines?, Step.EveryInPipelines]) false)
    (by decide) (Value.eq_int (by decide +kernel)) (not_refused_of_all (by decide +kernel) ⟨0⟩)

end Tracing
