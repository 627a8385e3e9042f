import Tracing.Proofs.Calls

/-!
# Tracing.Proofs.Tracers

What asking a recorder for a tracer comes to.

* `Recorder.inquire` — how a request ends before the tracers kept are looked at, or the identity
  that is looked up.
* `lookUp_hit`, `lookUp_refused`, `lookUp_made` — the lookup, by what the recorder keeps.
* `Trims`, `Sheds` — how many tracers go under a limit, and how many until something goes wrong.
* `evict_run`, `evict_within` — these are the ones used longest ago, and nothing else happens.
* `getTracer_idle`, `getTracer_fails`, `getTracer_hit`, `getTracer_refused`, `getTracer_made` — a
  request, by how it ends.
* `getTracer_allowed` — what its parts lead to, the whole request does.
-/

namespace Tracing

open Act

/-- Records of the making and the dropping of tracers. -/
def LogRecord.isOfCache (x : LogRecord) : Bool :=
  x.level = .debug && x.logger = Recorder.logger &&
    (x.message.startsWith "Created tracer " || x.message.startsWith "Evicted tracer from cache: ")

/-- Log records of which none concerns anything but tracers that are made or dropped. -/
def OfCache (records : List LogRecord) : Prop := ∀ x ∈ records, x.isOfCache = true

theorem Text.startsWith_append (part rest : Text) : (part ++ rest).startsWith part = true := by
  have h : (part ++ rest).points = part.points ++ rest.points := rfl
  simp [Text.startsWith, h]

theorem Text.startsWith_append_of {t part : Text} (h : t.startsWith part = true) (rest : Text) :
    (t ++ rest).startsWith part = true := by
  have hp : (t ++ rest).points = t.points ++ rest.points := rfl
  simp only [Text.startsWith, List.isPrefixOf_iff_prefix] at h ⊢
  rw [hp]
  exact h.trans (List.prefix_append _ _)

namespace OfCache

theorem nil : OfCache [] := by simp [OfCache]

theorem append {a b : List LogRecord} (ha : OfCache a) (hb : OfCache b) : OfCache (a ++ b) := by
  intro x hx
  cases List.mem_append.mp hx with
  | inl h => exact ha x h
  | inr h => exact hb x h

theorem created (name version : Text) :
    OfCache [⟨.debug, Recorder.logger,
      "Created tracer " ++ name ++ " (version=" ++ version ++ ")"⟩] := by
  have h := Text.startsWith_append "Created tracer " name
  have h := Text.startsWith_append_of h " (version="
  have h := Text.startsWith_append_of (Text.startsWith_append_of h version) ")"
  simp [OfCache, LogRecord.isOfCache, h]

end OfCache

/-! ## Requests -/

/-- How a request ends before the tracers kept are looked at, or the identity looked up. -/
inductive Inquiry where
  | idle
  | fails (e : Failure)
  | seeks (key : TracerKey) (name version : Value)

namespace Recorder

def inquire (x : Recorder) (request : Request) : Inquiry :=
  match request.parts with
  | .error e => .fails e
  | .ok (name, version) =>
    if x.closed then .idle
    else
      match x.suppresses name with
      | .error e => .fails e
      | .ok true => .idle
      | .ok false =>
        match tracerKey name version with
        | .error e => .fails e
        | .ok key => .seeks key name version

def reuse (x : Recorder) (key : TracerKey) : Recorder :=
  { x with hits := x.hits + 1, tracers := x.tracers.touch key }

def missed (x : Recorder) : Recorder := { x with misses := x.misses + 1 }

def keptFor (x : Recorder) (off : Bool) (name version : Value) : KeptTracer :=
  { name, version, scope := if off then none else some (x.scopeFor name version).1 }

def keep (x : Recorder) (off : Bool) (key : TracerKey) (name version : Value) : Recorder :=
  { x.missed with
    scopes := if off then x.scopes else (x.scopeFor name version).2.scopes
    tracers := x.tracers.push key (x.keptFor off name version)
    issued := true }

/-- The `n` tracers used longest ago are dropped. -/
def forget (x : Recorder) (n : Nat) : Recorder :=
  { x with tracers := ⟨x.tracers.entries.drop n⟩ }

def failed (x : Recorder) : Recorder := { x with failures := x.failures + 1 }

/-- The tracer used longest ago. -/
def oldest (x : Recorder) : KeptTracer := x.tracers.oldest?.getD default

end Recorder

/-- What goes wrong when a tracer is named in a record. -/
def KeptTracer.unwritten? (kept : KeptTracer) : Option Failure :=
  kept.name.unwritten?.or kept.version.unwritten?

theorem KeptTracer.unwritten?_escape? {kept : KeptTracer} {e : Failure}
    (h : kept.unwritten? = some e) : e.escape? = none := by
  rcases Option.or_eq_some_iff.mp h with h | ⟨-, h⟩
  · exact Value.unwritten?_escape? h
  · exact Value.unwritten?_escape? h

/-- All tracers that are kept can be named in a record. -/
def Recorder.AllWritten (x : Recorder) : Prop := ∀ e ∈ x.tracers.entries, e.2.unwritten? = none

namespace World

def withRecorder (w : World) (r : Ref Recorder) (f : Recorder → Recorder) : World :=
  { w with recorders := w.recorders.modify r f }

def logged (w : World) (records : List LogRecord) : World := { w with log := w.log ++ records }

def made (w : World) (r : Ref Recorder) (key : TracerKey) (name version : Value) : World :=
  ((w.entered (.sought r key)).entered (.issued r key)).withRecorder r
    (·.keep w.telemetryOff key name version)

theorem withRecorder_self (w : World) (r : Ref Recorder) {f : Recorder → Recorder}
    (h : f (w.recorders.get r) = w.recorders.get r) : w.withRecorder r f = w := by
  simp [withRecorder, Store.modify_eq_self _ _ h]

end World

namespace Recorder

variable {r : Ref Recorder} {w : World}

theorem scopeFor_missed (x : Recorder) (name version : Value) :
    (x.missed.scopeFor name version).1 = (x.scopeFor name version).1 ∧
      (x.missed.scopeFor name version).2.scopes = (x.scopeFor name version).2.scopes := by
  simp only [scopeFor, missed]
  split
  · simp
  · split <;> simp

theorem seek_run (request : Request) (fault : Option Failure) :
    seek r request fault w =
      match (w.recorders.get r).inquire request with
      | .idle => .ok .idle w
      | .fails e => .error e w
      | .seeks key name version => lookUp r key name version fault w := by
  cases hp : request.parts with
  | error e => simp [seek, run_bind, inquire, hp]
  | ok parts =>
    obtain ⟨name, version⟩ := parts
    cases hc : (w.recorders.get r).closed with
    | true => simp [seek, run_bind, inquire, hp, hc]
    | false =>
      rcases hs : (w.recorders.get r).suppresses name with e | (_ | _)
      · simp [seek, run_bind, inquire, hp, hc, hs]
      · cases hk : tracerKey name version <;> simp [seek, run_bind, inquire, hp, hc, hs, hk]
      · simp [seek, run_bind, inquire, hp, hc, hs]

theorem open_of_seeks {x : Recorder} {request : Request} {key : TracerKey} {name version : Value}
    (h : x.inquire request = .seeks key name version) : x.closed = false := by
  cases hc : x.closed with
  | false => rfl
  | true =>
    simp only [inquire, hc] at h
    split at h <;> simp at h

/-! ## Dropping tracers -/

theorem isOver_run (size : Nat) :
    isOver r size w =
      match Value.exceeds (.int size) (w.recorders.get r).options.maxCachedTracers with
      | .ok above => .ok above w
      | .error e => .error e w := by
  cases h : Value.exceeds (.int size) (w.recorders.get r).options.maxCachedTracers <;>
    simp [isOver, run_bind, h]

/-- The `n` tracers used longest ago are gone, and the log says so. -/
def dropped (w : World) (r : Ref Recorder) (n : Nat) (records : List LogRecord) : World :=
  (w.withRecorder r (·.forget n)).logged records

def evictionRecord (x : Recorder) : LogRecord :=
  ⟨.debug, logger,
    "Evicted tracer from cache: " ++ Value.shownPair x.oldest.name x.oldest.version⟩

theorem evictionRecord_isOfCache (x : Recorder) : OfCache [x.evictionRecord] := by
  simp [OfCache, LogRecord.isOfCache, evictionRecord, Text.startsWith_append]

theorem forget_zero (x : Recorder) : x.forget 0 = x := by simp [forget]

theorem forget_forget (x : Recorder) (m n : Nat) : (x.forget m).forget n = x.forget (m + n) := by
  simp [forget, List.drop_drop]

theorem dropped_zero : dropped w r 0 [] = w := by
  have h : w.withRecorder r (·.forget 0) = w := World.withRecorder_self w r (forget_zero _)
  simp [dropped, h, World.logged]

theorem dropped_dropped (m n : Nat) (a b : List LogRecord) :
    dropped (dropped w r m a) r n b = dropped w r (m + n) (a ++ b) := by
  simp [dropped, World.logged, World.withRecorder, Store.modify_modify, forget_forget]

theorem dropped_logged (n : Nat) (a b : List LogRecord) :
    (dropped w r n a).logged b = dropped w r n (a ++ b) := by
  simp [dropped, World.logged]

theorem dropped_options (n : Nat) (records : List LogRecord) :
    ((dropped w r n records).recorders.get r).options = (w.recorders.get r).options :=
  w.recorders.map_get_modify (·.options) r r (f := (·.forget n)) fun _ => rfl

theorem dropped_entries {n : Nat} {records : List LogRecord} {e : TracerKey × KeptTracer}
    (h : e ∈ ((dropped w r n records).recorders.get r).tracers.entries) :
    e ∈ (w.recorders.get r).tracers.entries := by
  rcases w.recorders.get_modify_eq_or r r (·.forget n) with same | ⟨-, forgotten⟩
  · exact (congrArg (e ∈ ·.tracers.entries) same).mp h
  · exact List.mem_of_mem_drop ((congrArg (e ∈ ·.tracers.entries) forgotten).mp h)

theorem AllWritten.dropped (h : (w.recorders.get r).AllWritten) (n : Nat)
    (records : List LogRecord) :
    ((dropped w r n records).recorders.get r).AllWritten := fun _ he => h _ (dropped_entries he)

theorem AllWritten.oldest {x : Recorder} (h : x.AllWritten) : x.oldest.unwritten? = none := by
  rcases he : x.tracers.entries with _ | ⟨e, rest⟩
  · simp [Recorder.oldest, Lru.oldest?, he]
    rfl
  · simpa [Recorder.oldest, Lru.oldest?, he] using h e (by simp [he])

theorem exceeds_error {a b : Value} {e : Failure} (h : a.exceeds b = .error e) :
    e.escape? = none := by
  unfold Value.exceeds at h
  split at h
  · cases h
  · cases h
    rfl

theorem evict_zero :
    evict r 0 w =
      match Value.exceeds (.int (0 : Nat)) (w.recorders.get r).options.maxCachedTracers with
      | .ok true => .error .emptyCache w
      | .ok false => .ok () w
      | .error e => .error e w := by
  rw [evict, run_bind, isOver_run]
  rcases Value.exceeds (.int (0 : Nat)) (w.recorders.get r).options.maxCachedTracers
    with e | (_ | _) <;> rfl

theorem evict_succ (size : Nat) :
    evict r (size + 1) w =
      match Value.exceeds (.int (size + 1 : Nat)) (w.recorders.get r).options.maxCachedTracers with
      | .ok true =>
        match (w.recorders.get r).oldest.unwritten? with
        | none => evict r size (dropped w r 1 [evictionRecord (w.recorders.get r)])
        | some e => .error e (dropped w r 1 [])
      | .ok false => .ok () w
      | .error e => .error e w := by
  rw [evict, run_bind, isOver_run]
  rcases Value.exceeds (.int (size + 1 : Nat)) (w.recorders.get r).options.maxCachedTracers
    with e | (_ | _)
  · rfl
  · rfl
  · have fault : (Value.pairWording (w.recorders.get r).oldest.name
        (w.recorders.get r).oldest.version).fault? = (w.recorders.get r).oldest.unwritten? := rfl
    rw [oldest] at fault
    rw [evictionRecord, oldest]
    cases h : ((w.recorders.get r).tracers.oldest?.getD default).unwritten? <;> rw [h] at fault <;>
      simp [run_bind, modifyRecorder, run_say, fault, dropped, World.withRecorder, World.logged,
        forget, Lru.dropOldest] <;> rfl

/-- A number above zero, or none that can be told to be above it or not. -/
theorem order_of_positive {field : String} {limit : Value}
    (h : Options.requirePositive field limit = .ok ()) :
    limit.order? (.int 0) = some none ∨ limit.order? (.int 0) = some (some .gt) := by
  cases ho : limit.order? (.int 0) with
  | none => simp [Options.requirePositive, Value.atMost, ho, bind, Except.bind] at h
  | some order =>
    rcases order with _ | (_ | _ | _)
    · exact .inl rfl
    · simp [Options.requirePositive, Value.atMost, ho, bind, Except.bind] at h
    · simp [Options.requirePositive, Value.atMost, ho, bind, Except.bind] at h
    · exact .inr rfl

theorem requirePositive_int (field : String) (n : Nat) :
    Options.requirePositive field (.int (n + 1 : Nat)) = .ok () := by
  have above : compare ((n + 1 : Nat) : Int) 0 = .gt := Int.compare_eq_gt.mpr (by omega)
  have order : Value.order? (.int (n + 1 : Nat)) (.int 0) =
    some (some (compare ((n + 1 : Nat) : Int) 0)) := rfl
  rw [Options.requirePositive, Value.atMost, order, above]
  rfl

/-- A limit that passes its check can be compared with every size, and it is met without tracers. -/
theorem exceeds_of_positive {field : String} {limit : Value}
    (h : Options.requirePositive field limit = .ok ()) :
    (∀ size : Nat, ∃ above, Value.exceeds (.int size) limit = .ok above) ∧
      Value.exceeds (.int (0 : Nat)) limit = .ok false := by
  have order := order_of_positive h
  cases limit with
  | bool b =>
    refine ⟨fun size => ⟨_, rfl⟩, ?_⟩
    cases b with
    | false => rcases order with order | order <;> cases order
    | true => rfl
  | int n =>
    refine ⟨fun size => ⟨_, rfl⟩, ?_⟩
    rcases order with order | order
    · cases order
    · have above : compare n 0 = .gt := by injection order with order; injection order
      have below : compare 0 n = .lt := Int.compare_eq_lt.mpr (Int.compare_eq_gt.mp above)
      have swapped : Value.exceeds (.int (0 : Nat)) (.int n) =
        .ok (some (compare 0 n) == some .gt) := rfl
      rw [swapped, below]
      rfl
  | float x =>
    refine ⟨fun size => ⟨_, rfl⟩, ?_⟩
    have swapped : Value.exceeds (.int (0 : Nat)) (.float x) =
      .ok ((x.compareInt 0).map Ordering.swap == some .gt) := rfl
    have order : x.compareInt 0 = none ∨ x.compareInt 0 = some .gt :=
      order.imp Option.some.inj Option.some.inj
    rcases order with order | order <;> rw [swapped, order] <;> rfl
  | _ => rcases order with order | order <;> cases order

/-- Whether the limit of the tracers to be kept passes its check. -/
def LimitChecked (x : Recorder) : Prop :=
  Options.requirePositive "max_cached_tracers" x.options.maxCachedTracers = .ok ()

/-- Of `size` tracers the `n` used longest ago go under a limit: the others are within it, and none
goes before it has to. -/
structure Trims (limit : Value) (size n : Nat) : Prop where
  within : Value.exceeds (.int (size - n : Nat)) limit = .ok false
  needed : ∀ m < n, Value.exceeds (.int (size - m : Nat)) limit = .ok true

theorem Trims.succ {limit : Value} {size n : Nat} (h : Trims limit size n)
    (above : Value.exceeds (.int (size + 1 : Nat)) limit = .ok true) :
    Trims limit (size + 1) (1 + n) where
  within := by
    rw [Nat.add_comm 1 n, Nat.add_sub_add_right]
    exact h.within
  needed m hm := by
    cases m with
    | zero => exact above
    | succ m =>
      rw [Nat.add_sub_add_right]
      exact h.needed m (by omega)

/-- Of `size` tracers the `n` used longest ago go: none before it has to, and one at least if one has
to. -/
structure Sheds (limit : Value) (size n : Nat) : Prop where
  needed : ∀ m < n, Value.exceeds (.int (size - m : Nat)) limit = .ok true
  starts : Value.exceeds (.int size) limit = .ok true → 0 < n

theorem Trims.sheds {limit : Value} {size n : Nat} (h : Trims limit size n) :
    Sheds limit size n where
  needed := h.needed
  starts above := by
    cases n with
    | zero =>
      have within := h.within
      rw [Nat.sub_zero, above] at within
      cases within
    | succ n => exact Nat.succ_pos n

theorem Sheds.succ {limit : Value} {size n : Nat} (h : Sheds limit size n)
    (above : Value.exceeds (.int (size + 1 : Nat)) limit = .ok true) :
    Sheds limit (size + 1) (1 + n) where
  needed m hm := by
    cases m with
    | zero => exact above
    | succ m =>
      rw [Nat.add_sub_add_right]
      exact h.needed m (by omega)
  starts _ := by omega

/-- If all but one tracer are within a limit that passes its check, then no more than one goes. -/
theorem Sheds.trims {limit : Value} {size n : Nat} (h : Sheds limit (size + 1) n)
    (checked : ∃ above, Value.exceeds (.int (size + 1 : Nat)) limit = .ok above)
    (before : Value.exceeds (.int size) limit = .ok false) : Trims limit (size + 1) n where
  within := by
    obtain _ | _ | n := n
    · obtain ⟨_ | _, above⟩ := checked
      · exact above
      · exact absurd (h.starts above) (Nat.lt_irrefl 0)
    · exact before
    · have above := h.needed 1 (by omega)
      rw [Nat.add_sub_cancel, before] at above
      cases above
  needed := h.needed

/-- Whatever the limit is, nothing but the oldest tracers goes, and what goes wrong is an ordinary
failure. Nothing fails under a limit that passes its check, unless a tracer cannot be named in the
record of its eviction. -/
theorem evict_run (size : Nat) :
    ∃ n records, OfCache records ∧
      ((evict r size w = .ok () (dropped w r n records) ∧
          Trims (w.recorders.get r).options.maxCachedTracers size n) ∨
        ∃ e : Failure, e.escape? = none ∧
          (¬ (w.recorders.get r).LimitChecked ∨ ¬ (w.recorders.get r).AllWritten ∧
            Sheds (w.recorders.get r).options.maxCachedTracers size n) ∧
          evict r size w = .error e (dropped w r n records)) := by
  induction size generalizing w with
  | zero =>
    refine ⟨0, [], .nil, ?_⟩
    rw [evict_zero, dropped_zero]
    rcases h : Value.exceeds (.int (0 : Nat)) (w.recorders.get r).options.maxCachedTracers
      with e | (_ | _)
    · refine .inr ⟨e, exceeds_error h, .inl fun checked => ?_, rfl⟩
      rw [(exceeds_of_positive checked).2] at h
      cases h
    · exact .inl ⟨rfl, { within := h, needed := nofun }⟩
    · refine .inr ⟨.emptyCache, rfl, .inl fun checked => ?_, rfl⟩
      rw [(exceeds_of_positive checked).2] at h
      cases h
  | succ size ih =>
    rw [evict_succ]
    rcases h : Value.exceeds (.int (size + 1 : Nat)) (w.recorders.get r).options.maxCachedTracers
      with e | (_ | _)
    · refine ⟨0, [], .nil, .inr ⟨e, exceeds_error h, .inl fun checked => ?_, by rw [dropped_zero]⟩⟩
      obtain ⟨above, ha⟩ := (exceeds_of_positive checked).1 (size + 1)
      rw [h] at ha
      cases ha
    · exact ⟨0, [], .nil, .inl ⟨by rw [dropped_zero], { within := h, needed := nofun }⟩⟩
    · cases ho : (w.recorders.get r).oldest.unwritten? with
      | some e =>
        have unwritten : ¬ (w.recorders.get r).AllWritten := fun all => by
          rw [all.oldest] at ho
          cases ho
        refine ⟨1, [], .nil, .inr ⟨e, KeptTracer.unwritten?_escape? ho, .inr ⟨unwritten, ?_⟩, rfl⟩⟩
        exact { needed := fun m hm => by obtain rfl : m = 0 := by omega
                                         exact h
                starts := fun _ => Nat.one_pos }
      | none =>
        obtain ⟨n, records, hrec, hrun⟩ :=
          ih (w := dropped w r 1 [evictionRecord (w.recorders.get r)])
        rw [dropped_dropped, LimitChecked, dropped_options] at hrun
        have hall := (evictionRecord_isOfCache (w.recorders.get r)).append hrec
        refine ⟨1 + n, _, hall, ?_⟩
        rcases hrun with ⟨hrun, trims⟩ | ⟨e, he, cause, hrun⟩
        · exact .inl ⟨hrun, trims.succ h⟩
        · refine .inr ⟨e, he, cause.imp_right fun ⟨unwritten, sheds⟩ => ?_, hrun⟩
          exact ⟨fun all => unwritten (all.dropped 1 _), sheds.succ h⟩

theorem exceeds_int (n limit : Nat) :
    Value.exceeds (.int n) (.int limit) = .ok (decide (limit < n)) := by
  have above : (some (compare (n : Int) limit) == some .gt) = decide (limit < n) := by
    rcases Nat.lt_trichotomy n limit with h | h | h
    · rw [Int.compare_eq_lt.mpr (by omega)]
      simp [show ¬ limit < n by omega]
    · rw [Int.compare_eq_eq.mpr (by omega)]
      simp [show ¬ limit < n by omega]
    · rw [Int.compare_eq_gt.mpr (by omega)]
      simp [h]
  rw [← above]
  rfl

theorem Trims.eq_sub {limit size n : Nat} (h : Trims (.int limit) size n) : n = size - limit := by
  have within := h.within
  rw [exceeds_int, Except.ok.injEq, decide_eq_false_iff_not] at within
  cases n with
  | zero => omega
  | succ m =>
    have needed := h.needed m (Nat.lt_succ_self m)
    rw [exceeds_int, Except.ok.injEq, decide_eq_true_iff] at needed
    omega

theorem evict_within {limit : Nat} (written : (w.recorders.get r).AllWritten)
    (h : (w.recorders.get r).options.maxCachedTracers = .int limit) (size : Nat) :
    ∃ records, OfCache records ∧
      evict r size w = .ok () (dropped w r (size - limit) records) := by
  induction size generalizing w with
  | zero =>
    refine ⟨[], .nil, ?_⟩
    rw [evict_zero, h, exceeds_int, Nat.zero_sub, dropped_zero]
    rfl
  | succ size ih =>
    rw [evict_succ, h, exceeds_int]
    by_cases hlt : limit < size + 1
    · obtain ⟨records, hrec, hrun⟩ :=
        ih (w := dropped w r 1 [evictionRecord (w.recorders.get r)]) (written.dropped 1 _)
          (by rw [dropped_options, h])
      rw [dropped_dropped, show 1 + (size - limit) = size + 1 - limit by omega] at hrun
      have hall := (evictionRecord_isOfCache (w.recorders.get r)).append hrec
      refine ⟨_, hall, ?_⟩
      rw [decide_eq_true hlt, written.oldest]
      exact hrun
    · refine ⟨[], .nil, ?_⟩
      rw [decide_eq_false hlt, show size + 1 - limit = 0 by omega, dropped_zero]

/-! ## Looking a tracer up -/

theorem lookUp_hit {key : TracerKey} {name version : Value} {fault : Option Failure}
    {kept : KeptTracer} (h : (w.recorders.get r).tracers.find? key = some kept) :
    lookUp r key name version fault w =
      .ok (handOut r kept) ((w.entered (.sought r key)).withRecorder r (·.reuse key)) := by
  simp [lookUp, run_bind, run_map, note, h, modifyRecorder, World.entered, World.withRecorder,
    reuse]

theorem lookUp_refused {key : TracerKey} {name version : Value} {e : Failure}
    (h : (w.recorders.get r).tracers.find? key = none) :
    lookUp r key name version (some e) w =
      .error e (((w.entered (.sought r key)).withRecorder r (·.missed)).entered
        (.refused r key)) := by
  simp [lookUp, createTracer, run_bind, note, h, modifyRecorder, World.entered,
    World.withRecorder, missed]

theorem lookUp_missed {key : TracerKey} {name version : Value} (hr : w.recorders.Has r)
    (h : (w.recorders.get r).tracers.find? key = none) :
    lookUp r key name version none w =
      match evict r ((w.recorders.get r).tracers.size + 1) (w.made r key name version) with
      | .ok _ w' =>
        match ((w.recorders.get r).keptFor w.telemetryOff name version).unwritten? with
        | none => .ok (handOut r ((w.recorders.get r).keptFor w.telemetryOff name version))
            (w'.logged [⟨.debug, logger,
              "Created tracer " ++ name.text ++ " (version=" ++ version.text ++ ")"⟩])
        | some e => .error e w'
      | .error e w' => .error e w' := by
  have hget : ∀ f : Recorder → Recorder, (w.recorders.modify r f).get r = f (w.recorders.get r) :=
    fun f => w.recorders.get_modify_self f hr
  obtain ⟨hscope, hscopes⟩ := scopeFor_missed (w.recorders.get r) name version
  rw [missed] at hscope hscopes
  have hmade : w.made r key name version = { w with
      recorders := w.recorders.modify r fun x =>
        { x with
          misses := x.misses + 1
          scopes := if w.telemetryOff = true then x.scopes
            else ((w.recorders.get r).scopeFor name version).2.scopes
          tracers := x.tracers.push key ((w.recorders.get r).keptFor w.telemetryOff name version)
          issued := true }
      journal := w.journal ++ [.sought r key, .issued r key] } := by
    rw [World.made, World.withRecorder]
    simp only [World.entered, List.append_assoc, List.singleton_append]
    rw [Store.modify_congr]
    rfl
  simp only [lookUp, createTracer, run_bind, run_get, run_pure, note, h, modifyRecorder, run_modify,
    hget, Store.modify_modify, hscope, hscopes, List.append_assoc, List.singleton_append,
    Lru.size_push]
  rw [hmade]
  have named : (name.unwritten?.or version.unwritten?) =
    ((w.recorders.get r).keptFor w.telemetryOff name version).unwritten? := rfl
  rw [← named]
  simp only [keptFor]
  generalize evict r _ _ = dropping
  cases dropping with
  | error e w' => rfl
  | ok _ w' =>
    cases h : name.unwritten?.or version.unwritten? <;> simp [run_say, Value.wording, h, World.logged]

theorem made_options {key : TracerKey} {name version : Value} :
    ((w.made r key name version).recorders.get r).options = (w.recorders.get r).options :=
  w.recorders.map_get_modify (·.options) r r (f := (·.keep w.telemetryOff key name version))
    fun _ => rfl

theorem made_get {key : TracerKey} {name version : Value} (hr : w.recorders.Has r) :
    (w.made r key name version).recorders.get r =
      (w.recorders.get r).keep w.telemetryOff key name version :=
  w.recorders.get_modify_self _ hr

/-- What becomes of a tracer that is made: it is kept with the others, and the oldest ones may be
dropped. An ordinary failure may come up over that, if the limit does not pass its check or a tracer
cannot be named in a record. -/
theorem lookUp_made {key : TracerKey} (name version : Value) (hr : w.recorders.Has r)
    (h : (w.recorders.get r).tracers.find? key = none) :
    ∃ n records, OfCache records ∧
      ((lookUp r key name version none w =
          .ok (handOut r ((w.recorders.get r).keptFor w.telemetryOff name version))
            (dropped (w.made r key name version) r n records) ∧
          Trims (w.recorders.get r).options.maxCachedTracers
            ((w.recorders.get r).tracers.size + 1) n ∧
          ((w.recorders.get r).keptFor w.telemetryOff name version).unwritten? = none) ∨
        ∃ e : Failure, e.escape? = none ∧
          (¬ (w.recorders.get r).LimitChecked ∨
            ¬ ((w.recorders.get r).keep w.telemetryOff key name version).AllWritten ∧
              Sheds (w.recorders.get r).options.maxCachedTracers
                ((w.recorders.get r).tracers.size + 1) n) ∧
          lookUp r key name version none w =
            .error e (dropped (w.made r key name version) r n records)) := by
  rw [lookUp_missed hr h]
  obtain ⟨n, records, hrec, ⟨hrun, trims⟩ | ⟨e, he, cause, hrun⟩⟩ :=
    evict_run (r := r) (w := w.made r key name version) ((w.recorders.get r).tracers.size + 1)
  · rw [made_options] at trims
    rw [hrun]
    dsimp only
    cases hu : ((w.recorders.get r).keptFor w.telemetryOff name version).unwritten? with
    | none =>
      refine ⟨n, _, hrec.append (.created name.text version.text), .inl ⟨?_, trims, rfl⟩⟩
      dsimp only
      rw [dropped_logged]
    | some e =>
      have unwritten : ¬ ((w.recorders.get r).keep w.telemetryOff key name version).AllWritten := by
        intro all
        rw [all (key, _) (List.mem_append_right _ (List.mem_singleton_self _))] at hu
        cases hu
      exact ⟨n, records, hrec,
        .inr ⟨e, KeptTracer.unwritten?_escape? hu, .inr ⟨unwritten, trims.sheds⟩, rfl⟩⟩
  · rw [LimitChecked, made_options, made_get hr] at cause
    exact ⟨n, records, hrec, .inr ⟨e, he, cause, by rw [hrun]⟩⟩

/-- Under a whole number as the limit a tracer is always made, and the limit is met, as long as all
tracers can be named. -/
theorem lookUp_made_within {key : TracerKey} (name version : Value) {limit : Nat}
    (hr : w.recorders.Has r) (h : (w.recorders.get r).tracers.find? key = none)
    (hl : (w.recorders.get r).options.maxCachedTracers = .int limit)
    (written : ((w.recorders.get r).keep w.telemetryOff key name version).AllWritten) :
    ∃ records, OfCache records ∧
      lookUp r key name version none w =
        .ok (handOut r ((w.recorders.get r).keptFor w.telemetryOff name version))
          (dropped (w.made r key name version) r
            ((w.recorders.get r).tracers.size + 1 - limit) records) := by
  obtain ⟨records, hrec, hrun⟩ := evict_within (w := w.made r key name version)
    (made_get hr ▸ written) (made_options ▸ hl) ((w.recorders.get r).tracers.size + 1)
  have named : ((w.recorders.get r).keptFor w.telemetryOff name version).unwritten? = none :=
    written (key, _) (List.mem_append_right _ (List.mem_singleton_self _))
  refine ⟨_, hrec.append (.created name.text version.text), ?_⟩
  rw [lookUp_missed hr h, hrun]
  dsimp only
  rw [named, dropped_logged]

/-! ## Requests -/

theorem contains_error {container item : Value} {e : Failure}
    (h : container.contains item = .error e) : e.escape? = none := by
  unfold Value.contains at h
  split at h
  · cases h
  · split at h <;> cases h
    rfl
  · split at h <;> cases h
    rfl
  · cases h
    rfl

/-- What goes wrong before the lookup is an ordinary failure. -/
theorem inquire_fails {x : Recorder} {request : Request} {e : Failure}
    (h : x.inquire request = .fails e) : e.escape? = none := by
  unfold inquire at h
  split at h
  next e' he =>
    cases h
    unfold Request.parts at he
    split at he
    · cases he
    · cases he
    · split at he <;> cases he <;> rfl
  next name version _ =>
    split at h
    · cases h
    · split at h
      next e' he =>
        cases h
        unfold suppresses Options.suppresses at he
        split at he
        · cases he
          rfl
        · split at he
          · exact contains_error he
          · cases he
      · cases h
      · split at h
        next e' he =>
          cases h
          unfold tracerKey at he
          split at he <;> cases he <;> rfl
        · cases h

variable {request : Request} {fault : Option Failure}

def failureRecord (e : Failure) : LogRecord :=
  ⟨.warning, logger, "Failed to create tracer, falling back to no-op: " ++ e.message⟩

theorem getTracer_idle (h : (w.recorders.get r).inquire request = .idle) :
    getTracer r request fault w = .ok .idle w := by
  have hs := seek_run (r := r) (w := w) request fault
  rw [h] at hs
  simp [getTracer, run_bind, run_attempt_ok hs]

theorem getTracer_error {e : Failure} {w' : World} (h : seek r request fault w = .error e w')
    (hi : e.escape? = none) :
    getTracer r request fault w =
      .ok .idle ((w'.withRecorder r failed).logged [failureRecord e]) := by
  obtain ⟨calm, written⟩ := Failure.escape?_eq_none.mp hi
  simp [getTracer, run_bind, run_map, run_attempt_error h, calm, modifyRecorder, run_say,
    Failure.wording, written, World.withRecorder, World.logged, failureRecord]
  rfl

theorem getTracer_fails {e : Failure} (h : (w.recorders.get r).inquire request = .fails e) :
    getTracer r request fault w =
      .ok .idle ((w.withRecorder r failed).logged [failureRecord e]) := by
  have hs := seek_run (r := r) (w := w) request fault
  rw [h] at hs
  exact getTracer_error hs (inquire_fails h)

theorem getTracer_hit {key : TracerKey} {name version : Value} {kept : KeptTracer}
    (h : (w.recorders.get r).inquire request = .seeks key name version)
    (hk : (w.recorders.get r).tracers.find? key = some kept) :
    getTracer r request fault w =
      .ok (handOut r kept) ((w.entered (.sought r key)).withRecorder r (·.reuse key)) := by
  have hs := seek_run (r := r) (w := w) request fault
  rw [h] at hs
  dsimp only at hs
  rw [lookUp_hit hk] at hs
  simp [getTracer, run_bind, run_attempt_ok hs]

theorem has_of_open (h : (w.recorders.get r).closed = false) : w.recorders.Has r := by
  by_cases hr : w.recorders.Has r
  · exact hr
  · rw [Store.get_of_not_has hr] at h
    cases h

theorem has_of_issued (h : (w.recorders.get r).issued = true) : w.recorders.Has r := by
  by_cases hr : w.recorders.Has r
  · exact hr
  · rw [Store.get_of_not_has hr] at h
    cases h

def refusedWorld (w : World) (r : Ref Recorder) (key : TracerKey) : World :=
  ((w.entered (.sought r key)).withRecorder r (·.missed)).entered (.refused r key)

/-- An error raised in place of the tracer is reported, unless it is an interruption or cannot be
written into the report. -/
theorem getTracer_refused {key : TracerKey} {name version : Value} {e : Failure}
    (h : (w.recorders.get r).inquire request = .seeks key name version)
    (hk : (w.recorders.get r).tracers.find? key = none) :
    getTracer r request (some e) w =
      if e.isInterruption then .error e (refusedWorld w r key)
      else
        match e.unwritten? with
        | some unsaid => .error unsaid ((refusedWorld w r key).withRecorder r failed)
        | none =>
          .ok .idle (((refusedWorld w r key).withRecorder r failed).logged [failureRecord e]) := by
  have hs := seek_run (r := r) (w := w) request (some e)
  rw [h] at hs
  dsimp only at hs
  rw [lookUp_refused hk] at hs
  cases hi : e.isInterruption with
  | true => simp [getTracer, run_bind, run_attempt_error hs, hi, refusedWorld]
  | false =>
    cases hu : e.unwritten? with
    | none => exact getTracer_error hs (Failure.escape?_eq_none.mpr ⟨hi, hu⟩)
    | some unsaid =>
      simp [getTracer, run_bind, run_attempt_error hs, hi, modifyRecorder,
        Failure.wording, hu, refusedWorld, World.withRecorder]
      rfl

theorem getTracer_made {key : TracerKey} {name version : Value}
    (h : (w.recorders.get r).inquire request = .seeks key name version)
    (hk : (w.recorders.get r).tracers.find? key = none) :
    ∃ n records, OfCache records ∧
      ((getTracer r request none w =
          .ok (handOut r ((w.recorders.get r).keptFor w.telemetryOff name version))
            (dropped (w.made r key name version) r n records) ∧
          Trims (w.recorders.get r).options.maxCachedTracers
            ((w.recorders.get r).tracers.size + 1) n ∧
          ((w.recorders.get r).keptFor w.telemetryOff name version).unwritten? = none) ∨
        ∃ e : Failure,
          (¬ (w.recorders.get r).LimitChecked ∨
            ¬ ((w.recorders.get r).keep w.telemetryOff key name version).AllWritten ∧
              Sheds (w.recorders.get r).options.maxCachedTracers
                ((w.recorders.get r).tracers.size + 1) n) ∧
          getTracer r request none w =
            .ok .idle (((dropped (w.made r key name version) r n records).withRecorder r
              failed).logged [failureRecord e])) := by
  have hs := seek_run (r := r) (w := w) request none
  rw [h] at hs
  dsimp only at hs
  obtain ⟨n, records, hrec, ⟨hrun, trims, written⟩ | ⟨e, he, cause, hrun⟩⟩ :=
    lookUp_made name version (has_of_open (open_of_seeks h)) hk
  · rw [hrun] at hs
    exact ⟨n, records, hrec,
      .inl ⟨by simp [getTracer, run_bind, run_attempt_ok hs], trims, written⟩⟩
  · rw [hrun] at hs
    exact ⟨n, records, hrec, .inr ⟨e, cause, getTracer_error hs he⟩⟩

/-- If the tracers kept before are within a limit that passes its check, then those kept afterwards
are, also if the making of the tracer ends in a failure. -/
theorem getTracer_trims {key : TracerKey} {name version : Value}
    (h : (w.recorders.get r).inquire request = .seeks key name version)
    (hk : (w.recorders.get r).tracers.find? key = none)
    (checked : (w.recorders.get r).LimitChecked)
    (before : Value.exceeds (.int (w.recorders.get r).tracers.size)
      (w.recorders.get r).options.maxCachedTracers = .ok false) :
    ∃ n records, Trims (w.recorders.get r).options.maxCachedTracers
        ((w.recorders.get r).tracers.size + 1) n ∧
      (getTracer r request none w =
          .ok (handOut r ((w.recorders.get r).keptFor w.telemetryOff name version))
            (dropped (w.made r key name version) r n records) ∨
        ∃ e, getTracer r request none w =
          .ok .idle (((dropped (w.made r key name version) r n records).withRecorder r
            failed).logged [failureRecord e])) := by
  obtain ⟨n, records, -, ⟨hrun, trims, -⟩ | ⟨e, unchecked | ⟨-, sheds⟩, hrun⟩⟩ :=
    getTracer_made h hk
  · exact ⟨n, records, trims, .inl hrun⟩
  · exact absurd checked unchecked
  · exact ⟨n, records, sheds.trims ((exceeds_of_positive checked).1 _) before, .inr ⟨e, hrun⟩⟩

/-- Under a whole number as the limit, which the tracers kept before meet, one goes if they are as
many as the limit. -/
theorem getTracer_made_full {key : TracerKey} {name version : Value} {limit : Nat}
    (h : (w.recorders.get r).inquire request = .seeks key name version)
    (hk : (w.recorders.get r).tracers.find? key = none)
    (hl : (w.recorders.get r).options.maxCachedTracers = .int (limit + 1 : Nat))
    (before : (w.recorders.get r).tracers.size ≤ limit + 1) :
    ∃ records,
      getTracer r request none w =
          .ok (handOut r ((w.recorders.get r).keptFor w.telemetryOff name version))
            (dropped (w.made r key name version) r
              ((w.recorders.get r).tracers.size + 1 - (limit + 1)) records) ∨
        ∃ e, getTracer r request none w =
          .ok .idle (((dropped (w.made r key name version) r
            ((w.recorders.get r).tracers.size + 1 - (limit + 1)) records).withRecorder r
              failed).logged [failureRecord e]) := by
  have checked : (w.recorders.get r).LimitChecked := by
    rw [LimitChecked, hl]
    exact requirePositive_int _ limit
  obtain ⟨n, records, trims, hrun⟩ := getTracer_trims h hk checked (by
    rw [hl, exceeds_int, decide_eq_false (by omega)])
  rw [hl] at trims
  exact ⟨records, trims.eq_sub ▸ hrun⟩

theorem getTracer_made_within {key : TracerKey} {name version : Value} {limit : Nat}
    (h : (w.recorders.get r).inquire request = .seeks key name version)
    (hk : (w.recorders.get r).tracers.find? key = none)
    (hl : (w.recorders.get r).options.maxCachedTracers = .int limit)
    (written : ((w.recorders.get r).keep w.telemetryOff key name version).AllWritten) :
    ∃ records, OfCache records ∧
      getTracer r request none w =
        .ok (handOut r ((w.recorders.get r).keptFor w.telemetryOff name version))
          (dropped (w.made r key name version) r
            ((w.recorders.get r).tracers.size + 1 - limit) records) := by
  have hs := seek_run (r := r) (w := w) request none
  rw [h] at hs
  dsimp only at hs
  obtain ⟨records, hrec, hrun⟩ :=
    lookUp_made_within name version (has_of_open (open_of_seeks h)) hk hl written
  rw [hrun] at hs
  exact ⟨records, hrec, by simp [getTracer, run_bind, run_attempt_ok hs]⟩

/-! ## What requests consist of -/

end Recorder

/-- Entries of a recorder that looks a tracer up. -/
def Event.isLookup (r : Ref Recorder) : Event → Bool
  | .sought source _ => source = r
  | .issued source _ => source = r
  | .refused source _ => source = r
  | _ => false

/-- What a request for a tracer consists of; worlds may follow each other along `R` for each part of
it. -/
structure AllowsRequest (R : World → World → Prop) (r : Ref Recorder) : Prop where
  entered : ∀ w e, e.isLookup r = true → R w (w.entered e)
  changed : ∀ w f, (∀ x : Recorder, ∃ tracers scopes issued hits misses failures,
    (x.issued = true → issued = true) ∧
      f x = { x with tracers, scopes, issued, hits, misses, failures }) → R w (w.withRecorder r f)
  logged : ∀ w records, R w (World.logged w records)

/-- Whatever the parts of a request follow, the whole does. -/
theorem getTracer_allowed {R : World → World → Prop} [IsPreorder World R] {r : Ref Recorder}
    (h : AllowsRequest R r) (request : Request) (fault : Option Failure) (w : World) :
    R w ((Recorder.getTracer r request fault).after w) := by
  have failed : ∀ w records, R w ((w.withRecorder r Recorder.failed).logged records) :=
    fun w records => trans_of R (h.changed w _ fun _ => ⟨_, _, _, _, _, _, id, rfl⟩) (h.logged _ _)
  cases hq : (w.recorders.get r).inquire request with
  | idle =>
    rw [after_of_ok (Recorder.getTracer_idle hq)]
    exact refl_of R w
  | fails e =>
    rw [after_of_ok (Recorder.getTracer_fails hq)]
    exact failed w _
  | seeks key name version =>
    have sought : R w (w.entered (.sought r key)) := h.entered _ _ (by simp [Event.isLookup])
    cases hk : (w.recorders.get r).tracers.find? key with
    | some kept =>
      rw [after_of_ok (Recorder.getTracer_hit hq hk)]
      exact trans_of R sought (h.changed _ _ fun _ => ⟨_, _, _, _, _, _, id, rfl⟩)
    | none =>
      cases fault with
      | some e =>
        have refused : R w (Recorder.refusedWorld w r key) :=
          trans_of R (trans_of R sought (h.changed _ _ fun _ => ⟨_, _, _, _, _, _, id, rfl⟩))
            (h.entered _ _ (by simp [Event.isLookup]))
        have hrun := Recorder.getTracer_refused (e := e) hq hk
        split at hrun
        · rw [after_of_error hrun]
          exact refused
        · split at hrun
          · rw [after_of_error hrun]
            exact trans_of R refused (h.changed _ _ fun _ => ⟨_, _, _, _, _, _, id, rfl⟩)
          · rw [after_of_ok hrun]
            exact trans_of R refused (failed _ _)
      | none =>
        have made : R w (w.made r key name version) :=
          trans_of R (trans_of R sought (h.entered _ _ (by simp [Event.isLookup])))
            (h.changed _ _ fun _ => ⟨_, _, _, _, _, _, fun _ => rfl, rfl⟩)
        have dropped : ∀ n records,
            R w (Recorder.dropped (w.made r key name version) r n records) := fun n records =>
          trans_of R (trans_of R made (h.changed _ _ fun _ => ⟨_, _, _, _, _, _, id, rfl⟩))
            (h.logged _ _)
        obtain ⟨n, records, -, ⟨hrun, -⟩ | ⟨e, -, hrun⟩⟩ := Recorder.getTracer_made hq hk
        · rw [after_of_ok hrun]
          exact dropped n records
        · rw [after_of_ok hrun]
          exact trans_of R (dropped n records) (failed _ _)

end Tracing
