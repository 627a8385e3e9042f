import Mathlib.Data.Bool.Count
import Mathlib.Data.List.Infix
import Tracing.Proofs.Registry

/-!
# Tracing.Proofs.Inclusion

A cache with more room keeps what a smaller one keeps, and answers what the smaller one answers.

* `recent_suffix`, `lookups_count_le` — the keys used last, and the uses that find them, with more
  room.
* `Inquiry.key?`         — the key that a request looks up. No request changes which key another one
  looks up (`getTracer_inquire`).
* `Recorder.Recalls`     — what a recorder keeps and counts, by the keys that it looked up.
  `Recalls.asked`, `Recalls.askedAll` — one more request, and any number of them.
* `larger_cache_includes` — of two recorders that differ by their room alone, the larger one keeps
  what the other one keeps, after every request.
-/

namespace Tracing

open Act

/-! ## The keys used last -/

section

variable {κ : Type} [DecidableEq κ] {m n : Nat}

theorem recent_suffix (h : n ≤ m) (keys : List κ) : recent n keys <:+ recent m keys := by
  rw [recent, recent, List.rtake, List.rtake]
  exact List.drop_suffix_drop_left _ (by omega)

/-- A use that finds its key finds it with more room as well. -/
theorem isLookupHit_mono (h : n ≤ m) {keys : List κ} {i : Nat} (hit : isLookupHit n keys i = true) :
    isLookupHit m keys i = true := by
  rw [isLookupHit, Option.any_eq_true] at hit ⊢
  obtain ⟨key, hk, hit⟩ := hit
  have found := (recent_suffix h (keys.take i)).subset (of_decide_eq_true hit)
  exact ⟨key, hk, decide_eq_true found⟩

theorem lookups_count_le (h : n ≤ m) (keys : List κ) :
    (lookups n keys).count true ≤ (lookups m keys).count true := by
  have found : ∀ k, (lookups k keys).count true =
      (List.range keys.length).countP (isLookupHit k keys) := by
    intro k
    rw [lookups, List.count_eq_countP, List.countP_map]
    exact List.countP_congr fun i _ => by simp
  rw [found, found]
  exact List.countP_mono_left fun i _ hit => isLookupHit_mono h hit

theorem lookups_count_add (n : Nat) (keys : List κ) :
    (lookups n keys).count true + (lookups n keys).count false = keys.length := by
  rw [List.count_true_add_count_false, lookups, List.length_map, List.length_range]

end

/-! ## Requests one after the other -/

/-- The key that is looked up. -/
def Inquiry.key? : Inquiry → Option TracerKey
  | .seeks key _ _ => some key
  | _ => none

/-- The world after the recorder `r` was asked for tracers, one after the other. -/
def World.askedAll (w : World) (r : Ref Recorder) : List Request → World
  | [] => w
  | request :: rest => ((Recorder.getTracer r request none).after w).askedAll r rest

/-- Whether a request is answered by a tracer that is kept: a hit is counted. -/
def World.Hits (w : World) (r : Ref Recorder) (request : Request) : Prop :=
  (((Recorder.getTracer r request none).after w).recorders.get r).hits =
    (w.recorders.get r).hits + 1

/-- What the recorder `r` does with requests before it looks at the tracers that it keeps. -/
def World.SameInquiries (r : Ref Recorder) (w w' : World) : Prop :=
  ∀ request, (w'.recorders.get r).inquire request = (w.recorders.get r).inquire request

instance (r : Ref Recorder) : IsPreorder World (World.SameInquiries r) where
  refl _ _ := rfl
  trans _ _ _ h h' request := (h' request).trans (h request)

open World

/-- The recorder has room for `n` tracers, and looked up `keys`. -/
structure Recorder.Recalls (n : Nat) (keys : List TracerKey) (x : Recorder) : Prop where
  room : x.options.maxCachedTracers = .int n
  tracers : x.tracers.keys = recent n keys
  hits : x.hits = (lookups n keys).count true
  misses : x.misses = (lookups n keys).count false

section

variable {w w₀ w₀' w' : World} {r r' : Ref Recorder} {keys : List TracerKey} {m n : Nat}

theorem getTracer_inquire (r : Ref Recorder) (request : Request) (fault : Option Failure)
    (w : World) : SameInquiries r w ((Recorder.getTracer r request fault).after w) := by
  have allows : AllowsRequest (SameInquiries r) r :=
    { entered := fun _ _ _ _ => rfl
      changed := fun w f h q => w.recorders.map_get_modify (·.inquire q) r r fun x => by
        obtain ⟨_, _, _, _, _, _, -, hx⟩ := h x
        rw [hx]
        rfl
      logged := fun _ _ _ => rfl }
  exact getTracer_allowed allows request fault w

theorem askedAll_inquire (r : Ref Recorder) (requests : List Request) (w : World) :
    SameInquiries r w (w.askedAll r requests) := by
  induction requests generalizing w with
  | nil => exact refl_of _ w
  | cons request rest ih => exact trans_of _ (getTracer_inquire r request none w) (ih _)

namespace Recorder.Recalls

variable {x : Recorder} {key : TracerKey}

/-- A key that is kept is found and becomes the one used last. -/
theorem reuse (h : x.Recalls (n + 1) keys) (hk : key ∈ x.tracers.keys) :
    (x.reuse key).Recalls (n + 1) (keys ++ [key]) := by
  have counted := lookups_concat (n + 1) keys key
  have recalled : key ∈ recent (n + 1) keys := h.tracers ▸ hk
  exact
    { room := h.room
      tracers := Lru.touch_recent h.tracers hk
      hits := by simp [Recorder.reuse, counted, recalled, h.hits]
      misses := by simp [Recorder.reuse, counted, recalled, h.misses] }

/-- Another key is missed and kept as the one used last, as far as there is room. -/
theorem keep (h : x.Recalls (n + 1) keys) (hk : key ∉ x.tracers.keys) (off : Bool)
    (name version : Value) :
    ((x.keep off key name version).forget (x.tracers.size + 1 - (n + 1))).Recalls (n + 1)
      (keys ++ [key]) := by
  have counted := lookups_concat (n + 1) keys key
  have unrecalled : key ∉ recent (n + 1) keys := h.tracers ▸ hk
  exact
    { room := h.room
      tracers := by
        rw [← Lru.push_recent h.tracers hk (x.keptFor off name version)]
        simp [forget, Recorder.keep, Lru.keys]
      hits := by simp [forget, Recorder.keep, missed, counted, unrecalled, h.hits]
      misses := by simp [forget, Recorder.keep, missed, counted, unrecalled, h.misses] }

theorem afterFailure (h : x.Recalls n keys) : x.failed.Recalls n keys where
  room := h.room
  tracers := h.tracers
  hits := h.hits
  misses := h.misses

theorem size_le (h : x.Recalls n keys) : x.tracers.size ≤ n := by
  have length := congrArg List.length h.tracers
  rw [Lru.keys, List.length_map, length_recent] at length
  exact Nat.le_trans (Nat.le_of_eq length) (Nat.min_le_left _ _)

theorem same (h : (w.recorders.get r).Recalls n keys) (same : SameLibrary r w w')
    (options : w.SameOptions w') : (w'.recorders.get r).Recalls n keys where
  room := (congrArg Options.maxCachedTracers (options r)).trans h.room
  tracers := by rw [same.tracers, h.tracers]
  hits := by rw [same.hits, h.hits]
  misses := by rw [same.misses, h.misses]

theorem asked (h : (w.recorders.get r).Recalls (n + 1) keys) (request : Request) :
    (((getTracer r request none).after w).recorders.get r).Recalls (n + 1)
      (keys ++ ((w.recorders.get r).inquire request).key?.toList) := by
  have options := getTracer_options (w := w) r request none
  cases hq : (w.recorders.get r).inquire request with
  | idle =>
    rw [after_of_ok (getTracer_idle hq)]
    simpa [Inquiry.key?] using h
  | fails e =>
    have failing : SameLibrary r w (w.withRecorder r failed) := .onRecorder r
    rw [after_of_ok (getTracer_fails hq)] at options ⊢
    simpa [Inquiry.key?] using h.same (failing.trans {}) options
  | seeks key name version =>
    have hr := has_of_open (open_of_seeks hq)
    have known := (w.recorders.get r).tracers.find?_isSome key
    cases hf : (w.recorders.get r).tracers.find? key with
    | some kept =>
      rw [after_of_ok (getTracer_hit hq hf), get_withRecorder (w := w.entered _) hr]
      exact h.reuse (known.mp (by rw [hf]; rfl))
    | none =>
      have missing : key ∉ (w.recorders.get r).tracers.keys := by
        rw [← known, hf]
        simp
      have kept := h.keep missing w.telemetryOff name version
      obtain ⟨records, hrun | ⟨e, hrun⟩⟩ := getTracer_made_full hq hf h.room h.size_le
      · rw [after_of_ok hrun, made_recorder hr]
        exact kept
      · have has : (dropped (w.made r key name version) r
            ((w.recorders.get r).tracers.size + 1 - (n + 1)) records).recorders.Has r :=
          has_withRecorder (has_withRecorder (w := (w.entered _).entered _) hr r _) r _
        rw [after_of_ok hrun, World.logged, get_withRecorder has, made_recorder hr]
        exact kept.afterFailure

/-- The keys that requests look up are known before the first of them. -/
theorem askedAll (h : (w.recorders.get r).Recalls (n + 1) keys) (requests : List Request) :
    ((w.askedAll r requests).recorders.get r).Recalls (n + 1)
      (keys ++ requests.filterMap fun request => ((w.recorders.get r).inquire request).key?) := by
  induction requests generalizing w keys with
  | nil => simpa [World.askedAll] using h
  | cons request rest ih =>
    have later := ih (h.asked request)
    simp only [getTracer_inquire r request none w _, List.append_assoc] at later
    cases hk : ((w.recorders.get r).inquire request).key? <;>
      simpa [World.askedAll, List.filterMap_cons, hk] using later

theorem hits_iff (h : (w.recorders.get r).Recalls (n + 1) keys) (request : Request) :
    w.Hits r request ↔
      ∃ key, ((w.recorders.get r).inquire request).key? = some key ∧ key ∈ recent (n + 1) keys := by
  have counted := (h.asked request).hits
  rw [World.Hits, counted, h.hits]
  cases ((w.recorders.get r).inquire request).key? with
  | none => simp
  | some key =>
    by_cases recalled : key ∈ recent (n + 1) keys <;> simp [lookups_concat, recalled]

end Recorder.Recalls

/-! ## Recorders with more and less room -/

/-- The plan of a recorder with room for `n` tracers. -/
def Recorder.Plan.withRoom (plan : Plan) (n : Nat) : Plan :=
  { plan with options := { plan.options with maxCachedTracers := .int n } }

/-- A recorder is made without tracers. Its room has no part in which keys it looks up. -/
theorem make_recalls {plan : Recorder.Plan} (made : Recorder.make (plan.withRoom n) w₀ = .ok r w) :
    (w.recorders.get r).Recalls n [] ∧
      ∀ request,
        (w.recorders.get r).inquire request = (plan.recorder [] [] {}).inquire request := by
  obtain ⟨resource, ps, processors, pipelines, log, -, -, rfl, rfl⟩ := make_ok made
  have self := (plan.withRoom n).carriedOut_get resource ps { w₀ with processors, pipelines, log }
  dsimp only at self
  rw [self]
  exact
    ⟨{ room := rfl, tracers := by simp [Recorder.Plan.recorder, Lru.keys]
       hits := by simp [Recorder.Plan.recorder], misses := by simp [Recorder.Plan.recorder] },
      fun _ => rfl⟩

/-- The recorder `r'` keeps what the recorder `r` keeps, and finds what that one finds. -/
structure Includes (r : Ref Recorder) (w : World) (r' : Ref Recorder) (w' : World) : Prop where
  /-- The tracers of `r` are those of `r'` that were used last. -/
  tracers : (w.recorders.get r).tracers.keys <:+ (w'.recorders.get r').tracers.keys
  found : ∀ request, w.Hits r request → w'.Hits r' request
  hits : (w.recorders.get r).stats.hits ≤ (w'.recorders.get r').stats.hits
  misses : (w'.recorders.get r').stats.misses ≤ (w.recorders.get r).stats.misses
  lookups : (w.recorders.get r).stats.hits + (w.recorders.get r).stats.misses =
    (w'.recorders.get r').stats.hits + (w'.recorders.get r').stats.misses

theorem Recorder.Recalls.includes (h : (w.recorders.get r).Recalls (n + 1) keys)
    (h' : (w'.recorders.get r').Recalls (m + 1) keys) (more : n ≤ m)
    (inquiries : ∀ request,
      (w'.recorders.get r').inquire request = (w.recorders.get r).inquire request) :
    Includes r w r' w' := by
  have room : n + 1 ≤ m + 1 := Nat.succ_le_succ more
  have fewer := lookups_count_le room keys
  have total := lookups_count_add (n + 1) keys
  have total' := lookups_count_add (m + 1) keys
  exact
    { tracers := by
        rw [h.tracers, h'.tracers]
        exact recent_suffix room keys
      found := fun request hit => by
        obtain ⟨key, hk, recalled⟩ := (h.hits_iff request).mp hit
        rw [h'.hits_iff, inquiries]
        exact ⟨key, hk, (recent_suffix room keys).subset recalled⟩
      hits := by
        simp only [Recorder.stats, h.hits, h'.hits]
        exact fewer
      misses := by
        simp only [Recorder.stats, h.misses, h'.misses]
        omega
      lookups := by
        simp only [Recorder.stats, h.hits, h.misses, h'.hits, h'.misses]
        omega }

/-- Of two recorders that are made alike but for their room, the one with more room keeps and finds
all that the other one does, after the same requests. -/
theorem larger_cache_includes {plan : Recorder.Plan} (hn : 1 ≤ n) (more : n ≤ m)
    (made : Recorder.make (plan.withRoom n) w₀ = .ok r w)
    (made' : Recorder.make (plan.withRoom m) w₀' = .ok r' w') (requests : List Request) :
    Includes r (w.askedAll r requests) r' (w'.askedAll r' requests) := by
  obtain ⟨n, rfl⟩ := Nat.exists_eq_add_of_le' hn
  obtain ⟨m, rfl⟩ := Nat.exists_eq_add_of_le' (hn.trans more)
  obtain ⟨fresh, inquiries⟩ := make_recalls made
  obtain ⟨fresh', inquiries'⟩ := make_recalls made'
  have recalls := fresh.askedAll requests
  have recalls' := fresh'.askedAll requests
  simp only [inquiries, inquiries'] at recalls recalls'
  refine recalls.includes recalls' (Nat.le_of_succ_le_succ more) fun request => ?_
  rw [askedAll_inquire, askedAll_inquire, inquiries, inquiries']

end

/-- A recorder that suppresses a library. -/
def selectivePlan : Recorder.Plan :=
  { options := { suppressed := .list [.str "quiet"] }, pipelines := some [] }

/-- The world in which it was made with room for `n` tracers. -/
def selectiveWorld (n : Nat) : World := (Recorder.make (selectivePlan.withRoom n)).after {}

/-- Two libraries in turn. In between, the suppressed one and an object without a name. -/
def mixedRequests : List Request :=
  [.identity { name := .str "a" }, .identity { name := .str "b" },
    .identity { name := .str "quiet" }, .object "object" none none,
    .identity { name := .str "a" }, .identity { name := .str "b" }]

/-- Room for two tracers serves two requests more than room for one does. -/
theorem second_place_includes :
    Recorder.make (selectivePlan.withRoom 1) {} = .ok ⟨0⟩ (selectiveWorld 1) ∧
      Recorder.make (selectivePlan.withRoom 2) {} = .ok ⟨0⟩ (selectiveWorld 2) ∧
      Includes ⟨0⟩ ((selectiveWorld 1).askedAll ⟨0⟩ mixedRequests) ⟨0⟩
        ((selectiveWorld 2).askedAll ⟨0⟩ mixedRequests) ∧
      (((selectiveWorld 1).askedAll ⟨0⟩ mixedRequests).recorders.get ⟨0⟩).hits = 0 ∧
      (((selectiveWorld 2).askedAll ⟨0⟩ mixedRequests).recorders.get ⟨0⟩).hits = 2 := by
  have one : Recorder.make (selectivePlan.withRoom 1) {} = .ok ⟨0⟩ (selectiveWorld 1) := rfl
  have two : Recorder.make (selectivePlan.withRoom 2) {} = .ok ⟨0⟩ (selectiveWorld 2) := rfl
  have includes := larger_cache_includes (by decide) (by decide) one two mixedRequests
  exact ⟨one, two, includes, by decide +kernel, by decide +kernel⟩

end Tracing
