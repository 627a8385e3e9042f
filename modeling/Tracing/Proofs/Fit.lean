import Tracing.Proofs.Order
import Tracing.Proofs.Uncached

/-!
# Tracing.Proofs.Fit

Recorders whose caches hold what would be made anew.

* `Recorder.KeepsFor` — a tracer that is kept for an identity is the one that would be made for it.
* `Recorder.Fit`      — all are, and the limit is a whole number.
* `Recorder.supplied` — what is left of a request, whether a tracer was found or made.
* `getTracer_supplied` — so no answer depends on what was kept.
-/

namespace Tracing

open Act

/-- A text, or nothing. -/
def Value.isTextual : Value → Bool
  | .null | .str _ => true
  | _ => false

theorem Value.unwritten?_of_isTextual {v : Value} (h : v.isTextual = true) :
    v.unwritten? = none := by
  cases v <;> first | rfl | cases h

/-- Every name and every version asked for is a text, or nothing. -/
def Request.isTextual : Request → Bool
  | .default => true
  | .identity i => i.name.isTextual && i.version.isTextual
  | .object _ name version => name.all Value.isTextual && version.all Value.isTextual

namespace Recorder

/-- A recorder after it has given a tracer, but for its cache. -/
def supplied (x : Recorder) (off : Bool) (name version : Value) : Recorder :=
  { x with
    scopes := if off then x.scopes else (x.scopeFor name version).2.scopes
    issued := true }

/-- A tracer kept for a key is the one that would be made, and no scope would be. -/
structure KeepsFor (x : Recorder) (off : Bool) (key : TracerKey) (kept : KeptTracer) : Prop where
  name : kept.name.isTextual = true
  version : kept.version.isTextual = true
  key : tracerKey kept.name kept.version = .ok key
  scopes : off = false → (x.scopeFor kept.name kept.version).2.scopes = x.scopes
  kept : kept = x.keptFor off kept.name kept.version

structure Fit (x : Recorder) (off : Bool) : Prop where
  limit : ∃ n : Nat, x.options.maxCachedTracers = .int n
  issued : x.KeepsIssued
  kept : ∀ e ∈ x.tracers.entries, x.KeepsFor off e.1 e.2

variable {x y : Recorder} {off : Bool} {key : TracerKey} {name version : Value}

/-! ## Scopes -/

theorem scopeFor_congr (h : y.scopes = x.scopes) (name version : Value) :
    (y.scopeFor name version).1 = (x.scopeFor name version).1 ∧
      (y.scopeFor name version).2.scopes = (x.scopeFor name version).2.scopes := by
  simp only [scopeFor, h]
  split
  · exact ⟨rfl, h⟩
  · split
    · exact ⟨rfl, h⟩
    · exact ⟨rfl, rfl⟩

theorem scopeFor_scopes (x : Recorder) (name version : Value) :
    ∃ new, (x.scopeFor name version).2.scopes = x.scopes ++ new := by
  simp only [scopeFor]
  split
  · exact ⟨[], by simp⟩
  · split
    · exact ⟨[], by simp⟩
    · exact ⟨_, rfl⟩

/-- A scope that is there is found as well when there are more. -/
theorem scopeFor_append {new : List (TracerKey × Scope)} (hs : y.scopes = x.scopes ++ new)
    (h : (x.scopeFor name version).2.scopes = x.scopes) :
    (y.scopeFor name version).1 = (x.scopeFor name version).1 ∧
      (y.scopeFor name version).2.scopes = y.scopes := by
  simp only [scopeFor] at h ⊢
  split
  · exact ⟨rfl, rfl⟩
  next k hk =>
    rw [hk] at h
    dsimp only at h
    rw [hs, List.lookup_append]
    cases hl : x.scopes.lookup k with
    | none => simp [hl] at h
    | some first => exact ⟨rfl, hs⟩

theorem scopeFor_again (hs : y.scopes = (x.scopeFor name version).2.scopes) :
    (y.scopeFor name version).1 = (x.scopeFor name version).1 ∧
      (y.scopeFor name version).2.scopes = y.scopes := by
  simp only [scopeFor] at hs ⊢
  split
  · exact ⟨rfl, rfl⟩
  next k hk =>
    rw [hk] at hs
    dsimp only at hs
    cases hl : x.scopes.lookup k with
    | some first =>
      rw [hl] at hs
      simp [hs, hl]
    | none =>
      rw [hl] at hs
      have found : y.scopes.lookup k = some (Scope.ofIdentity name version) := by
        rw [hs, List.lookup_append, hl]
        simp
      simp [found]

theorem keptFor_congr (h : y.scopes = x.scopes) (off : Bool) (name version : Value) :
    y.keptFor off name version = x.keptFor off name version := by
  rw [keptFor, keptFor, (scopeFor_congr h name version).1]

theorem supplied_uncached (x : Recorder) (off : Bool) (name version : Value) :
    (x.supplied off name version).uncached = x.uncached.supplied off name version := by
  have scopes := (scopeFor_congr (x := x) (y := x.uncached) rfl name version).2
  rw [supplied, supplied, scopes]
  rfl

/-! ## Tracers that are kept -/

theorem KeepsFor.congr {kept : KeptTracer} (h : x.KeepsFor off key kept)
    (hs : y.scopes = x.scopes) : y.KeepsFor off key kept where
  name := h.name
  version := h.version
  key := h.key
  scopes ho := by rw [(scopeFor_congr hs _ _).2, hs, h.scopes ho]
  kept := by rw [keptFor_congr hs, ← h.kept]

theorem KeepsFor.supplied {kept : KeptTracer} (h : x.KeepsFor off key kept)
    (name version : Value) : (x.supplied off name version).KeepsFor off key kept := by
  cases off with
  | true => exact h.congr rfl
  | false =>
    obtain ⟨new, hnew⟩ := x.scopeFor_scopes name version
    obtain ⟨hscope, hscopes⟩ := scopeFor_append (y := x.supplied false name version) hnew
      (h.scopes rfl)
    exact
      { name := h.name
        version := h.version
        key := h.key
        scopes := fun _ => hscopes
        kept := by
          rw [keptFor, hscope]
          exact h.kept }

/-- The tracer that is made is the one that would be made next. -/
theorem keepsFor_supplied (hn : name.isTextual = true) (hv : version.isTextual = true)
    (hk : tracerKey name version = .ok key) :
    (x.supplied off name version).KeepsFor off key (x.keptFor off name version) := by
  cases off with
  | true =>
    exact
      { name := hn
        version := hv
        key := hk
        scopes := nofun
        kept := rfl }
  | false =>
    have again : (x.supplied false name version).scopes = (x.scopeFor name version).2.scopes := rfl
    obtain ⟨hscope, hscopes⟩ := scopeFor_again again
    exact
      { name := hn
        version := hv
        key := hk
        scopes := fun _ => hscopes
        kept := by simp only [keptFor, hscope] }

theorem Fit.of_eq (h : x.Fit off) (ht : y.tracers = x.tracers)
    (hl : y.options.maxCachedTracers = x.options.maxCachedTracers)
    (hi : x.issued = true → y.issued = true) (hs : y.scopes = x.scopes) : y.Fit off where
  limit := hl ▸ h.limit
  issued hne := hi (h.issued (ht ▸ hne))
  kept e he := (h.kept e (ht ▸ he)).congr hs

theorem Fit.reuse (h : x.Fit off) (key : TracerKey) : (x.reuse key).Fit off where
  limit := h.limit
  issued := h.issued.reuse key
  kept e he := (h.kept e (Lru.mem_of_mem_touch he)).congr rfl

theorem Fit.keep (h : x.Fit off) (hn : name.isTextual = true) (hv : version.isTextual = true)
    (hk : tracerKey name version = .ok key) (n : Nat) :
    ((x.keep off key name version).forget n).Fit off where
  limit := h.limit
  issued := KeepsIssued.forget (.keep off key name version) n
  kept e he := by
    rcases List.mem_append.mp (List.mem_of_mem_drop he) with he | he
    · exact ((h.kept e he).supplied name version).congr rfl
    · obtain rfl := List.mem_singleton.mp he
      exact (keepsFor_supplied hn hv hk).congr rfl

/-- What is kept for texts can be named in a record. -/
theorem Fit.allWritten (h : x.Fit off) : x.AllWritten := fun e he => by
  have keeps := h.kept e he
  rw [KeptTracer.unwritten?, Value.unwritten?_of_isTextual keeps.name,
    Value.unwritten?_of_isTextual keeps.version]
  rfl

end Recorder

/-! ## Requests -/

theorem resolveName_textual {name : Value} (h : name.isTextual = true) :
    (resolveName name).isTextual = true := by
  unfold resolveName
  split
  · exact h
  · rfl

theorem Request.parts_textual {request : Request} {name version : Value}
    (h : request.isTextual = true) (hp : request.parts = .ok (name, version)) :
    name.isTextual = true ∧ version.isTextual = true := by
  cases request with
  | default =>
    cases hp
    exact ⟨rfl, rfl⟩
  | identity i =>
    cases hp
    have h := Bool.and_eq_true_iff.mp h
    exact ⟨resolveName_textual h.1, h.2⟩
  | object typeName name version =>
    have h := Bool.and_eq_true_iff.mp h
    cases name with
    | none => cases hp
    | some name =>
      cases version with
      | none => cases hp
      | some version =>
        cases hp
        exact ⟨resolveName_textual h.1, h.2⟩

namespace Recorder

theorem inquire_textual {x : Recorder} {request : Request} {key : TracerKey} {name version : Value}
    (h : request.isTextual = true) (hq : x.inquire request = .seeks key name version) :
    name.isTextual = true ∧ version.isTextual = true ∧ tracerKey name version = .ok key := by
  unfold inquire at hq
  split at hq
  · cases hq
  next n v hp =>
    obtain ⟨hn, hv⟩ := Request.parts_textual h hp
    split at hq
    · cases hq
    · split at hq
      · cases hq
      · cases hq
      · split at hq
        · cases hq
        next hk =>
          cases hq
          exact ⟨hn, hv, hk⟩

theorem keys_of_tracerKey {key : TracerKey} {name version : Value}
    (h : tracerKey name version = .ok key) :
    name.key? = some key.1 ∧ version.key? = some key.2 := by
  unfold tracerKey at h
  split at h <;> cases h
  exact ⟨‹_›, ‹_›⟩

/-- Texts are told apart by their keys. -/
theorem eq_of_key_eq {v v' : Value} {k : Key} (hv : v.isTextual = true)
    (hv' : v'.isTextual = true) (h : v.key? = some k) (h' : v'.key? = some k) : v' = v := by
  cases v <;> cases hv <;> cases v' <;> cases hv' <;> cases h <;> cases h' <;> rfl

theorem eq_of_tracerKey_eq {name version name' version' : Value} {key : TracerKey}
    (hn : name.isTextual = true) (hv : version.isTextual = true) (hn' : name'.isTextual = true)
    (hv' : version'.isTextual = true) (h : tracerKey name version = .ok key)
    (h' : tracerKey name' version' = .ok key) : name' = name ∧ version' = version := by
  obtain ⟨hkn, hkv⟩ := keys_of_tracerKey h
  obtain ⟨hkn', hkv'⟩ := keys_of_tracerKey h'
  exact ⟨eq_of_key_eq hn hn' hkn hkn', eq_of_key_eq hv hv' hkv hkv'⟩

/-- A request that looks an identity up gives the tracer that would be made for it and leaves what
its making leaves, whether one was kept or not. -/
theorem getTracer_supplied {w : World} {r : Ref Recorder} {request : Request} {key : TracerKey}
    {name version : Value} (fit : (w.recorders.get r).Fit w.telemetryOff)
    (textual : request.isTextual = true)
    (hq : (w.recorders.get r).inquire request = .seeks key name version) :
    ∃ f events records,
      getTracer r request none w =
        .ok (handOut r ((w.recorders.get r).keptFor w.telemetryOff name version))
          { w.withRecorder r f with journal := w.journal ++ events, log := w.log ++ records } ∧
      OfCache records ∧ uncachedJournal events = [.sought r key] ∧
      (f (w.recorders.get r)).uncached =
        ((w.recorders.get r).supplied w.telemetryOff name version).uncached ∧
      (f (w.recorders.get r)).Fit w.telemetryOff := by
  obtain ⟨hn, hv, hk⟩ := inquire_textual textual hq
  cases hf : (w.recorders.get r).tracers.find? key with
  | some found =>
    have hmem := Lru.mem_of_find? hf
    have keeps := fit.kept _ hmem
    obtain ⟨rfl, rfl⟩ := eq_of_tracerKey_eq hn hv keeps.name keeps.version hk keeps.key
    refine ⟨(·.reuse key), [.sought r key], [], ?_, .nil, ?_, ?_, fit.reuse key⟩
    · rw [getTracer_hit hq hf, ← keeps.kept]
      simp [World.withRecorder, World.entered]
    · rfl
    · have issued : (w.recorders.get r).issued = true := fit.issued (List.ne_nil_of_mem hmem)
      have scopes : (if w.telemetryOff = true then (w.recorders.get r).scopes else
          ((w.recorders.get r).scopeFor found.name found.version).2.scopes) =
          (w.recorders.get r).scopes := by
        split
        · rfl
        next ho => exact keeps.scopes (by simpa using ho)
      simp only [supplied, scopes, Recorder.uncached, reuse, issued]
  | none =>
    obtain ⟨limit, hl⟩ := fit.limit
    have written := (fit.keep hn hv hk 0).allWritten
    obtain ⟨records, hrec, hrun⟩ := getTracer_made_within hq hf hl written
    refine ⟨fun x => (x.keep w.telemetryOff key name version).forget
      ((w.recorders.get r).tracers.size + 1 - limit), [.sought r key, .issued r key], records, ?_,
      hrec, ?_, ?_, fit.keep hn hv hk _⟩
    · rw [hrun]
      simp [dropped, World.made, World.withRecorder, World.entered, World.logged,
        Store.modify_modify]
    · rfl
    · rfl

end Recorder

end Tracing
