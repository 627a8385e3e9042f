import Tracing.Proofs.Shape
import Tracing.Proofs.Tracers

/-!
# Tracing.Proofs.Endings

The ways in which a request for a tracer can end.

* `Recorder.Drops`, `Fails`, `Seeks` — what becomes of a request before tracers are looked at, as
  conditions on what is asked for.
* `KeptTracer.MadeFor` — a tracer that its recorder made for an identity.
* `Ending`, `EndsIn`   — the ways to end, each with what it needs, gives and leaves.
* `EndsIn.unique`      — no request ends in two of them.
* `EndsIn.counts`, `EndsIn.entries` — what each adds to the counts and to the journal.
-/

namespace Tracing

open Act World

/-! ## Before the lookup -/

namespace Recorder

/-- The recorder is closed, or telemetry of the library asked for is dropped. -/
def Drops (x : Recorder) (request : Request) : Prop :=
  ∃ name version, request.parts = .ok (name, version) ∧
    (x.closed = true ∨ x.suppresses name = .ok true)

/-- The identity asked for is looked up under a key. -/
structure Seeks (x : Recorder) (request : Request) (key : TracerKey) (name version : Value) :
    Prop where
  parts : request.parts = .ok (name, version)
  isOpen : x.closed = false
  wanted : x.suppresses name = .ok false
  keyed : tracerKey name version = .ok key

/-- No tracer is kept for the identity. -/
structure Misses (x : Recorder) (request : Request) (key : TracerKey) (name version : Value) : Prop
    extends Seeks x request key name version where
  missing : x.tracers.find? key = none

/-- A request fails before anything is looked up: it says no identity, the rule for suppressed
libraries cannot be applied to it, or it is no key. -/
inductive Fails (x : Recorder) (request : Request) (e : Failure) : Prop where
  | parts (h : request.parts = .error e)
  | rule (name version : Value) (parts : request.parts = .ok (name, version))
      (isOpen : x.closed = false) (h : x.suppresses name = .error e)
  | key (name version : Value) (parts : request.parts = .ok (name, version))
      (isOpen : x.closed = false) (wanted : x.suppresses name = .ok false)
      (h : tracerKey name version = .error e)

variable {x : Recorder} {request : Request}

theorem Drops.inquire (h : x.Drops request) : x.inquire request = .idle := by
  obtain ⟨name, version, hp, hc | hs⟩ := h
  · simp [Recorder.inquire, hp, hc]
  · simp [Recorder.inquire, hp, hs]

theorem Fails.inquire {e : Failure} (h : x.Fails request e) : x.inquire request = .fails e := by
  cases h with
  | parts hp => simp [Recorder.inquire, hp]
  | rule name version hp isOpen hs => simp [Recorder.inquire, hp, isOpen, hs]
  | key name version hp isOpen wanted hk => simp [Recorder.inquire, hp, isOpen, wanted, hk]

theorem Seeks.inquire {key : TracerKey} {name version : Value}
    (h : x.Seeks request key name version) : x.inquire request = .seeks key name version := by
  simp [Recorder.inquire, h.parts, h.isOpen, h.wanted, h.keyed]

/-- Nothing else can become of a request before tracers are looked at. -/
theorem inquire_cases (x : Recorder) (request : Request) :
    x.Drops request ∨ (∃ e, x.Fails request e) ∨
      ∃ key name version, x.Seeks request key name version := by
  cases hp : request.parts with
  | error e => exact .inr (.inl ⟨e, .parts hp⟩)
  | ok parts =>
    obtain ⟨name, version⟩ := parts
    cases hc : x.closed with
    | true => exact .inl ⟨name, version, hp, .inl hc⟩
    | false =>
      rcases hs : x.suppresses name with e | (_ | _)
      · exact .inr (.inl ⟨e, .rule name version hp hc hs⟩)
      · cases hk : tracerKey name version with
        | error e => exact .inr (.inl ⟨e, .key name version hp hc hs hk⟩)
        | ok key =>
          exact .inr (.inr ⟨key, name, version,
            { parts := hp, isOpen := hc, wanted := hs, keyed := hk }⟩)
      · exact .inl ⟨name, version, hp, .inr hs⟩

end Recorder

/-! ## Endings -/

/-- A tracer that was not kept: it was made, or could not be. -/
def Event.isMiss : Event → Bool
  | .issued _ _ => true
  | .refused _ _ => true
  | _ => false

/-- The tracer was made by the recorder, for an identity with this key. Its spans are attributed to
an identity equal to that one. -/
structure KeptTracer.MadeFor (kept : KeptTracer) (r : Ref Recorder) (key : TracerKey) (w : World) :
    Prop where
  keyed : tracerKey kept.name kept.version = .ok key
  issued : .issued r key ∈ w.journal
  scope : ∀ scope, kept.scope = some scope → tracerKey scope.name scope.version =
    tracerKey (Scope.ofIdentity kept.name kept.version).name
      (Scope.ofIdentity kept.name kept.version).version

/-- How a request for a tracer can end. -/
inductive Ending where
  /-- The recorder is closed, or drops the telemetry of the library. -/
  | idle
  /-- A tracer was kept for the identity. -/
  | found
  /-- One is made for it. -/
  | made
  /-- No identity could be looked up. -/
  | failed
  /-- No tracer could be made. -/
  | refused
  /-- The making of the tracer was interrupted. -/
  | interrupted
  /-- No tracer could be made, and what was raised in place of it has no text. -/
  | unsaid
  /-- One was made and is kept, but the oldest ones could not be dropped, or the records of this not
  be written. -/
  | overrun
  deriving DecidableEq, Repr

namespace Ending

def hits : Ending → Nat
  | .found => 1
  | _ => 0

def misses : Ending → Nat
  | .made | .refused | .interrupted | .unsaid | .overrun => 1
  | _ => 0

def failures : Ending → Nat
  | .failed | .refused | .unsaid | .overrun => 1
  | _ => 0

end Ending

section

variable (r : Ref Recorder) (request : Request) (fault : Option Failure) (w w' : World)

/-- A request in `w` ends in that way, and leaves `w'`. -/
inductive EndsIn : Ending → Prop where
  | idle (drops : (w.recorders.get r).Drops request) (same : w' = w)
      (run : Recorder.getTracer r request fault w = .ok .idle w') : EndsIn .idle
  | found (key : TracerKey) (name version : Value) (kept : KeptTracer)
      (seeks : (w.recorders.get r).Seeks request key name version)
      (found : (w.recorders.get r).tracers.find? key = some kept)
      (origin : kept.MadeFor r key w)
      (run : Recorder.getTracer r request fault w = .ok (Recorder.handOut r kept) w')
      (recorder : w'.recorders.get r = (w.recorders.get r).reuse key)
      (entries : w'.journal = w.journal ++ [.sought r key]) : EndsIn .found
  | made (key : TracerKey) (name version : Value) (kept : KeptTracer) (n : Nat)
      (misses : (w.recorders.get r).Misses request key name version) (unhindered : fault = none)
      (new : kept = (w.recorders.get r).keptFor w.telemetryOff name version)
      (origin : kept.MadeFor r key w')
      (run : Recorder.getTracer r request fault w = .ok (Recorder.handOut r kept) w')
      (recorder : w'.recorders.get r =
        ((w.recorders.get r).keep w.telemetryOff key name version).forget n)
      (entries : w'.journal = w.journal ++ [.sought r key, .issued r key])
      (written : kept.unwritten? = none) : EndsIn .made
  | failed (e : Failure) (fails : (w.recorders.get r).Fails request e)
      (run : Recorder.getTracer r request fault w = .ok .idle w')
      (recorder : w'.recorders.get r = (w.recorders.get r).failed)
      (entries : w'.journal = w.journal) : EndsIn .failed
  | refused (key : TracerKey) (name version : Value) (e : Failure)
      (misses : (w.recorders.get r).Misses request key name version) (hindered : fault = some e)
      (calm : e.escape? = none)
      (run : Recorder.getTracer r request fault w = .ok .idle w')
      (recorder : w'.recorders.get r = (w.recorders.get r).missed.failed)
      (entries : w'.journal = w.journal ++ [.sought r key, .refused r key]) : EndsIn .refused
  | interrupted (key : TracerKey) (name version : Value) (e : Failure)
      (misses : (w.recorders.get r).Misses request key name version) (hindered : fault = some e)
      (interrupts : e.isInterruption = true)
      (run : Recorder.getTracer r request fault w = .error e w')
      (recorder : w'.recorders.get r = (w.recorders.get r).missed)
      (entries : w'.journal = w.journal ++ [.sought r key, .refused r key]) : EndsIn .interrupted
  | unsaid (key : TracerKey) (name version : Value) (e unsaid : Failure)
      (misses : (w.recorders.get r).Misses request key name version) (hindered : fault = some e)
      (calm : e.isInterruption = false) (unwritten : e.unwritten? = some unsaid)
      (run : Recorder.getTracer r request fault w = .error unsaid w')
      (recorder : w'.recorders.get r = (w.recorders.get r).missed.failed)
      (entries : w'.journal = w.journal ++ [.sought r key, .refused r key]) : EndsIn .unsaid
  | overrun (key : TracerKey) (name version : Value) (n : Nat)
      (misses : (w.recorders.get r).Misses request key name version) (unhindered : fault = none)
      (cause : ¬ (w.recorders.get r).LimitChecked ∨
        ¬ ((w.recorders.get r).keep w.telemetryOff key name version).AllWritten)
      (run : Recorder.getTracer r request fault w = .ok .idle w')
      (recorder : w'.recorders.get r =
        (((w.recorders.get r).keep w.telemetryOff key name version).forget n).failed)
      (entries : w'.journal = w.journal ++ [.sought r key, .issued r key]) : EndsIn .overrun

end

namespace EndsIn

variable {r : Ref Recorder} {request : Request} {fault : Option Failure} {w w' : World}
  {ending : Ending}

/-- The ending that a request has, as the tracers kept before and the counts afterwards show. -/
def shown (r : Ref Recorder) (request : Request) (fault : Option Failure) (w w' : World) :
    Ending :=
  match (w.recorders.get r).inquire request with
  | .idle => .idle
  | .fails _ => .failed
  | .seeks key _ _ =>
    match (w.recorders.get r).tracers.find? key, fault with
    | some _, _ => .found
    | none, some e =>
      if e.isInterruption then .interrupted
      else if e.unwritten?.isSome then .unsaid
      else .refused
    | none, none =>
      if (w'.recorders.get r).failures = (w.recorders.get r).failures then .made else .overrun

theorem eq_shown (h : EndsIn r request fault w w' ending) :
    ending = shown r request fault w w' := by
  cases h with
  | idle drops => simp [shown, drops.inquire]
  | found key name version kept seeks found =>
    simp [shown, seeks.inquire, found]
  | made key name version kept n misses unhindered _ _ _ recorder =>
    simp [shown, misses.inquire, misses.missing, unhindered, recorder,
      Recorder.forget, Recorder.keep, Recorder.missed]
  | failed e fails => simp [shown, fails.inquire]
  | refused key name version e misses hindered calm =>
    obtain ⟨calm, written⟩ := Failure.escape?_eq_none.mp calm
    simp [shown, misses.inquire, misses.missing, hindered, calm, written]
  | interrupted key name version e misses hindered interrupts =>
    simp [shown, misses.inquire, misses.missing, hindered, interrupts]
  | unsaid key name version e _ misses hindered calm unwritten =>
    simp [shown, misses.inquire, misses.missing, hindered, calm, unwritten]
  | overrun key name version n misses unhindered _ _ recorder =>
    simp [shown, misses.inquire, misses.missing, unhindered, recorder,
      Recorder.forget, Recorder.keep, Recorder.missed, Recorder.failed]

/-- No request ends in two ways. -/
theorem unique {other : Ending} (h : EndsIn r request fault w w' ending)
    (h' : EndsIn r request fault w w' other) : other = ending :=
  h'.eq_shown.trans h.eq_shown.symm

theorem counts (h : EndsIn r request fault w w' ending) :
    (w'.recorders.get r).hits = (w.recorders.get r).hits + ending.hits ∧
      (w'.recorders.get r).misses = (w.recorders.get r).misses + ending.misses ∧
      (w'.recorders.get r).failures = (w.recorders.get r).failures + ending.failures := by
  cases h with
  | idle _ same => exact same ▸ ⟨rfl, rfl, rfl⟩
  | found _ _ _ _ _ _ _ _ recorder => rw [recorder]; exact ⟨rfl, rfl, rfl⟩
  | made _ _ _ _ _ _ _ _ _ _ recorder => rw [recorder]; exact ⟨rfl, rfl, rfl⟩
  | failed _ _ _ recorder => rw [recorder]; exact ⟨rfl, rfl, rfl⟩
  | refused _ _ _ _ _ _ _ _ recorder => rw [recorder]; exact ⟨rfl, rfl, rfl⟩
  | interrupted _ _ _ _ _ _ _ _ recorder => rw [recorder]; exact ⟨rfl, rfl, rfl⟩
  | unsaid _ _ _ _ _ _ _ _ _ _ recorder => rw [recorder]; exact ⟨rfl, rfl, rfl⟩
  | overrun _ _ _ _ _ _ _ _ recorder => rw [recorder]; exact ⟨rfl, rfl, rfl⟩

/-- Only what is raised in place of the tracer that is to be made can escape, if it is an
interruption or has no text. -/
theorem returns (h : EndsIn r request fault w w' ending)
    (calm : ∀ e, fault = some e → e.escape? = none) :
    ∃ tracer, Recorder.getTracer r request fault w = .ok tracer w' := by
  cases h with
  | interrupted _ _ _ e _ hindered interrupts =>
    rw [(Failure.escape?_eq_none.mp (calm e hindered)).1] at interrupts
    cases interrupts
  | unsaid _ _ _ e _ _ hindered _ unwritten =>
    rw [(Failure.escape?_eq_none.mp (calm e hindered)).2] at unwritten
    cases unwritten
  | idle _ _ run => exact ⟨_, run⟩
  | found _ _ _ _ _ _ _ run => exact ⟨_, run⟩
  | made _ _ _ _ _ _ _ _ _ run => exact ⟨_, run⟩
  | failed _ _ run => exact ⟨_, run⟩
  | refused _ _ _ _ _ _ _ run => exact ⟨_, run⟩
  | overrun _ _ _ _ _ _ _ run => exact ⟨_, run⟩

theorem entries (h : EndsIn r request fault w w' ending) :
    ∃ events, w'.journal = w.journal ++ events ∧
      (events.filterMap (Event.keySought r)).length = ending.hits + ending.misses ∧
      (events.filter (Event.isLookup r)).countP Event.isMiss = ending.misses := by
  cases h with
  | idle _ same => exact ⟨[], by simp [same], rfl, rfl⟩
  | failed _ _ _ _ entries => exact ⟨[], by simp [entries], rfl, rfl⟩
  | found _ _ _ _ _ _ _ _ _ entries =>
    exact ⟨_, entries, by simp [Event.keySought, Ending.hits, Ending.misses],
      by simp [Event.isLookup, Event.isMiss, Ending.misses]⟩
  | made _ _ _ _ _ _ _ _ _ _ _ entries =>
    exact ⟨_, entries, by simp [Event.keySought, Ending.hits, Ending.misses],
      by simp [Event.isLookup, Event.isMiss, Ending.misses]⟩
  | refused _ _ _ _ _ _ _ _ _ entries =>
    exact ⟨_, entries, by simp [Event.keySought, Ending.hits, Ending.misses],
      by simp [Event.isLookup, Event.isMiss, Ending.misses]⟩
  | interrupted _ _ _ _ _ _ _ _ _ entries =>
    exact ⟨_, entries, by simp [Event.keySought, Ending.hits, Ending.misses],
      by simp [Event.isLookup, Event.isMiss, Ending.misses]⟩
  | unsaid _ _ _ _ _ _ _ _ _ _ _ entries =>
    exact ⟨_, entries, by simp [Event.keySought, Ending.hits, Ending.misses],
      by simp [Event.isLookup, Event.isMiss, Ending.misses]⟩
  | overrun _ _ _ _ _ _ _ _ _ entries =>
    exact ⟨_, entries, by simp [Event.keySought, Ending.hits, Ending.misses],
      by simp [Event.isLookup, Event.isMiss, Ending.misses]⟩

end EndsIn

end Tracing
