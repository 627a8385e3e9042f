import Tracing.Proofs.Stopped

/-!
# Tracing.Proofs.Slot

The provider that is installed, and how providers come to be installed and displaced.

* `installedIn`, `displacedIn` — the providers that entries of the journal say were put into the
  slot, and those taken out of it.
* `SlotMoves`     — what is displaced is what was installed before it, each once and in order.
  `Change.slotMoves`, `Changes.slotMoves` — so it is, however a world goes on.
* `World.vacated` — the displaced provider is out of the slot, and a fresh idle one in its place.
* `shutdown_vacated` — the shutdown of the installed provider is that of the displaced one, run from
  there. `installedShutdown_congr` — so is every hook of it.
* `slot_kept`     — the slot loses no provider, and shuts each down from outside.
-/

namespace Tracing

open Act

/-! ## Swaps -/

/-- The provider installed and the one displaced, if an entry says so. -/
def Event.swap : Event → Option (Option Provider × Option Provider)
  | .installed p previous => some (p, previous)
  | _ => none

def installedIn (events : List Event) : List (Option Provider) :=
  (events.filterMap Event.swap).map (·.1)

def displacedIn (events : List Event) : List (Option Provider) :=
  (events.filterMap Event.swap).map (·.2)

@[simp] theorem installedIn_append (a b : List Event) :
    installedIn (a ++ b) = installedIn a ++ installedIn b := by
  simp [installedIn]

@[simp] theorem displacedIn_append (a b : List Event) :
    displacedIn (a ++ b) = displacedIn a ++ displacedIn b := by
  simp [displacedIn]

/-- Between two worlds `events` were entered, in which each provider is displaced by the one that is
installed after it. -/
structure SlotMoves (events : List Event) (w w' : World) : Prop where
  journal : w'.journal = w.journal ++ events
  shifted : displacedIn events ++ [w'.installed] = w.installed :: installedIn events

section

variable {P : Step → Prop} {w w' w'' v : World} {events : List Event}

theorem SlotMoves.trans {events' : List Event} (h : SlotMoves events w w')
    (h' : SlotMoves events' w' w'') : SlotMoves (events ++ events') w w'' where
  journal := by rw [h'.journal, h.journal, List.append_assoc]
  shifted := by
    calc displacedIn (events ++ events') ++ [w''.installed]
        = displacedIn events ++ (displacedIn events' ++ [w''.installed]) := by simp
      _ = displacedIn events ++ [w'.installed] ++ installedIn events' := by simp [h'.shifted]
      _ = w.installed :: installedIn (events ++ events') := by simp [h.shifted]

/-- Entries that are no swaps leave the slot as it is. -/
theorem SlotMoves.still (hj : w'.journal = w.journal ++ events)
    (he : ∀ e ∈ events, e.swap = none) (hi : w'.installed = w.installed) :
    SlotMoves events w w' where
  journal := hj
  shifted := by
    have none : events.filterMap Event.swap = [] := List.filterMap_eq_nil_iff.mpr he
    simp [displacedIn, installedIn, none, hi]

theorem SlotMoves.of_standing (h : w.SameStanding w') : ∃ events, SlotMoves events w w' := by
  obtain ⟨events, hj, routine⟩ := h.entries
  refine ⟨events, .still hj (fun e he => ?_) h.installed⟩
  have hr := routine e he
  cases e <;> first | rfl | cases hr

theorem Change.slotMoves (h : Change P w w') : ∃ events, SlotMoves events w w' := by
  have silent : w'.journal = w.journal → w'.installed = w.installed →
      ∃ events, SlotMoves events w w' := fun hj hi =>
    ⟨[], .still (by simpa using hj) (by simp) hi⟩
  have single : ∀ e : Event, w'.journal = w.journal ++ [e] → e.swap = none →
      w'.installed = w.installed → ∃ events, SlotMoves events w w' := fun e hj he hi =>
    ⟨[e], .still hj (by simpa using he) hi⟩
  cases h with
  | attach => exact single _ rfl rfl rfl
  | ask _ _ r request fault => exact SlotMoves.of_standing (ask_after r request fault)
  | startSpan r scope request =>
    exact SlotMoves.of_standing (startSpan_after r scope request).toSameStanding
  | endSpan r span failed =>
    exact SlotMoves.of_standing (endSpan_after r span failed).toSameStanding
  | flush => exact single _ rfl rfl rfl
  | close => exact single _ rfl rfl rfl
  | stop => exact single _ rfl rfl rfl
  | answer => exact single _ rfl rfl rfl
  | shuttingDown => exact single _ rfl rfl rfl
  | shutDown => exact single _ rfl rfl rfl
  | install p =>
    exact ⟨[.installed p w.installed], { journal := rfl, shifted := rfl }⟩
  | _ => exact silent rfl rfl

/-- However a world goes on, the providers displaced are those installed, one swap later. -/
theorem Changes.slotMoves (h : Changes P w v) : ∃ events, SlotMoves events w v := by
  induction h with
  | refl => exact ⟨[], .still (by simp) (by simp) rfl⟩
  | tail _ change ih =>
    obtain ⟨events, moved⟩ := ih
    obtain ⟨events', moves⟩ := change.slotMoves
    exact ⟨events ++ events', moved.trans moves⟩

theorem Reachable.slotMoves (hw : Reachable P w) :
    displacedIn w.journal ++ [w.installed] = some (.idle ⟨0⟩) :: installedIn w.journal := by
  obtain ⟨telemetryOff, h⟩ := hw
  obtain ⟨events, moves⟩ := Changes.slotMoves h
  have all : w.journal = events := by simpa using moves.journal
  rw [all]
  exact moves.shifted

/-- The slot holds what was installed last. -/
theorem SlotMoves.last (h : SlotMoves events w w') :
    w'.installed = (installedIn events).getLast?.getD w.installed := by
  have ends := congrArg List.getLast? h.shifted
  rw [List.getLast?_append, List.getLast?_singleton, List.getLast?_cons] at ends
  exact Option.some.inj ends

/-- What was not in the slot and was not installed is not in it, and was not displaced. -/
theorem SlotMoves.away (h : SlotMoves events w w') {p : Option Provider} (hp : p ≠ w.installed)
    (absent : p ∉ installedIn events) : w'.installed ≠ p ∧ p ∉ displacedIn events := by
  have nowhere : p ∉ displacedIn events ++ [w'.installed] := by
    rw [h.shifted]
    simp [hp, absent]
  constructor
  · rintro rfl
    simp at nowhere
  · intro hd
    exact nowhere (List.mem_append_left _ hd)

/-! ## Setting and shutting down -/

namespace World

/-- The idle provider that takes the place of one that is to be shut down. -/
def fresh (w : World) : Provider := .idle w.idles.next

/-- That provider is there, but not installed yet. -/
def withFresh (w : World) : World :=
  { w with idles := w.idles.add { kind := .noop "NoOpTracerProvider" } }

/-- It has taken the place of the one installed. -/
def vacated (w : World) : World :=
  (w.withFresh.swapped (some w.fresh)).logged
    [⟨.info, Installed.logger, "Global tracer provider set to " ++
      (w.withFresh.shownAs (some w.fresh)).text⟩]

end World

theorem vacated_changes : Changes P w w.vacated :=
  have added : Change P w w.withFresh :=
    .aside w.log w.current w.catalog (w.idles.add { kind := .noop "NoOpTracerProvider" })
  (added.changes.tail (.install _)).tail (.logOnly _)

/-- An idle provider can always be shown. -/
theorem swap_fresh (w : World) :
    Installed.swap (some w.fresh) w.withFresh = .ok w.installed w.vacated :=
  swap_run (some w.fresh) w.withFresh

/-- What becomes of the provider that is displaced. One without a shutdown has nothing to report. -/
def Provider.retire (runner : Runner) : Option Provider → Act (List FlushReport)
  | none => pure []
  | some p => do if p.hasShutdown (← get) then p.shutdown runner else return []

theorem shutdown_vacated (runner : Runner) (w : World) :
    Installed.shutdown runner w = Provider.retire runner w.installed w.vacated := by
  have added : addIdle { kind := .noop "NoOpTracerProvider" } w =
      .ok w.idles.next w.withFresh := rfl
  have swapped := swap_fresh w
  rw [World.fresh] at swapped
  rw [Installed.shutdown, run_bind, added]
  dsimp only
  rw [run_bind, swapped]
  rfl

theorem shutdown_vacated_after (runner : Runner) (w : World) :
    (Installed.shutdown runner).after w =
      (Provider.retire runner w.installed).after w.vacated := by
  simp only [Act.after, shutdown_vacated]

section

variable {runner runner' : Runner}

theorem retire_leads (hr : runner.Keeps P) (hw : w.InOrder P) (p : Option Provider) :
    Leads (Changes P) Any (Provider.retire runner p) w := by
  cases p with
  | none => exact Leads.pure trivial
  | some p =>
    refine Leads.get ?_
    split
    · exact providerShutdown_leads hr hw p
    · exact Leads.pure trivial

/-- No hook runs when an idle provider retires. -/
theorem retire_idle (runner : Runner) (i : Ref Idle) (w : World) :
    (Provider.retire runner (some (.idle i))).after w = w := by
  cases hk : (w.idles.get i).kind <;>
    simp [Act.after, Provider.retire, run_bind, Provider.hasShutdown, Provider.shutdown, hk]

/-- What becomes of a provider depends on hooks only as they run from then on. -/
theorem retire_congr (hr : runner.Keeps P) (hw : w.InOrder P)
    (h : Runner.AlikeSince P runner runner' w) (p : Option Provider) :
    Provider.retire runner' p w = Provider.retire runner p w := by
  rcases p with _ | r | i
  · rfl
  · show Recorder.shutdown runner' r w = Recorder.shutdown runner r w
    cases hc : (w.recorders.get r).closed with
    | true => rw [Recorder.shutdown_closed hc, Recorder.shutdown_closed hc]
    | false =>
      have begun : Change P w (w.shuttingDown r) := .shuttingDown r hc
      exact shutdown_congr hr hw hc (h.later begun.changes)
  · rfl

theorem installedShutdown_after (hr : runner.Keeps P) (hw : w.InOrder P) :
    Changes P w.vacated ((Installed.shutdown runner).after w) := by
  rw [shutdown_vacated_after]
  exact (retire_leads hr (vacated_changes.inOrder hw) w.installed).after

theorem installedShutdown_congr (hr : runner.Keeps P) (hw : w.InOrder P)
    (h : Runner.AlikeSince P runner runner' w.vacated) :
    Installed.shutdown runner' w = Installed.shutdown runner w := by
  rw [shutdown_vacated, shutdown_vacated, retire_congr hr (vacated_changes.inOrder hw) h]

end

/-! ## The slot -/

/-- How the slot stands in `w`, and what becomes of it when the installed provider is displaced. -/
structure KeepsSlot (P : Step → Prop) (w : World) : Prop where
  /-- Each provider installed so far was displaced by the one installed next, the last one not. -/
  shifted : displacedIn w.journal ++ [w.installed] = some (.idle ⟨0⟩) :: installedIn w.journal
  last : w.installed = (installedIn w.journal).getLast?.getD (some (.idle ⟨0⟩))
  answered : ∀ runner bound, Script.perform runner bound .getGlobal w =
    .ok (Script.providerAnswer w w.installed) w
  /-- A provider that can be shown is installed, and the one that it displaces is given. -/
  swaps : ∀ p, (w.shownAs p).fault? = none →
    ∃ log, Installed.swap p w = .ok w.installed { w.swapped p with log }
  /-- One that cannot is installed as well, but the call fails and does not give the other one. -/
  unshown : ∀ p e, (w.shownAs p).fault? = some e → Installed.swap p w = .error e (w.swapped p)
  /-- A shutdown is that of the displaced provider, failures included, in a world that has an idle
  provider of its own in the slot. -/
  retires : ∀ runner, Installed.shutdown runner w = Provider.retire runner w.installed w.vacated
  fresh : w.vacated.installed = some w.fresh ∧ ¬ w.idles.Has w.idles.next ∧
    (w.vacated.idles.get w.idles.next).isNoop = true
  /-- Every hook of it runs in a world that comes after that, and the shutdown ends in one. -/
  outside : ∀ fuel runner, Runner.AlikeSince P (Script.runWithin fuel) runner w.vacated →
    Installed.shutdown runner w = Installed.shutdown (Script.runWithin fuel) w
  ends : ∀ fuel, Changes P w.vacated ((Installed.shutdown (Script.runWithin fuel)).after w)
  idle : ∀ i, w.installed = some (.idle i) → ∀ runner,
    (Installed.shutdown runner).after w = w.vacated
  /-- In such a world the slot holds what was installed last since, and a provider that was not
  installed since is neither in the slot nor was displaced again. -/
  since : ∀ v, Changes P w.vacated v → ∃ events, SlotMoves events w.vacated v ∧
    v.installed = (installedIn events).getLast?.getD (some w.fresh) ∧
    ∀ p, p ≠ some w.fresh → p ∉ installedIn events → v.installed ≠ p ∧ p ∉ displacedIn events

/-- Whatever is installed and shut down, also by hooks of the provider that is being shut down, the
slot loses nothing, and every provider is shut down from outside of it. A call that installs a
provider gives the one displaced, unless the new one cannot be shown. -/
theorem slot_kept (hw : Reachable P w) : KeepsSlot P w where
  shifted := hw.slotMoves
  last := by
    have moves : SlotMoves w.journal {} w :=
      { journal := (List.nil_append _).symm, shifted := hw.slotMoves }
    exact moves.last
  answered runner bound := rfl
  swaps p h := by
    have hrun := swap_run p w
    rw [h] at hrun
    exact ⟨_, hrun⟩
  unshown p e h := by
    have hrun := swap_run p w
    rwa [h] at hrun
  retires runner := shutdown_vacated runner w
  fresh := by
    refine ⟨rfl, Nat.lt_irrefl _, ?_⟩
    show ((w.idles.add _).get w.idles.next).isNoop = true
    rw [w.idles.get_add_self]
    rfl
  outside fuel runner h := installedShutdown_congr (runWithin_keeps P fuel) hw.inOrder h
  ends fuel := installedShutdown_after (runWithin_keeps P fuel) hw.inOrder
  idle i hi runner := by
    rw [shutdown_vacated_after, hi, retire_idle]
  since v hv := by
    obtain ⟨events, moves⟩ := hv.slotMoves
    exact ⟨events, moves, moves.last, fun p hp absent => moves.away hp absent⟩

end

/-- A provider that, when it is shut down, asks for the one installed, shuts that down and installs
another one. -/
def slotProgram : List Step :=
  [.newNoop "q" none,
    .newProvider "p" none (some [.make "a" (.str "a") (.scripted
      { onFlush := [[.getGlobal, .globalShutdown, .setGlobal (some "q")]] })]) none none true,
    .setGlobal (some "p")]

def slotWorld : World := (Script.run slotProgram {}).2

theorem slotWorld_reachable : Reachable (fun _ => True) slotWorld := by
  rw [slotWorld]
  exact Script.run_reachable_any _

theorem nested_slot_kept :
    KeepsSlot (fun _ => True) slotWorld ∧ slotWorld.installed = some (.recorder ⟨0⟩) ∧
      slotWorld.fresh = .idle ⟨2⟩ ∧
      installedIn ((Installed.shutdown (Script.runWithin 2)).after slotWorld).journal =
        [some (.recorder ⟨0⟩), some (.idle ⟨2⟩), some (.idle ⟨3⟩), some (.idle ⟨1⟩)] := by
  have shown : slotWorld.installed = some (.recorder ⟨0⟩) ∧ slotWorld.fresh = .idle ⟨2⟩ ∧
      installedIn ((Installed.shutdown (Script.runWithin 2)).after slotWorld).journal =
        [some (.recorder ⟨0⟩), some (.idle ⟨2⟩), some (.idle ⟨3⟩), some (.idle ⟨1⟩)] := by
    decide +kernel
  exact ⟨slot_kept slotWorld_reachable, shown⟩

/-- The service of a provider is named by an integer that has too many digits to be written. -/
def unshownProgram : List Step :=
  [.newProvider "p" none (some []) none none true,
    .setOption "p" (.str "service_name") (.int Text.leastUnwritten)]

def unshownWorld : World := (Script.run unshownProgram {}).2

theorem unshownWorld_reachable : Reachable (fun _ => True) unshownWorld := by
  rw [unshownWorld]
  exact Script.run_reachable_any _

/-- To install it fails, when the provider installed before has been displaced. -/
theorem displaced_provider_not_given :
    Reachable (fun _ => True) unshownWorld ∧ unshownWorld.installed = some (.idle ⟨0⟩) ∧
      ∃ e w', Installed.swap (some (.recorder ⟨0⟩)) unshownWorld = .error e w' ∧
        w'.installed = some (.recorder ⟨0⟩) ∧
        displacedIn w'.journal = displacedIn unshownWorld.journal ++ [some (.idle ⟨0⟩)] := by
  have unshown : ((unshownWorld.shownAs (some (.recorder ⟨0⟩))).fault?).isSome = true := by
    decide +kernel
  obtain ⟨e, he⟩ := Option.isSome_iff_exists.mp unshown
  have installed : unshownWorld.installed = some (.idle ⟨0⟩) := by decide +kernel
  have hrun := swap_run (some (.recorder ⟨0⟩)) unshownWorld
  rw [he] at hrun
  refine ⟨unshownWorld_reachable, installed, e, _, hrun, rfl, ?_⟩
  rw [World.swapped, displacedIn_append, installed]
  rfl

end Tracing
