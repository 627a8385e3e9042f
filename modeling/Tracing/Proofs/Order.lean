import Tracing.Proofs.Change

/-!
# Tracing.Proofs.Order

Worlds in order: what references reach, and what hooks consist of.

* `World.InOrder P`  — references reach objects, hooks consist of steps that satisfy `P`, and
  tracers that are kept or named were issued by their recorders.
* `getTracer_issued` — a tracer that is handed out was issued.
* `Changes.inOrder`, `Reachable.inOrder` — worlds stay in order, whatever they go through.
* `Reachable.invariant` — induction on the changes that lead to a reachable world.
-/

namespace Tracing

open Act

/-- A tracer that is kept was issued. -/
def Recorder.KeepsIssued (x : Recorder) : Prop := x.tracers.entries ≠ [] → x.issued = true

namespace World

structure InOrder (P : Step → Prop) (w : World) : Prop where
  hooks : ∀ q, (w.processors.get q).role.HooksSatisfy P
  wraps : ∀ p, w.pipelines.Has p → w.processors.Has (w.pipelines.get p).processor
  owns : ∀ r, ∀ p ∈ (w.recorders.get r).pipelines, w.pipelines.Has p
  names : w.names.Known w
  exits : ∀ r ∈ w.exitHooks, w.recorders.Has r
  kept : ∀ r, (w.recorders.get r).KeepsIssued

end World

section

variable {P : Step → Prop} {w w' : World}

theorem Names.Known.extends {names : Names} (h : names.Known w) (he : w.Extends w') :
    names.Known w' where
  pipelines id p hp := he.hasPipeline (h.pipelines id p hp)
  providers id r hr := he.hasRecorder (h.providers id r hr)
  tracers id r scope ht := he.issued r (h.tracers id r scope ht)

theorem World.InOrder.of_shape (hw : w.InOrder P) (h : w.SameShape w')
    (hk : ∀ r, (w'.recorders.get r).KeepsIssued) :
    w'.InOrder P where
  hooks q := by
    rw [h.role q]
    exact hw.hooks q
  wraps p hp := by
    rw [h.processor p]
    have hp' : w.pipelines.Has p := Nat.lt_of_lt_of_eq hp h.pipelines
    exact h.extends.hasProcessor (hw.wraps p hp')
  owns r p hp := by
    rw [h.owned r] at hp
    exact h.extends.hasPipeline (hw.owns r p hp)
  names := by
    rw [h.names]
    exact hw.names.extends h.extends
  exits r hr := by
    rw [h.exitHooks] at hr
    exact h.extends.hasRecorder (hw.exits r hr)
  kept := hk

theorem World.InOrder.of_tracers (hw : w.InOrder P) (h : w.SameShape w')
    (ht : ∀ r, (w'.recorders.get r).tracers = (w.recorders.get r).tracers) : w'.InOrder P := by
  refine hw.of_shape h ?_
  intro r hr
  rw [ht r] at hr
  exact h.issued r (hw.kept r hr)

theorem World.forall_withRecorder {S : Recorder → Prop} {r : Ref Recorder}
    {f : Recorder → Recorder} (h : ∀ t, S (w.recorders.get t)) (hf : ∀ x, S x → S (f x)) (t) :
    S ((w.withRecorder r f).recorders.get t) := by
  rcases w.recorders.get_modify_eq_or r t f with ht | ⟨-, ht⟩
  · exact ht ▸ h t
  · exact ht ▸ hf _ (h t)

namespace Recorder.KeepsIssued

variable {x : Recorder}

theorem reuse (h : x.KeepsIssued) (key : TracerKey) : (x.reuse key).KeepsIssued := by
  intro hne
  apply h
  intro he
  simp [Recorder.reuse, Lru.touch, he] at hne

theorem keep (off : Bool) (key : TracerKey) (name version : Value) :
    (x.keep off key name version).KeepsIssued := fun _ => rfl

theorem forget (h : x.KeepsIssued) (n : Nat) : (x.forget n).KeepsIssued := by
  intro hne
  apply h
  intro he
  simp [Recorder.forget, he] at hne

end Recorder.KeepsIssued

theorem Recorder.handOut_source {r t : Ref Recorder} {kept : KeptTracer} {scope : Scope}
    (h : handOut r kept = .recording t scope) : t = r := by
  unfold handOut at h
  split at h <;> cases h
  rfl

/-- A tracer that is handed out, be it kept or new, is one that the recorder has issued. -/
theorem getTracer_issued (hk : ∀ t, (w.recorders.get t).KeepsIssued) (r : Ref Recorder)
    (request : Request) (fault : Option Failure) :
    Leads (fun _ w' => ∀ t, (w'.recorders.get t).KeepsIssued)
      (fun tracer w' => ∀ t scope, tracer = .recording t scope →
        (w'.recorders.get t).issued = true)
      (Recorder.getTracer r request fault) w := by
  have failing : ∀ {w' : World} {records : List LogRecord},
      (∀ t, (w'.recorders.get t).KeepsIssued) →
      ∀ t, (((w'.withRecorder r Recorder.failed).logged records).recorders.get t).KeepsIssued :=
    fun h => World.forall_withRecorder h fun _ hx => hx
  cases hq : (w.recorders.get r).inquire request with
  | idle => exact Leads.of_ok (Recorder.getTracer_idle hq) hk nofun
  | fails e => exact Leads.of_ok (Recorder.getTracer_fails hq) (failing hk) nofun
  | seeks key name version =>
    have hr : w.recorders.Has r := Recorder.has_of_open (Recorder.open_of_seeks hq)
    cases hf : (w.recorders.get r).tracers.find? key with
    | some kept =>
      refine Leads.of_ok (Recorder.getTracer_hit hq hf)
        (World.forall_withRecorder hk fun _ hx => hx.reuse key) ?_
      intro t scope ht
      obtain rfl := Recorder.handOut_source ht
      have hi : (w.recorders.get t).issued = true := by
        apply hk t
        intro he
        simp [Lru.find?, he] at hf
      exact (w.recorders.map_get_modify (·.issued) t t (f := (·.reuse key)) fun _ => rfl).trans hi
    | none =>
      cases fault with
      | some e =>
        have hk' : ∀ t, ((Recorder.refusedWorld w r key).recorders.get t).KeepsIssued :=
          World.forall_withRecorder (w := w.entered _) hk fun _ hx => hx
        have hrun := Recorder.getTracer_refused (e := e) hq hf
        split at hrun
        · exact Leads.of_error hrun hk'
        · split at hrun
          · exact Leads.of_error hrun (World.forall_withRecorder hk' fun _ hx => hx)
          · exact Leads.of_ok hrun (failing hk') nofun
      | none =>
        have hk' : ∀ n records t, ((Recorder.dropped (w.made r key name version) r n
            records).recorders.get t).KeepsIssued := by
          intro n records
          refine World.forall_withRecorder ?_ fun _ hx => hx.forget n
          exact World.forall_withRecorder (w := (w.entered _).entered _) hk fun _ _ => .keep _ _ _ _
        obtain ⟨n, records, -, ⟨hrun, -⟩ | ⟨e, -, hrun⟩⟩ := Recorder.getTracer_made hq hf
        · refine Leads.of_ok hrun (hk' n records) ?_
          intro t scope ht
          obtain rfl := Recorder.handOut_source ht
          have hi : ((w.made t key name version).recorders.get t).issued = true :=
            congrArg Recorder.issued (w.recorders.get_modify_self _ hr)
          exact ((w.made t key name version).recorders.map_get_modify (·.issued) t t
            (f := (·.forget n)) fun _ => rfl).trans hi
        · exact Leads.of_ok hrun (failing (hk' n records)) nofun

/-- Asking for a tracer keeps the order, and a tracer that is given is issued. -/
theorem getTracer_leads (hw : w.InOrder P) (r : Ref Recorder) (request : Request)
    (fault : Option Failure) :
    Leads (fun w w' => w.SameShape w' ∧ w'.InOrder P)
      (fun tracer w' => ∀ t scope, tracer = .recording t scope →
        (w'.recorders.get t).issued = true)
      (Recorder.getTracer r request fault) w := by
  have shape := (ask_after (w := w) r request fault).toSameShape
  have issued := getTracer_issued hw.kept r request fault
  cases hx : Recorder.getTracer r request fault w with
  | ok tracer w' =>
    rw [after_of_ok hx] at shape
    rw [Leads, hx] at issued
    exact Leads.of_ok hx ⟨shape, hw.of_shape shape issued.1⟩ issued.2
  | error e w' =>
    rw [after_of_error hx] at shape
    rw [Leads, hx] at issued
    exact Leads.of_error hx ⟨shape, hw.of_shape shape issued⟩

theorem assign_tracers (x : Recorder) (field : Text) (v : Value) :
    (x.assign field v).tracers = x.tracers := by
  unfold Recorder.assign
  split <;> rfl

theorem Change.inOrder (h : Change P w w') (hw : w.InOrder P) : w'.InOrder P := by
  have he := h.extends
  cases h with
  | aside => exact { hw with names := hw.names.extends he }
  | name names known => exact { hw with names := known.extends he }
  | addProcessor x hooks =>
    exact
      { hw with
        hooks := fun q => by
          by_cases hq : q = w.processors.next
          · subst hq
            rw [w.processors.get_add_self]
            exact hooks
          · rw [w.processors.get_add_of_ne x hq]
            exact hw.hooks q
        wraps := fun p hp => he.hasProcessor (hw.wraps p hp)
        names := hw.names.extends he }
  | addPipeline q name known =>
    exact
      { hw with
        wraps := fun p hp => by
          by_cases hn : p = w.pipelines.next
          · subst hn
            rw [w.pipelines.get_add_self]
            exact known
          · rw [w.pipelines.get_add_of_ne _ hn]
            exact hw.wraps p ((Store.has_add_iff hn).mp hp)
        owns := fun r p hp => he.hasPipeline (hw.owns r p hp)
        names := hw.names.extends he }
  | addRecorder className options sampler asked resource =>
    have added : ∀ {S : Recorder → Prop} (t : Ref Recorder),
        S { className, options, sampler, asked, resource } → S (w.recorders.get t) →
        S ((w.recorders.add { className, options, sampler, asked, resource }).get t) := by
      intro S t hnew hold
      by_cases ht : t = w.recorders.next
      · rw [ht, w.recorders.get_add_self]
        exact hnew
      · rw [w.recorders.get_add_of_ne _ ht]
        exact hold
    exact
      { hw with
        owns := fun r =>
          added (S := fun x => ∀ p ∈ x.pipelines, w.pipelines.Has p) r (by simp) (hw.owns r)
        names := hw.names.extends he
        exits := fun r hr => he.hasRecorder (hw.exits r hr)
        kept := fun r => added (S := Recorder.KeepsIssued) r nofun (hw.kept r) }
  | attach r p _ known =>
    exact
      { hw with
        owns := World.forall_withRecorder (w := w.entered _)
          (S := fun x => ∀ p ∈ x.pipelines, w.pipelines.Has p) hw.owns fun x hx t ht => by
            rcases List.mem_append.mp ht with ht | ht
            · exact hx t ht
            · obtain rfl := List.mem_singleton.mp ht
              exact known
        names := hw.names.extends he
        exits := fun t ht => he.hasRecorder (hw.exits t ht)
        kept := World.forall_withRecorder (w := w.entered _) hw.kept fun _ hx => hx }
  | addHook r known new =>
    exact
      { hw with
        names := hw.names.extends he
        exits := fun t ht => by
          rcases List.mem_append.mp ht with ht | ht
          · exact hw.exits t ht
          · obtain rfl := List.mem_singleton.mp ht
            exact known }
  | takeHook =>
    exact
      { hw with
        names := hw.names.extends he
        exits := fun t ht => hw.exits t (List.dropLast_subset _ ht) }
  | ask _ _ r request fault => exact (getTracer_leads hw r request fault).after.2
  | assign _ field v _ r =>
    exact hw.of_tracers (assign_standing r field v).toSameShape fun t =>
      w.recorders.map_get_modify (·.tracers) r t (f := (·.assign field v)) fun x =>
        assign_tracers x field v
  | startSpan r scope request =>
    have h := startSpan_after (w := w) r scope request
    exact hw.of_tracers h.toSameShape h.tracers
  | endSpan r span failed =>
    have h := endSpan_after (w := w) r span failed
    exact hw.of_tracers h.toSameShape h.tracers
  | flush p timeout => exact hw.of_tracers (flushBegun_shape p timeout) fun _ => rfl
  | close p => exact hw.of_tracers (closeBegun_shape p) fun _ => rfl
  | stop q =>
    exact hw.of_tracers (called_shape q none .shutdown (Processor.onShutdown_role _)) fun _ => rfl
  | answer => exact hw.of_tracers (entered_shape _) fun _ => rfl
  | shuttingDown r =>
    exact hw.of_tracers (shuttingDown_shape r) fun t =>
      w.recorders.map_get_modify (·.tracers) r t (f := fun x => { x with closed := true })
        fun _ => rfl
  | shutDown r =>
    exact
      { hw with
        names := hw.names.extends he
        exits := fun t ht => hw.exits t ((List.mem_filter.mp ht).1) }
  | install p => exact { hw with names := hw.names.extends he }

theorem Changes.inOrder (h : Changes P w w') (hw : w.InOrder P) : w'.InOrder P := by
  induction h with
  | refl => exact hw
  | tail _ h ih => exact h.inOrder ih

theorem World.inOrder_initial (telemetryOff : Bool) :
    World.InOrder P { telemetryOff } where
  hooks q := by simp [Store.get, Store.get?, default, Role.HooksSatisfy]
  wraps p hp := by simp [Store.Has, Store.size] at hp
  owns r p hp := by simp [Store.get, Store.get?, default] at hp
  names := { pipelines := nofun, providers := nofun, tracers := nofun }
  exits := nofun
  kept r := by simp [Recorder.KeepsIssued, Store.get, Store.get?, default]

theorem Reachable.inOrder (h : Reachable P w) : w.InOrder P := by
  obtain ⟨telemetryOff, h⟩ := h
  exact h.inOrder (World.inOrder_initial telemetryOff)

/-- What holds of worlds without objects and is kept by changes holds of every reachable world. -/
theorem Reachable.invariant {I : World → Prop} (initial : ∀ telemetryOff, I { telemetryOff })
    (step : ∀ {v v'}, Reachable P v → Change P v v' → I v → I v') (h : Reachable P w) : I w := by
  obtain ⟨telemetryOff, h⟩ := h
  induction h with
  | refl => exact initial telemetryOff
  | tail h h' ih => exact step ⟨telemetryOff, h⟩ h' ih

theorem Reachable.changes (h : Reachable P w) (h' : Changes P w w') : Reachable P w' := by
  obtain ⟨telemetryOff, h⟩ := h
  exact ⟨telemetryOff, h.trans h'⟩

end

end Tracing
