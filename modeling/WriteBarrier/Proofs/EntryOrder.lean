/-
The order of a registry's entries does not show in a run.

The entries are kept in the order of attachment, and the results about runs
have that order in them. A map keeps no order: between any two events the
entries may change places. Nothing that an event does or answers depends on
it, since all but one go through the entries by the thread's name. The one is
the safepoint, and it needs the registry and the mutators to correspond: where
one of its discharges failed, the order would decide which came before.
-/
import WriteBarrier.Proofs.FlushOrder

namespace WriteBarrier

/-! ## Operations that do not tell related states apart -/

/-- The same answer, states that are related, and the same notices in some order. -/
structure Outcome.Agrees {σ α : Type} (related : σ → σ → Prop) (o o' : Outcome σ α) : Prop where
  answer_eq : o'.answer = o.answer
  state : related o.state o'.state
  log_perm : o'.log.Perm o.log

namespace Action

variable {σ τ α β : Type} {related : σ → σ → Prop}

/-- On related states the operation comes to outcomes that agree. -/
def Respects (related : σ → σ → Prop) (action : Action σ α) : Prop :=
  ∀ s s', related s s' → Outcome.Agrees related (action.run s) (action.run s')

theorem Respects.answer (a : α) : Respects related (pure a : Action σ α) :=
  fun _ _ h => ⟨rfl, h, .nil⟩

theorem Respects.fault (f : Fault) : Respects related (fault f : Action σ α) :=
  fun _ _ h => ⟨rfl, h, .nil⟩

theorem Respects.report (n : Notice) : Respects related (report n : Action σ Unit) :=
  fun _ _ h => ⟨rfl, h, .refl _⟩

theorem Respects.view {f : σ → α} (hf : ∀ s s', related s s' → f s' = f s) :
    Respects related (view f) :=
  fun s s' h => ⟨congrArg Except.ok (hf s s' h), h, .nil⟩

theorem Respects.inspect {f : σ → Except Fault α} (hf : ∀ s s', related s s' → f s' = f s) :
    Respects related (inspect f) :=
  fun s s' h => ⟨hf s s' h, h, .nil⟩

theorem Respects.update {f : σ → σ} (hf : ∀ s s', related s s' → related (f s) (f s')) :
    Respects related (update f) :=
  fun s s' h => ⟨rfl, hf s s' h, .nil⟩

theorem Respects.bind {x : Action σ α} {f : α → Action σ β} (hx : Respects related x)
    (hf : ∀ a, Respects related (f a)) : Respects related (x >>= f) := by
  intro s s' h
  obtain ⟨hanswer, hstate, hlog⟩ := hx s s' h
  rw [run_bind, run_bind]
  rcases hrun : x.run s with ⟨a | a, s₁, log₁⟩ <;>
    rcases hrun' : x.run s' with ⟨a' | a', s₁', log₁'⟩ <;>
    rw [hrun, hrun'] at hanswer hstate hlog <;> cases hanswer
  · exact ⟨rfl, hstate, hlog⟩
  · obtain ⟨hanswer, hrest, hlog'⟩ := hf a s₁ s₁' hstate
    exact ⟨hanswer, hrest, hlog.append hlog'⟩

/-- On a part: the parts of related states are related, and stay so put back. -/
theorem Respects.within {relatedParts : τ → τ → Prop} {part : σ → τ} {replace : σ → τ → σ}
    {action : Action τ α} (h : Respects relatedParts action)
    (hpart : ∀ s s', related s s' → relatedParts (part s) (part s'))
    (hreplace : ∀ s s' p p', related s s' → relatedParts p p' →
      related (replace s p) (replace s' p')) : Respects related (within part replace action) := by
  intro s s' hs
  obtain ⟨hanswer, hstate, hlog⟩ := h _ _ (hpart s s' hs)
  exact ⟨hanswer, hreplace s s' _ _ hs hstate, hlog⟩

end Action

open WriteBarrier.Action (Respects)

/-! ## Registries -/

namespace Registry

variable {σ α : Type} {r r' r'' : Registry} {t : Thread} {id : MarkId}

namespace Reordered

theorem refl (r : Registry) : Reordered r r := ⟨rfl, .refl _⟩

theorem trans (h : Reordered r r') (h' : Reordered r' r'') : Reordered r r'' :=
  ⟨h'.marks_eq.trans h.marks_eq, h'.entries_perm.trans h.entries_perm⟩

theorem erase (h : Reordered r r') (t : Thread) : Reordered (r.erase t) (r'.erase t) :=
  ⟨h.marks_eq, h.entries_perm.filter _⟩

theorem enter (h : Reordered r r') (t : Thread) : Reordered (r.enter t) (r'.enter t) := by
  refine ⟨?_, ?_⟩
  · simp only [Registry.enter, h.marks_eq]
  · simp only [Registry.enter, h.marks_eq]
    exact (h.erase t).entries_perm.append_right _

theorem setMark (h : Reordered r r') (id : MarkId) (m : DeferredMark) :
    Reordered (r.setMark id m) (r'.setMark id m) := by
  refine ⟨?_, h.entries_perm⟩
  simp only [Registry.setMark, h.marks_eq]

theorem isRegistered_eq (h : Reordered r r') (t : Thread) : r'.isRegistered t = r.isRegistered t := by
  rw [isRegistered, isRegistered, h.get?_eq]

theorem get_eq (h : Reordered r r') (t : Thread) : r'.get t = r.get t := by
  rw [get, get, h.get?_eq]

end Reordered

theorem respects_register (t : Thread) : Respects Reordered (register t) := by
  refine Respects.bind (.view fun _ _ h => h.isRegistered_eq t) fun taken => ?_
  refine Respects.bind (.view fun _ _ h => congrArg Array.size h.marks_eq) fun id => ?_
  refine Respects.bind (.update fun _ _ h => h.enter t) fun _ => ?_
  cases taken with
  | false => exact .answer id
  | true => exact .fault _

theorem respects_unregister (t : Thread) : Respects Reordered (unregister t) := by
  refine Respects.bind (.inspect fun _ _ h => h.get_eq t) fun id => ?_
  refine Respects.bind (.update fun _ _ h => h.erase t) fun _ => ?_
  refine Respects.bind (.view fun _ _ h => h.mark_eq id) fun m => ?_
  cases m.pending.isSome with
  | false => exact .update fun _ _ h => h.setMark id _
  | true => exact .fault _

theorem respects_takePending (id : MarkId) : Respects Reordered (takePending id) := by
  refine Respects.bind (.view fun _ _ h => h.mark_eq id) fun m => ?_
  cases m.attached with
  | false => exact .fault _
  | true => exact Respects.bind (.update fun _ _ h => h.setMark id _) fun _ => .answer _

theorem respects_record (id : MarkId) (o : Region) : Respects Reordered (record id o) := by
  refine Respects.bind (.view fun _ _ h => h.mark_eq id) fun m => ?_
  cases m.pending with
  | none => exact .update fun _ _ h => h.setMark id _
  | some owed => exact .fault _

/-- Registries in another order, beside the same tracker. -/
def ReorderedBeside (s s' : Registry × σ) : Prop := Reordered s.1 s'.1 ∧ s'.2 = s.2

theorem respects_discharge [Tracker σ] (b : Barrier) (id : MarkId) :
    Respects ReorderedBeside (discharge b id : Action (Registry × σ) Unit) := by
  have htake : Respects ReorderedBeside
      (onRegistry (takePending id) : Action (Registry × σ) (Option Region)) :=
    (respects_takePending id).within (fun _ _ h => h.1) fun _ _ _ _ h hregistry => ⟨hregistry, h.2⟩
  refine htake.bind fun pending => ?_
  cases pending with
  | none => exact .answer ()
  | some o =>
    refine Respects.bind (.report _) fun _ => ?_
    have hsame : Respects (fun t t' : σ => t' = t) (b.writeRegion o) := by
      rintro t _ rfl
      exact ⟨rfl, rfl, .refl _⟩
    exact hsame.within (fun _ _ h => h.2) fun _ _ _ _ h htracker => ⟨h.1, htracker⟩

end Registry

/-! ## Barrier sets -/

namespace BarrierSet

open Registry (Reordered ReorderedBeside)

variable {α : Type} {s s' s₁ : BarrierSet} {e : Event} {m : Mutator} {events : List Event}
  {answers : List (Except Fault Reply)} {options : Options} {covered : Region}

/-- The same barrier set, with the entries of its registry in another order. -/
structure Alike (s s' : BarrierSet) : Prop where
  options_eq : s'.options = s.options
  table_eq : s'.table = s.table
  registry : Reordered s.registry s'.registry
  mutators_eq : s'.mutators = s.mutators

namespace Alike

theorem refl (s : BarrierSet) : Alike s s := ⟨rfl, rfl, .refl _, rfl⟩

theorem trans (h : Alike s s₁) (h' : Alike s₁ s') : Alike s s' :=
  ⟨h'.options_eq.trans h.options_eq, h'.table_eq.trans h.table_eq, h.registry.trans h'.registry,
    h'.mutators_eq.trans h.mutators_eq⟩

theorem barrier_eq (h : Alike s s') : s'.barrier = s.barrier := by
  rw [barrier, barrier, h.options_eq]

theorem policy_eq (h : Alike s s') : s'.policy = s.policy := congrArg Barrier.policy h.barrier_eq

theorem pending_eq (h : Alike s s') (m : Mutator) : s'.pending m = s.pending m := by
  rw [pending, pending, h.registry.mark_eq]

theorem numMutators_eq (h : Alike s s') : s'.numMutators = s.numMutators :=
  h.registry.entries_perm.length_eq

end Alike

theorem respects_onRegistry {action : Action Registry α} (h : Respects Reordered action) :
    Respects Alike (onRegistry action) :=
  h.within (fun _ _ hs => hs.registry) fun _ _ _ _ hs hregistry => { hs with registry := hregistry }

theorem respects_onTable (action : Action CardTable α) : Respects Alike (onTable action) := by
  intro s s' h
  simp only [onTable, Action.run_within, h.table_eq]
  exact ⟨rfl, { h with table_eq := rfl }, .refl _⟩

theorem respects_flush (m : Mutator) : Respects Alike (flush m) := by
  refine Respects.bind (.view fun _ _ h => h.barrier_eq) fun b => ?_
  refine (Registry.respects_discharge b m.mark).within (fun _ _ h => ⟨h.registry, h.table_eq⟩) ?_
  exact fun _ _ _ _ h hmarks => { h with registry := hmarks.1, table_eq := hmarks.2 }

theorem respects_attach (t : Thread) : Respects Alike (attach t) := by
  refine (respects_onRegistry (Registry.respects_register t)).bind fun id => ?_
  refine Respects.bind (.report _) fun _ => Respects.bind (.update fun _ _ h => ?_) fun _ => .answer _
  exact { h with mutators_eq := by rw [h.mutators_eq] }

theorem respects_detach (m : Mutator) : Respects Alike (detach m) := by
  refine Respects.bind (.update fun _ _ h => ?_) fun _ => Respects.bind (.report _) fun _ => ?_
  · exact { h with mutators_eq := by rw [h.mutators_eq] }
  · exact (respects_flush m).bind fun _ =>
      respects_onRegistry (Registry.respects_unregister m.thread)

theorem respects_deferInitialMark (m : Mutator) (o : Region) :
    Respects Alike (deferInitialMark m o) := by
  refine Respects.bind (.view fun _ _ h => h.policy_eq) fun p => ?_
  cases p with
  | immediate => exact .answer ()
  | deferred =>
    refine (respects_onTable _).bind fun _ => (respects_flush m).bind fun _ => ?_
    exact respects_onRegistry (Registry.respects_record m.mark o)

theorem respects_finish {action : Action BarrierSet Unit} (h : Respects Alike action) :
    Respects Alike (finish action) :=
  h.bind fun _ => .answer _

theorem respects_asMutator {action : Action BarrierSet Unit} (h : Respects Alike action) :
    Respects Alike (asMutator m action) := by
  refine Respects.bind (.view fun _ _ hs => by rw [hs.mutators_eq]) fun live => ?_
  cases live with
  | false => exact .answer _
  | true => exact respects_finish h

/-- **All events but the safepoint** do the same in any order, in any state. -/
theorem respects_step (he : e ≠ .safepoint) : Respects Alike (step e) := by
  cases e with
  | attach t => exact (respects_attach t).bind fun m => .answer _
  | detach m => exact respects_asMutator (respects_detach m)
  | flush m => exact respects_asMutator (respects_flush m)
  | makeParsable m => exact respects_asMutator (respects_flush m)
  | fastAllocation m o => exact respects_asMutator (respects_deferInitialMark m o)
  | slowAllocation m o => exact respects_asMutator (respects_deferInitialMark m o)
  | call c =>
    refine respects_finish (Respects.bind (.view fun _ _ h => h.barrier_eq) fun b => ?_)
    exact respects_onTable _
  | safepoint => exact absurd rfl he
  | table te => exact respects_finish (respects_onTable _)

/-! ## Safepoints -/

/-- **A safepoint of a coherent set ends alike in any order of its entries.** It succeeds, reports the
same discharges in some order and the same counts at the end, and leaves the same table and marks. -/
theorem safepoint_in_any_order (h : Coherent s) (halike : Alike s s') :
    ∃ t t' log log' discharged threads,
      prepareForSafepoint.run s = ⟨.ok (), t, log ++ [.safepoint discharged threads]⟩ ∧
      prepareForSafepoint.run s' = ⟨.ok (), t', log' ++ [.safepoint discharged threads]⟩ ∧
      Alike t t' ∧ log'.Perm log := by
  have hdischargeable := h.dischargeable_of_mem_entries
  obtain ⟨one, other, table, hrun, hrun', hsame, -, -⟩ :=
    Registry.flushAll_reordered (b := s.barrier) (t := s.table) halike.registry
      (fun entry hentry => (hdischargeable entry hentry).attached)
      fun entry hentry => (hdischargeable entry hentry).canMeet h.fits
  have hafter : Alike (s.withMarks (one, table)) (s'.withMarks (other, table)) :=
    ⟨halike.options_eq, rfl, hsame, halike.mutators_eq⟩
  have hsafepoint := prepareForSafepoint_of_flushAll hrun
  rw [← halike.table_eq, ← halike.barrier_eq] at hrun'
  have hsafepoint' := prepareForSafepoint_of_flushAll hrun'
  rw [hafter.numMutators_eq] at hsafepoint'
  exact ⟨_, _, _, _, _, _, hsafepoint, hsafepoint', hafter,
    halike.registry.notices_perm halike.registry.ids_perm⟩

/-- On a coherent set no event tells the order. -/
theorem step_agrees (h : Coherent s) (halike : Alike s s') (e : Event) :
    Outcome.Agrees Alike ((step e).run s) ((step e).run s') := by
  by_cases he : e = .safepoint
  · subst he
    obtain ⟨t, t', log, log', discharged, threads, hrun, hrun', hafter, hperm⟩ :=
      safepoint_in_any_order h halike
    rw [show step .safepoint = finish prepareForSafepoint from rfl, finish_ok hrun, finish_ok hrun']
    exact ⟨rfl, hafter, hperm.append_right _⟩
  · exact respects_step he s s' halike

/-! ## Runs -/

/-- A run in which the entries may change places before every event: what its events answer, and where
it ends. -/
inductive RunsTo : BarrierSet → List Event → List (Except Fault Reply) → BarrierSet → Prop
  | done {s s' : BarrierSet} (halike : Alike s s') : RunsTo s [] [] s'
  | step {s s₁ s' : BarrierSet} {e : Event} {events : List Event}
      {answers : List (Except Fault Reply)} (halike : Alike s s₁)
      (hrest : RunsTo ((BarrierSet.step e).run s₁).state events answers s') :
      RunsTo s (e :: events) (((BarrierSet.step e).run s₁).answer :: answers) s'

/-- The order of attachment is one that the entries may have throughout. -/
theorem runsTo_run (s : BarrierSet) (events : List Event) :
    RunsTo s events (s.answers events) (s.run events) := by
  induction events generalizing s with
  | nil => exact .done (.refl s)
  | cons e rest ih => exact .step (.refl s) (ih _)

theorem RunsTo.agrees (hrun : RunsTo s₁ events answers s') (h : Coherent s) (halike : Alike s s₁)
    (hfresh : Throughout FreshAttach s events) :
    answers = s.answers events ∧ Alike (s.run events) s' := by
  induction hrun generalizing s with
  | done hlast => exact ⟨rfl, halike.trans hlast⟩
  | step hshuffled _ ih =>
    obtain ⟨hanswer, hstate, -⟩ := step_agrees h (halike.trans hshuffled) _
    obtain ⟨hanswers, hend⟩ := ih (h.step hfresh.1) hstate hfresh.2
    exact ⟨by rw [BarrierSet.answers, hanswer, hanswers], hend⟩

/-- **Runs do not tell the order of the entries.** Let them change places before every event of a run
in which only threads that are not attached attach. Every event answers what it does in the order of
attachment, faults included, and the run ends in the same state but for the order: with the same
options, table and mutators, and every thread entered with the same mark, which owes the same. -/
theorem runs_in_any_order {s₀ : BarrierSet} (hcreate : create options covered = .ok s₀)
    (hfits : s₀.table.Fits) (hfresh : Throughout FreshAttach s₀ events)
    (hrun : RunsTo s₀ events answers s') :
    answers = s₀.answers events ∧ Alike (s₀.run events) s' ∧
      (∀ t, s'.registry.get? t = (s₀.run events).registry.get? t) ∧
      ∀ m, s'.pending m = (s₀.run events).pending m := by
  obtain ⟨hanswers, hend⟩ := hrun.agrees (.of_create hcreate hfits) (.refl s₀) hfresh
  exact ⟨hanswers, hend, hend.registry.get?_eq, hend.pending_eq⟩

end BarrierSet

end WriteBarrier
