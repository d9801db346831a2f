/-
Under the immediate policy deferred marks are idle machinery: they are made,
entered, discharged and detached as ever, and nothing comes of it.

Discharging does not ask for the policy, so this is not one look at a branch.
It holds because recording an object is the only thing that makes a mark
pending, and the policy is asked before anything is recorded; because whatever
else happens to a registry leaves idle marks idle; and because to discharge an
idle mark changes nothing, not even in the registry. So it holds in a registry
that has lost marks to failed attaches too, and whether or not the table has
room for anything.
-/
import WriteBarrier.Proofs.FailedAttach
import WriteBarrier.Proofs.Permanence

namespace WriteBarrier

open WriteBarrier.Action (Keeps)

/-! ## Registries with nothing pending -/

namespace Registry

variable {σ : Type} [Tracker σ] {r : Registry} {t : Thread} {id : MarkId} {b : Barrier}

/-- No mark is pending, and those that are entered are attached. -/
structure Quiet (r : Registry) : Prop where
  idle : ∀ id, (r.mark id).pending = none
  entered_attached : ∀ entry ∈ r.entries, (r.mark entry.2).attached = true

namespace Quiet

theorem discharge {s : Registry × σ} (h : Quiet s.1) (id : MarkId) :
    (discharge b id).run s =
      ⟨if (s.1.mark id).attached then .ok () else .error .dischargingDetached, s, []⟩ := by
  cases hattached : (s.1.mark id).attached with
  | false => exact discharge_detached hattached
  | true => exact discharge_idle hattached (h.idle id)

theorem flushAll {s : Registry × σ} (h : Quiet s.1) : (flushAll b).run s = ⟨.ok 0, s, []⟩ := by
  exact flushAll_idle h.entered_attached fun entry _ => h.idle entry.2

theorem enter (h : Quiet r) (t : Thread) : Quiet (r.enter t) := by
  refine ⟨fun id => ?_, stable_entered_attached.enter r t h.entered_attached⟩
  by_cases hnew : id = r.marks.size
  · rw [hnew, mark_enter]
  · rw [mark_enter_of_ne hnew]
    exact h.idle id

theorem leave (h : Quiet r) (hentry : (t, id) ∈ r.entries) :
    Quiet ((r.erase t).setMark id { r.mark id with attached := false }) := by
  refine ⟨fun j => ?_, stable_entered_attached.leave r t id h.entered_attached hentry⟩
  by_cases hj : j = id
  · subst hj
    have hlt : j < (r.erase t).marks.size := r.ids_lt _ hentry
    rw [mark_setMark hlt]
    exact h.idle j
  · rw [mark_setMark_of_ne hj, mark_erase]
    exact h.idle j

theorem keeps_unregister (t : Thread) : Keeps Quiet (unregister t) := by
  intro r h
  cases hget : r.get? t with
  | none =>
    rw [unregister_of_get?_eq_none hget]
    exact h
  | some id =>
    have hentry := get?_eq_some_iff.1 hget
    rw [unregister_ok hentry (h.idle id)]
    exact h.leave hentry

end Quiet

end Registry

/-! ## Barriers that mark at once, or not at all -/

theorem Barrier.perform_noBarrier {σ : Type} [Tracker σ] (c : Barrier.Call) :
    (Barrier.noBarrier.perform c : Action σ Unit) = pure () := by
  rw [perform_eq]
  cases c.target <;> rfl

namespace BarrierSet

open Registry (Quiet)

variable {s : BarrierSet} {b : Barrier} {table : CardTable} {m : Mutator} {e : Event}
  {options : Options} {covered : Region} {events : List Event}

theorem flush_of_quiet (h : Quiet s.registry) (m : Mutator) :
    (flush m).run s =
      ⟨if (s.registry.mark m.mark).attached then .ok () else .error .dischargingDetached, s, []⟩ := by
  simp [flush, Action.run_bind, onMarks, Quiet.discharge (s := (s.registry, s.table)) h]

theorem prepareForSafepoint_of_quiet (h : Quiet s.registry) :
    prepareForSafepoint.run s = ⟨.ok (), s, [.safepoint 0 s.numMutators]⟩ := by
  simp [prepareForSafepoint, Action.run_bind, onMarks, Quiet.flushAll (s := (s.registry, s.table)) h]

theorem call_noBarrier (h : s.barrier = .noBarrier) (c : Barrier.Call) :
    (call c).run s = ⟨.ok (), s, []⟩ := by
  simp [call, Action.run_bind, onTable, h, Barrier.perform_noBarrier]

/-- The barrier of the set is `b`, and no mark of it is pending. -/
structure Inert (b : Barrier) (s : BarrierSet) : Prop where
  barrier_eq : s.barrier = b
  quiet : Quiet s.registry

/-- An event of the runtime's threads: neither a store nor a change to the table. -/
def Event.OfThreads : Event → Prop
  | .call _ => False
  | .table _ => False
  | _ => True

namespace Inert

theorem of_create (h : create options covered = .ok s) : Inert s.barrier s := by
  obtain ⟨-, -, hregistry, -⟩ := create_eq_ok h
  refine ⟨rfl, ?_, ?_⟩ <;> simp [hregistry, Registry.empty, Registry.mark]

theorem keeps_attach (t : Thread) : Keeps (fun s => Inert b s ∧ s.table = table) (attach t) := by
  rintro s ⟨h, htable⟩
  cases hregistered : s.registry.isRegistered t with
  | false =>
    rw [attach_ok hregistered]
    exact ⟨⟨h.barrier_eq, h.quiet.enter t⟩, htable⟩
  | true =>
    rw [attach_error hregistered]
    exact ⟨⟨h.barrier_eq, h.quiet.enter t⟩, htable⟩

theorem keeps_flush (m : Mutator) : Keeps (fun s => Inert b s ∧ s.table = table) (flush m) := by
  intro s h
  rw [flush_of_quiet h.1.quiet]
  exact h

theorem keeps_detach (m : Mutator) : Keeps (fun s => Inert b s ∧ s.table = table) (detach m) := by
  refine Keeps.bind (Keeps.update fun s h => ⟨⟨h.1.barrier_eq, h.1.quiet⟩, h.2⟩) fun _ => ?_
  refine Keeps.bind (Keeps.report _) fun _ => Keeps.bind (keeps_flush m) fun _ => ?_
  exact fun s h => ⟨⟨h.1.barrier_eq, Quiet.keeps_unregister m.thread s.registry h.1.quiet⟩, h.2⟩

/-- The policy is asked first. -/
theorem deferInitialMark (h : Inert b s) (hb : b.policy = .immediate) (m : Mutator) (o : Region) :
    (deferInitialMark m o).run s = ⟨.ok (), s, []⟩ := by
  refine deferInitialMark_immediate ?_
  rw [policy, h.barrier_eq, hb]

/-- **What the threads do** leaves the table as it is, and the marks idle. -/
theorem keeps_step (hb : b.policy = .immediate) (he : e.OfThreads) :
    Keeps (fun s => Inert b s ∧ s.table = table) (step e) := by
  have hallocation : ∀ m o, Keeps (fun s => Inert b s ∧ s.table = table)
      (BarrierSet.deferInitialMark m o) := by
    intro m o s h
    rw [h.1.deferInitialMark hb]
    exact h
  cases e with
  | attach t => exact (keeps_attach t).bind fun m => Keeps.answer _
  | detach m => exact keeps_asMutator (keeps_detach m)
  | flush m => exact keeps_asMutator (keeps_flush m)
  | makeParsable m => exact keeps_asMutator (keeps_flush m)
  | fastAllocation m o => exact keeps_asMutator (hallocation m o)
  | slowAllocation m o => exact keeps_asMutator (hallocation m o)
  | safepoint =>
    refine keeps_finish fun s h => ?_
    rw [prepareForSafepoint_of_quiet h.1.quiet]
    exact h
  | call | table => exact he.elim

theorem step (h : Inert b s) (hb : b.policy = .immediate) (e : Event) :
    Inert b ((step e).run s).state := by
  by_cases he : e.OfThreads
  · exact (keeps_step hb he s ⟨h, rfl⟩).1
  · cases e with
    | call c => exact keeps_finish (Keeps.bind (Keeps.view _) fun _ _ h => ⟨h.barrier_eq, h.quiet⟩) s h
    | table te => exact keeps_finish (fun _ h => ⟨h.barrier_eq, h.quiet⟩) s h
    | _ => exact absurd trivial he

theorem run (h : Inert b s) (hb : b.policy = .immediate) (events : List Event) :
    Inert b (s.run events) := by
  induction events generalizing s with
  | nil => exact h
  | cons e rest ih => exact ih (h.step hb e)

/-- Without a barrier a store is nothing either: the table stays as it is. -/
theorem table_run (h : Inert .noBarrier s) (hevents : ∀ te, Event.table te ∉ events) :
    (s.run events).table = s.table := by
  induction events generalizing s with
  | nil => rfl
  | cons e rest ih =>
    have hstep : ((BarrierSet.step e).run s).state.table = s.table := by
      by_cases he : e.OfThreads
      · exact (keeps_step rfl he s ⟨h, rfl⟩).2
      · cases e with
        | call c => simp [BarrierSet.step, finish, call_noBarrier h.barrier_eq c]
        | table te => exact absurd List.mem_cons_self (hevents te)
        | _ => exact absurd trivial he
    have hrest : ∀ te, Event.table te ∉ rest := fun te hte =>
      hevents te (List.mem_cons_of_mem _ hte)
    rw [run_cons, ih (h.step rfl e) hrest, hstep]

end Inert

theorem policy_of_options
    (h : s.options.barrier = .noBarrier ∨ s.options.reduceInitialCardMarks = false) :
    s.barrier.policy = .immediate := by
  unfold barrier
  obtain h | h := h
  · rw [h]
    rfl
  · cases s.options.barrier with
    | noBarrier => rfl
    | cardTable => simp [h, Barrier.policy]

/-- **Under the immediate policy deferred marks are inert.** Take a set without a barrier, or one that
marks new objects at once, and any run of it, whatever ends in a fault, over a table with room or
without. No mark is pending, and no elision is granted. Allocations of any object do nothing at all,
and so do discharges; a safepoint counts none; nothing that the threads do changes a card. Without a
barrier stores do nothing either, wherever they go, and the table stays clean. -/
theorem immediate_policy_is_inert {s₀ : BarrierSet} (hcreate : create options covered = .ok s₀)
    (himmediate : options.barrier = .noBarrier ∨ options.reduceInitialCardMarks = false)
    (events : List Event) :
    let s := s₀.run events
    s.policy = .immediate ∧ s.canElideFastPath = false ∧
    (∀ id, (s.registry.mark id).pending = none) ∧
    (∀ m ∈ s.mutators, ∀ e o, e.allocation? = some (m, o) → (step e).run s = ⟨.ok .done, s, []⟩) ∧
    (∀ m, ((flush m).run s).state = s ∧ ((makeParsable m).run s).state = s) ∧
    prepareForSafepoint.run s = ⟨.ok (), s, [.safepoint 0 s.numMutators]⟩ ∧
    (∀ e, e.OfThreads → ((step e).run s).state.table = s.table) ∧
    (options.barrier = .noBarrier → (∀ c, (call c).run s = ⟨.ok (), s, []⟩) ∧
      ((∀ te, .table te ∉ events) → ∀ i, s.table.hasDirty i = false)) := by
  intro s
  obtain ⟨htable, hoptions, -, -⟩ := create_eq_ok hcreate
  have hb : s₀.barrier.policy = .immediate := policy_of_options (by rwa [hoptions])
  have hstart : Inert s₀.barrier s₀ := .of_create hcreate
  have h : Inert s₀.barrier s := hstart.run hb events
  have hpolicy : s.policy = .immediate := by rw [policy, h.barrier_eq, hb]
  refine ⟨hpolicy, ?_, h.quiet.idle, fun m hm e o he => ?_, fun m => ?_,
    prepareForSafepoint_of_quiet h.quiet, fun e he => (Inert.keeps_step hb he s ⟨h, rfl⟩).2,
    fun hnone => ?_⟩
  · rw [canElideFastPath, Bool.eq_false_iff, Ne, ← Barrier.policy_eq_deferred_iff]
    intro hdeferred
    rw [policy, hdeferred] at hpolicy
    cases hpolicy
  · rw [step_of_allocation he, asMutator_of_mem hm]
    exact finish_ok (deferInitialMark_immediate hpolicy)
  · rw [makeParsable, flush_of_quiet h.quiet]
    exact ⟨rfl, rfl⟩
  · have hnoBarrier : s₀.barrier = .noBarrier := by rw [barrier, hoptions, hnone]
    rw [hnoBarrier] at h hstart
    refine ⟨call_noBarrier h.barrier_eq, fun hevents i => ?_⟩
    rw [hstart.table_run hevents]
    exact (CardTable.create_eq_ok htable).2 i

/-- A set without a barrier that is told to defer all the same, over a table whose rounding wraps: a
thread attaches twice, reports an object outside the heap, and leaves. -/
theorem immediate_policy_is_inert_failed_attach :
    ∃ s₀, create { Options.default with barrier := .noBarrier, logBytesInCard := 63 }
        ⟨⟨0⟩, ⟨0xffffffffffffff00⟩, by decide⟩ = .ok s₀ ∧ ¬ s₀.table.Fits ∧
      s₀.options.barrier = .noBarrier ∧ s₀.options.reduceInitialCardMarks = true ∧
      let m : Mutator := ⟨⟨1⟩, 0⟩
      let outside : Region := ⟨⟨0xfffffffffffffff0⟩, ⟨0xffffffffffffffff⟩, by decide⟩
      let events : List Event := [.attach ⟨1⟩, .attach ⟨1⟩, .slowAllocation m outside,
        .call (.invalidate outside)]
      let s := s₀.run events
      m ∈ s.mutators ∧ (step (.fastAllocation m outside)).run s = ⟨.ok .done, s, []⟩ ∧
        ((step (.detach m)).run s).state.table = s.table ∧ ∀ i, s.table.hasDirty i = false := by
  have hcreate : create { Options.default with barrier := .noBarrier, logBytesInCard := 63 }
      ⟨⟨0⟩, ⟨0xffffffffffffff00⟩, by decide⟩ = .ok _ := rfl
  refine ⟨_, hcreate, by decide, rfl, rfl, ?_⟩
  intro m outside events s
  have hm : m ∈ s.mutators := by decide +kernel
  obtain ⟨-, -, -, hallocation, -, -, hthreads, hnone⟩ :=
    immediate_policy_is_inert hcreate (.inl rfl) events
  exact ⟨hm, hallocation m hm _ outside rfl, hthreads _ trivial, (hnone rfl).2 (by simp [events])⟩

end BarrierSet

end WriteBarrier
