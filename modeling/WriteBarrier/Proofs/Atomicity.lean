/-
Faults change nothing, and allocations change no more than they have to.

An allocation under the deferred policy does three things: it checks the
object, discharges the one before, and records the new one. Each of them can
fail by itself. Together they cannot fail halfway, as long as the registry and
the mutators correspond: the check comes first, and what passes it is
discharged and recorded without fail. That recording does not fail needs no
correspondence. What is recorded into was discharged just before, and that
leaves it idle in any state.
-/
import WriteBarrier.Proofs.Conservation

namespace WriteBarrier.BarrierSet

open Registry (Discharged OwedBy)

variable {s s' : BarrierSet} {e : Event} {m : Mutator} {o : Region} {i : Nat}
  {marks : Registry × CardTable} {options : Options} {covered : Region} {events : List Event}

/-! ## Taking on an object -/

/-- The state after a mutator took on an object, and all that has changed: the cards of the object it
owed before, which are dirty now, and what it owes. -/
structure TakesOn (s : BarrierSet) (m : Mutator) (o : Region) (s' : BarrierSet) : Prop where
  pending_eq : s'.pending m = some o
  attached_eq : (s'.registry.mark m.mark).attached = (s.registry.mark m.mark).attached
  hasDirty_iff : ∀ i, s'.table.hasDirty i = true ↔
    s.table.hasDirty i = true ∨ ∃ previous, s.pending m = some previous ∧ s.table.Touches i previous
  mark_eq : ∀ id, id ≠ m.mark → s'.registry.mark id = s.registry.mark id
  mark_eq_of_mem : ∀ m' ∈ s.mutators, m' ≠ m →
    s'.registry.mark m'.mark = s.registry.mark m'.mark
  size_eq : s'.registry.marks.size = s.registry.marks.size
  entries_eq : s'.registry.entries = s.registry.entries
  mutators_eq : s'.mutators = s.mutators
  options_eq : s'.options = s.options
  layout_eq : s'.table.toCardLayout = s.table.toCardLayout

theorem Coherent.owedBy_mark_iff (h : Coherent s) (hm : m ∈ s.mutators) :
    OwedBy s.barrier (s.registry, s.table) [m.mark] i ↔
      ∃ previous, s.pending m = some previous ∧ s.table.Touches i previous := by
  simp only [OwedBy, List.mem_singleton, exists_eq_left]
  refine exists_congr fun previous => and_congr_right fun hp => ?_
  exact h.dirties_iff hm hp

theorem takesOn_owing (h : Coherent s) (hm : m ∈ s.mutators)
    (hd : Discharged s.barrier [m.mark] (s.registry, s.table) marks) :
    TakesOn s m o ((s.withMarks marks).owing m o) := by
  have hlt : m.mark < marks.1.marks.size := by
    rw [hd.size_eq]
    exact h.mark_lt hm
  have hself : ((s.withMarks marks).owing m o).registry.mark m.mark =
      { s.registry.mark m.mark with pending := some o } := by
    unfold owing withMarks
    rw [Registry.mark_setMark hlt, hd.mark_eq]
    simp [DeferredMark.settled]
  have hother : ∀ id, id ≠ m.mark →
      ((s.withMarks marks).owing m o).registry.mark id = s.registry.mark id := by
    intro id hid
    unfold owing withMarks
    rw [Registry.mark_setMark_of_ne hid, hd.mark_eq]
    simp [hid]
  exact {
    pending_eq := by rw [pending, hself]
    attached_eq := by rw [hself]
    hasDirty_iff := fun i =>
      (hd.marked.hasDirty_iff i).trans (or_congr Iff.rfl (h.owedBy_mark_iff hm))
    mark_eq := hother
    mark_eq_of_mem := fun m' hm' hne =>
      hother m'.mark fun heq => hne (h.eq_of_mark_eq hm' hm heq)
    size_eq := (Registry.size_marks_setMark _ _ _).trans hd.size_eq
    entries_eq := hd.entries_eq
    mutators_eq := rfl
    options_eq := rfl
    layout_eq := hd.marked.layout }

/-! ## Allocations -/

/-- **The faults of an allocation, in any state.** The object is not covered; the mutator's mark is
detached; or what it owes cannot be marked. -/
theorem deferInitialMark_fault {f : Fault} (h : ((deferInitialMark m o).run s).answer = .error f) :
    f = .regionNotCovered o s.table.covered ∨ f = .dischargingDetached ∨
      ∃ owed, s.pending m = some owed ∧ (f = .regionNotCovered owed s.table.covered ∨
        f = .storeOutOfBounds 0 (s.table.card owed.start.toNat)) := by
  cases hp : s.policy with
  | immediate =>
    rw [deferInitialMark_immediate hp] at h
    cases h
  | deferred =>
    by_cases ho : s.table.covered.containsRegion o = true
    · right
      rcases hflush : (flush m).run s with ⟨a | a, s', log⟩
      · -- The discharge before failed.
        have hfault : ((Registry.discharge s.barrier m.mark).run (s.registry, s.table)).answer =
            .error a := congrArg Outcome.answer ((flush_run m s).symm.trans hflush)
        simp [deferInitialMark, Action.run_bind, hp, onTable, CardLayout.checkRegion_eq_ok ho,
          hflush] at h
        subst h
        rcases Registry.discharge_fault hfault with hdetached | ⟨owed, howed, hmarking⟩
        · exact .inl hdetached
        · exact .inr ⟨owed, howed, Barrier.invalidate_fault hmarking⟩
      · have hrecord := Registry.record_ok (o := o) (pending_flush_ok hflush)
        simp [deferInitialMark, Action.run_bind, hp, onTable, CardLayout.checkRegion_eq_ok ho,
          hflush, onRegistry, hrecord] at h
    · rw [deferInitialMark_error hp ho] at h
      cases h
      exact .inl rfl

/-- What recording asserts holds wherever an allocation comes to it. -/
theorem deferInitialMark_ne_stillOwing (owed : Region) :
    ((deferInitialMark m o).run s).answer ≠ .error (.stillOwing owed) := by
  intro h
  rcases deferInitialMark_fault h with h | h | ⟨_, _, h | h⟩ <;> cases h

theorem allocation_refused (hm : m ∈ s.mutators) (hp : s.policy = .deferred)
    (he : e.allocation? = some (m, o)) (ho : ¬ s.table.covered.containsRegion o = true) :
    (step e).run s = ⟨.error (.regionNotCovered o s.table.covered), s, []⟩ := by
  rw [step_of_allocation he, asMutator_of_mem hm]
  exact finish_error (deferInitialMark_error hp ho)

/-- What is pending never stands in the way of an allocation. -/
theorem allocation_taken (h : Coherent s) (hm : m ∈ s.mutators) (hp : s.policy = .deferred)
    (he : e.allocation? = some (m, o)) (ho : s.table.covered.containsRegion o = true) :
    ∃ s' log, (step e).run s = ⟨.ok .done, s', log⟩ ∧ TakesOn s m o s' := by
  rcases deferInitialMark_ok h hm hp ho with ⟨marks, log, hrun, hd⟩
  refine ⟨_, log, ?_, takesOn_owing h hm hd⟩
  rw [step_of_allocation he, asMutator_of_mem hm]
  exact finish_ok hrun

/-- **Faults are atomic.** In every state that a run reaches in which only threads that are not
attached attach, an event that ends in a fault leaves the state as it was, all of it. Under the
deferred policy the allocations of a mutator are faults exactly where the object is not covered,
whatever is pending; and one that is no fault dirties the cards of the object owed before, puts the new
one in its place, and changes nothing else. -/
theorem faults_are_atomic {s₀ : BarrierSet} (hcreate : create options covered = .ok s₀)
    (hfits : s₀.table.Fits) (hfresh : Throughout FreshAttach s₀ events) :
    let s := s₀.run events
    (∀ e, FreshAttach s e → ∀ f, ((step e).run s).answer = .error f → ((step e).run s).state = s) ∧
    ∀ m ∈ s.mutators, s.policy = .deferred → ∀ o e, e.allocation? = some (m, o) →
      ((∃ f, ((step e).run s).answer = .error f) ↔ ¬ s.table.covered.containsRegion o = true) ∧
      (s.table.covered.containsRegion o = true →
        ((step e).run s).answer = .ok .done ∧ TakesOn s m o ((step e).run s).state) := by
  intro s
  have h : Coherent s := (Coherent.of_create hcreate hfits).run hfresh
  refine ⟨fun e he f hf => ?_, fun m hm hp o e he => ?_⟩
  · rcases step_ends h he with ⟨a, s', log, hrun, hends⟩
    rw [hrun] at hf ⊢
    subst hf
    exact hends.eq_of_error
  · by_cases ho : s.table.covered.containsRegion o = true
    · rcases allocation_taken h hm hp he ho with ⟨s', log, hrun, htaken⟩
      simp [hrun, ho, htaken]
    · simp [allocation_refused hm hp he ho, ho]

/-- Two threads, and an object pending. The first thread's next object reaches past the end and is
refused, with all left as it was; an empty one at the very end is taken on, and the cards of the
pending one are dirty. -/
theorem faults_are_atomic_two_allocations :
    ∃ s₀, create .default ⟨⟨0x1000⟩, ⟨0x1500⟩, by decide⟩ = .ok s₀ ∧ s₀.table.Fits ∧
      let m : Mutator := ⟨⟨1⟩, 0⟩
      let o : Region := ⟨⟨0x1000⟩, ⟨0x1210⟩, by decide⟩
      let refused : Event := .fastAllocation m ⟨⟨0x1400⟩, ⟨0x1501⟩, by decide⟩
      let taken : Event := .slowAllocation m ⟨⟨0x1500⟩, ⟨0x1500⟩, by decide⟩
      let events : List Event := [.attach ⟨1⟩, .attach ⟨2⟩, .fastAllocation m o]
      let s := s₀.run events
      Throughout FreshAttach s₀ events ∧ m ∈ s.mutators ∧ s.policy = .deferred ∧
        s.pending m = some o ∧ ((step refused).run s).state = s ∧
        ((step taken).run s).state.table.hasDirty 1 = true := by
  have hcreate : create .default ⟨⟨0x1000⟩, ⟨0x1500⟩, by decide⟩ = .ok _ := rfl
  refine ⟨_, hcreate, by decide, ?_⟩
  intro m o refused taken events
  have h := @faults_are_atomic _ _ events _ hcreate (by decide) ⟨rfl, rfl, trivial, trivial⟩
  have hallocation := h.2 m (by decide) rfl
  obtain ⟨f, hrefused⟩ := (hallocation _ refused rfl).1.2 (by decide)
  obtain ⟨-, htaken⟩ := (hallocation _ taken rfl).2 (by decide)
  refine ⟨⟨rfl, rfl, trivial, trivial⟩, by decide, rfl, rfl, h.1 refused trivial f hrefused, ?_⟩
  rw [htaken.hasDirty_iff]
  exact .inr ⟨o, rfl, 0x1200, by decide, by decide, by decide⟩

end WriteBarrier.BarrierSet
