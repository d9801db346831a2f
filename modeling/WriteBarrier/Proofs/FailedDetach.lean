/-
What is left when a thread is taken out of the registry while it owes an object:
a fault, and a registry that has lost the thread's entry but kept its mark.

The entry goes before the mark is looked at, and the fault does not bring it
back. From then on no discharge of all marks comes to this one, in whatever
order, and its mutator cannot leave: it is discharged as ever, and then there is
no entry of its thread to take out.
-/
import WriteBarrier.Proofs.FailedAttach
import WriteBarrier.Proofs.FlushOrder

namespace WriteBarrier

open WriteBarrier.Action (Keeps)

/-! ## Marks that no entry leads to -/

namespace Registry

variable {b : Barrier} {r : Registry} {t : Thread} {id : MarkId} {table : CardTable}

theorem Displaced.mark_flushAll (h : Displaced r id) :
    ((flushAll b).run (r, table)).state.1.mark id = r.mark id := by
  rw [flushAll_run]
  refine keeps_dischargeEach (P := fun r' => r'.mark id = r.mark id) ?_ (r, table) rfl
  refine List.forall_mem_map.2 fun entry hentry r' hr' _ => ?_
  rw [mark_setMark_of_ne (h.not_entered entry hentry).symm]
  exact hr'

theorem Reordered.displaced {r' : Registry} (h : Reordered r r') (hid : Displaced r id) :
    Displaced r' id := by
  refine ⟨?_, fun entry hentry => hid.not_entered entry (h.entries_perm.mem_iff.1 hentry)⟩
  rw [h.marks_eq]
  exact hid.lt

theorem keeps_get?_discharge (id : MarkId) :
    Keeps (fun s : Registry × CardTable => s.1.get? t = none) (discharge b id) :=
  keeps_discharge (P := fun r => r.get? t = none) fun _ h _ => h

end Registry

/-! ## The failed detach -/

namespace BarrierSet

open Registry (Displaced Reordered)

variable {s : BarrierSet} {m : Mutator} {t : Thread}

/-- The mutator of a thread that is not entered cannot leave: it is discharged, and if that is no fault,
there is no entry to take out. -/
theorem detach_of_get?_eq_none (h : s.registry.get? m.thread = none) :
    ((detach m).run s).answer =
      ((flush m).run s).answer.bind fun _ => .error (.notAttached m.thread) := by
  have hsame : ((flush m).run { s with mutators := s.mutators.erase m }).answer =
      ((flush m).run s).answer := by
    rw [flush_run, flush_run]
    rfl
  have hgone : ((flush m).run { s with mutators := s.mutators.erase m }).state.registry.get?
      m.thread = none := by
    rw [flush_run]
    exact Registry.keeps_get?_discharge m.mark (s.registry, s.table) h
  rw [← hsame]
  rcases hrun : (flush m).run { s with mutators := s.mutators.erase m } with ⟨f | _, s₁, log⟩
  · simp [detach, Action.run_bind, hrun, Except.bind]
  · rw [hrun] at hgone
    simp [detach, Action.run_bind, hrun, onRegistry, Registry.unregister_of_get?_eq_none hgone,
      Except.bind]

/-- **A thread that is taken out while it owes an object leaves its mark behind.** It is a fault to take
out a thread that is not entered, and then nothing changes. It is one too if the mark of the thread is
pending. That keeps the table, the mutators, every mark and the entry of every other thread, but the
entry of this thread is gone. So no discharge of all marks comes to this one, through whatever barrier
and in whatever order; nothing that happens afterwards detaches it, and nothing but an event of a mutator
that holds it discharges it; and the mutator of the thread cannot leave, even if it can be discharged. -/
theorem failed_detach_strands_mark (s : BarrierSet) (t : Thread) :
    let failed := (onRegistry (Registry.unregister t)).run s
    (s.registry.get? t = none → failed = ⟨.error (.notAttached t), s, []⟩) ∧
    ∀ id, s.registry.get? t = some id →
      ((s.registry.mark id).pending = none → failed.answer = .ok ()) ∧
      ∀ o, (s.registry.mark id).pending = some o →
        failed.answer = .error (.undischarged t) ∧
        failed.state.table = s.table ∧ failed.state.mutators = s.mutators ∧
        (∀ j, failed.state.registry.mark j = s.registry.mark j) ∧
        (∀ u, failed.state.registry.get? u = if u = t then none else s.registry.get? u) ∧
        (∀ b (table : CardTable) r, Reordered failed.state.registry r →
          (((Registry.flushAll b).run (r, table)).state.1.mark id).pending = some o) ∧
        ((s.registry.mark id).attached = true →
          ∀ later, ((failed.state.run later).registry.mark id).attached = true) ∧
        (∀ later, (∀ e ∈ later, e.Names (· ≠ id)) →
          ((failed.state.run later).registry.mark id).pending = some o) ∧
        ∀ m : Mutator, m.thread = t → ((detach m).run failed.state).answer =
          ((flush m).run failed.state).answer.bind fun _ => .error (.notAttached t) := by
  intro failed
  refine ⟨fun hnone => ?_, fun id hentry => ⟨fun hidle => ?_, fun o hpending => ?_⟩⟩
  · simp [failed, onRegistry, Registry.unregister_of_get?_eq_none hnone]
  · simp [failed, onRegistry, Registry.unregister_ok (Registry.get?_eq_some_iff.1 hentry) hidle]
  · have hrun : failed = ⟨.error (.undischarged t), { s with registry := s.registry.erase t }, []⟩ := by
      simp [failed, onRegistry,
        Registry.unregister_of_pending (Registry.get?_eq_some_iff.1 hentry) hpending]
    have hdisplaced : Displaced (s.registry.erase t) id := .of_erased hentry
    have hgone : ∀ u, (s.registry.erase t).get? u = if u = t then none else s.registry.get? u :=
      Registry.get?_erase s.registry t
    rw [hrun]
    refine ⟨rfl, rfl, rfl, fun j => rfl, hgone, fun b table r horder => ?_, fun hattached later => ?_,
      fun later hnames => ?_, fun m hm => ?_⟩
    · rw [(horder.displaced hdisplaced).mark_flushAll, horder.mark_eq]
      exact hpending
    · refine ((Displaced.stable_attached id).run later (fun _ _ _ _ => trivial) ?_).2
      exact ⟨hdisplaced, hattached⟩
    · refine ((Displaced.stable_pending id (some o)).run later hnames ?_).2
      exact ⟨hdisplaced, hpending⟩
    · subst hm
      exact detach_of_get?_eq_none ((hgone m.thread).trans (if_pos rfl))

/-- A thread that owes an object is taken out of the registry: after the safepoint the object is pending
still and its card clean, and the mutator's detach fails. -/
theorem failed_detach_strands_mark_of_object :
    ∃ s₀, create .default ⟨⟨0x1000⟩, ⟨0x1500⟩, by decide⟩ = .ok s₀ ∧
      let m : Mutator := ⟨⟨1⟩, 0⟩
      let o : Region := ⟨⟨0x1000⟩, ⟨0x1210⟩, by decide⟩
      let s := s₀.run [.attach ⟨1⟩, .fastAllocation m o]
      let failed := (onRegistry (Registry.unregister ⟨1⟩)).run s
      s.registry.get? ⟨1⟩ = some 0 ∧ (s.registry.mark 0).pending = some o ∧
        failed.answer = .error (.undischarged ⟨1⟩) ∧
        ((failed.state.run [.safepoint]).registry.mark 0).pending = some o ∧
        (failed.state.run [.safepoint]).table.hasDirty 0 = false ∧
        ((detach m).run failed.state).answer = .error (.notAttached ⟨1⟩) := by
  have hcreate : create .default ⟨⟨0x1000⟩, ⟨0x1500⟩, by decide⟩ = .ok _ := rfl
  refine ⟨_, hcreate, ?_⟩
  intro m o s failed
  obtain ⟨-, hentered⟩ := failed_detach_strands_mark s ⟨1⟩
  obtain ⟨-, howing⟩ := hentered 0 rfl
  obtain ⟨herror, -, -, -, -, -, -, hunmet, hdetach⟩ := howing o rfl
  have hnames : ∀ e ∈ [Event.safepoint], e.Names (· ≠ 0) := by
    intro e he m' hm'
    rw [List.mem_singleton.1 he] at hm'
    cases hm'
  refine ⟨rfl, rfl, herror, hunmet _ hnames, by decide +kernel, ?_⟩
  rw [hdetach m rfl]
  decide +kernel

/-- Taking a thread out that owes an object does not leave the set as it was: the safepoint after it need
not discharge the mutator of the thread, which need not be able to leave. -/
theorem failed_detach_not_atomic :
    ¬ ∀ (options : Options) (covered : Region) (s₀ : BarrierSet) (events : List Event) (m : Mutator)
      (f : Fault), create options covered = .ok s₀ → m ∈ (s₀.run events).mutators →
      let failed := (onRegistry (Registry.unregister m.thread)).run (s₀.run events)
      failed.answer = .error f →
        failed.state.registry.get? m.thread = (s₀.run events).registry.get? m.thread ∧
          (failed.state.run [.safepoint]).pending m = none ∧
          ((detach m).run failed.state).answer = .ok () := by
  intro h
  have hsame := (h .default ⟨⟨0x1000⟩, ⟨0x1500⟩, by decide⟩ _
    [.attach ⟨1⟩, .fastAllocation ⟨⟨1⟩, 0⟩ ⟨⟨0x1000⟩, ⟨0x1210⟩, by decide⟩] ⟨⟨1⟩, 0⟩
    (.undischarged ⟨1⟩) rfl (by decide) rfl).1
  exact absurd hsame (by decide)

end BarrierSet

end WriteBarrier
