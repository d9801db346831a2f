/-
What is left when an attached thread attaches: a fault, and a registry that has
lost the mark of the thread's mutator.

The new mark is entered before the check, and stays entered. So the entry is no
longer the mutator's: no safepoint reaches its mark from then on, and when the
mutator is given back it is the other mark that is detached. Nothing that can
happen later repairs this, since a mark is entered only when it is made.
-/
import WriteBarrier.Proofs.Stability

namespace WriteBarrier

/-! ## Marks that are not entered -/

namespace Registry

variable {r : Registry} {t : Thread} {id : MarkId}

theorem attached_setPending (r : Registry) (id j : MarkId) (p : Option Region) :
    ((r.setMark id { r.mark id with pending := p }).mark j).attached = (r.mark j).attached := by
  by_cases hj : j = id
  · subst hj
    by_cases hlt : j < r.marks.size
    · rw [mark_setMark hlt]
    · simp [mark, setMark, hlt]
  · rw [mark_setMark_of_ne hj]

/-- The mark exists, and no thread is entered with it. -/
structure Displaced (r : Registry) (id : MarkId) : Prop where
  lt : id < r.marks.size
  not_entered : ∀ entry ∈ r.entries, entry.2 ≠ id

namespace Displaced

theorem of_erased (h : r.get? t = some id) : Displaced (r.erase t) id := by
  have hmem := get?_eq_some_iff.1 h
  refine ⟨r.ids_lt (t, id) hmem, fun entry hentry => ?_⟩
  obtain ⟨hold, hne⟩ := mem_entries_erase.1 hentry
  exact ne_of_mem_entries hmem hold hne

theorem of_entered (h : r.get? t = some id) : Displaced (r.enter t) id := by
  have hlt : id < r.marks.size := (of_erased h).lt
  refine ⟨by simpa using Nat.lt_succ_of_lt hlt, fun entry hentry => ?_⟩
  obtain hold | rfl := mem_entries_enter.1 hentry
  · exact (of_erased h).not_entered entry (mem_entries_erase.2 hold)
  · exact Nat.ne_of_gt hlt

theorem enter (h : Displaced r id) (t : Thread) : Displaced (r.enter t) id := by
  refine ⟨by simpa using Nat.lt_succ_of_lt h.lt, fun entry hentry => ?_⟩
  obtain ⟨hold, -⟩ | rfl := mem_entries_enter.1 hentry
  · exact h.not_entered entry hold
  · exact Nat.ne_of_gt h.lt

theorem erase (h : Displaced r id) (t : Thread) : Displaced (r.erase t) id :=
  ⟨h.lt, fun entry hentry => h.not_entered entry (mem_entries_erase.1 hentry).1⟩

theorem setMark (h : Displaced r id) (j : MarkId) (m : DeferredMark) :
    Displaced (r.setMark j m) id :=
  ⟨by simpa using h.lt, h.not_entered⟩

/-- What depends on the mark alone lasts once the mark is displaced, if setting what is pending keeps
it. The mark of a thread that leaves is another one. -/
theorem stable {ids : MarkId → Prop} (holds : DeferredMark → Prop) (hids : ∀ j, j ≠ id → ids j)
    (hset : ∀ (r : Registry) j p, ids j → holds (r.mark id) →
      holds ((r.setMark j { r.mark j with pending := p }).mark id)) :
    Stable ids fun r => Displaced r id ∧ holds (r.mark id) := by
  refine ⟨fun r t h => ?_, fun r t h => ?_, fun r t j h hentry => ?_, fun r j p h hj => ?_,
    fun r h entry hentry => hids _ (h.1.not_entered entry hentry)⟩
  · rw [mark_enter_of_lt h.1.lt]
    exact ⟨h.1.enter t, h.2⟩
  · exact ⟨h.1.erase t, h.2⟩
  · have hne : id ≠ j := (h.1.not_entered _ hentry).symm
    rw [mark_setMark_of_ne hne, mark_erase]
    exact ⟨(h.1.erase t).setMark j _, h.2⟩
  · exact ⟨h.1.setMark j _, hset r j p hj h.2⟩

theorem stable_attached (id : MarkId) :
    Stable (fun _ => True) fun r => Displaced r id ∧ (r.mark id).attached = true := by
  refine stable (fun m => m.attached = true) (fun _ _ => trivial) fun r j p _ h => ?_
  rw [attached_setPending]
  exact h

/-- A displaced mark is discharged by the mutator that holds it, and by nothing else. -/
theorem stable_pending (id : MarkId) (p : Option Region) :
    Stable (fun j => j ≠ id) fun r => Displaced r id ∧ (r.mark id).pending = p := by
  refine stable (fun m => m.pending = p) (fun _ hj => hj) fun r j p' hj h => ?_
  rw [mark_setMark_of_ne hj.symm]
  exact h

end Displaced

theorem stable_entered_attached :
    Stable (fun _ => True) fun r => ∀ entry ∈ r.entries, (r.mark entry.2).attached = true := by
  refine ⟨fun r t h entry hentry => ?_, fun r t h entry hentry => ?_,
    fun r t id h hid entry hentry => ?_, fun r id p h _ entry hentry => ?_, fun _ _ _ _ => trivial⟩
  · obtain ⟨hold, -⟩ | rfl := mem_entries_enter.1 hentry
    · rw [mark_enter_of_lt (r.ids_lt entry hold)]
      exact h entry hold
    · rw [mark_enter]
  · exact h entry (mem_entries_erase.1 hentry).1
  · obtain ⟨hold, hne⟩ := mem_entries_erase.1 hentry
    rw [mark_setMark_of_ne (ne_of_mem_entries hid hold hne), mark_erase]
    exact h entry hold
  · rw [attached_setPending]
    exact h entry hentry

end Registry

/-! ## The failed attach -/

namespace BarrierSet

open Registry (Displaced)

variable {s s₀ : BarrierSet} {m : Mutator} {t : Thread} {options : Options} {covered : Region}
  {events : List Event}

theorem attach_error (h : s.registry.isRegistered t = true) :
    (attach t).run s =
      ⟨.error (.alreadyAttached t), { s with registry := s.registry.enter t }, []⟩ := by
  simp [attach, Action.run_bind, onRegistry, Registry.register_error h]

/-- **An attached thread that attaches strands its mutator's mark.** The attach is a fault, which
keeps the table, the mutators, their number and every mark, and the entry of every other thread. But
the entry of this thread is now that of a mark just made: whatever happens afterwards, a detach of the
mutator included, its own mark stays attached, and unless the mutator itself discharges it, what is
pending stays pending. -/
theorem failed_attach_strands_mark (hcreate : create options covered = .ok s₀)
    (hentry : (s₀.run events).registry.get? m.thread = some m.mark) :
    let s := s₀.run events
    let failed := (attach m.thread).run s
    failed.answer = .error (.alreadyAttached m.thread) ∧
    failed.state.table = s.table ∧ failed.state.mutators = s.mutators ∧
    failed.state.numMutators = s.numMutators ∧
    (∀ id < s.registry.marks.size, failed.state.registry.mark id = s.registry.mark id) ∧
    (∀ t, failed.state.registry.get? t = s.registry.get? t ↔ t ≠ m.thread) ∧
    failed.state.registry.get? m.thread = some s.registry.marks.size ∧
    (∀ later, ((failed.state.run later).registry.mark m.mark).attached = true) ∧
    ∀ later, (∀ e ∈ later, e.Names (· ≠ m.mark)) →
      (failed.state.run later).pending m = s.pending m := by
  intro s failed
  have hmem : (m.thread, m.mark) ∈ s.registry.entries := Registry.get?_eq_some_iff.1 hentry
  have hlt : m.mark < s.registry.marks.size := s.registry.ids_lt _ hmem
  have hrun : failed = ⟨.error (.alreadyAttached m.thread),
      { s with registry := s.registry.enter m.thread }, []⟩ :=
    attach_error (Registry.isRegistered_eq_true_iff.2 ⟨m.mark, hmem⟩)
  have hdisplaced : Displaced (s.registry.enter m.thread) m.mark := Displaced.of_entered hentry
  have hnew : (s.registry.enter m.thread).get? m.thread = some s.registry.marks.size :=
    Registry.get?_enter_self s.registry m.thread
  have hkept : (s.registry.enter m.thread).mark m.mark = s.registry.mark m.mark :=
    Registry.mark_enter_of_lt hlt m.thread
  -- Only here does it matter that a run has led to `s`.
  have hattached : (s.registry.mark m.mark).attached = true := by
    obtain ⟨-, -, hempty, -⟩ := create_eq_ok hcreate
    have hall := Registry.stable_entered_attached.run (s := s₀) events
      (fun _ _ _ _ => trivial) (by simp [hempty, Registry.empty])
    exact hall _ hmem
  rw [hrun]
  refine ⟨rfl, rfl, rfl, Registry.size_enter hmem, fun id hid => Registry.mark_enter_of_lt hid _,
    fun t => ?_, hnew, fun later => ?_, fun later hnames => ?_⟩
  · constructor
    · intro hget hthread
      rw [hthread] at hget
      have hsame : some s.registry.marks.size = some m.mark := hnew.symm.trans (hget.trans hentry)
      exact Nat.ne_of_gt hlt (Option.some.inj hsame)
    · exact fun hne => Registry.get?_enter_of_ne hne
  · refine ((Displaced.stable_attached m.mark).run later (fun _ _ _ _ => trivial) ?_).2
    exact ⟨hdisplaced, by rw [hkept]; exact hattached⟩
  · refine ((Displaced.stable_pending m.mark (s.pending m)).run later hnames ?_).2
    exact ⟨hdisplaced, by rw [hkept]; rfl⟩

/-- A thread that owes an object attaches again: its mark is pending still after the safepoint, and
attached still after the detach. -/
theorem failed_attach_strands_mark_of_object :
    ∃ s₀, create .default ⟨⟨0x1000⟩, ⟨0x1500⟩, by decide⟩ = .ok s₀ ∧
      let m : Mutator := ⟨⟨1⟩, 0⟩
      let o : Region := ⟨⟨0x1000⟩, ⟨0x1210⟩, by decide⟩
      let s := s₀.run [.attach ⟨1⟩, .fastAllocation m o]
      let failed := (attach ⟨1⟩).run s
      s.registry.get? ⟨1⟩ = some m.mark ∧ s.pending m = some o ∧
        (failed.state.run [.safepoint]).pending m = some o ∧
        ((failed.state.run [.safepoint, .detach m]).registry.mark m.mark).attached = true := by
  have hcreate : create .default ⟨⟨0x1000⟩, ⟨0x1500⟩, by decide⟩ = .ok _ := rfl
  refine ⟨_, hcreate, ?_⟩
  intro m o s failed
  have hpending : s.pending m = some o := rfl
  obtain ⟨-, -, -, -, -, -, -, hattached, hunmet⟩ :=
    @failed_attach_strands_mark _ m _ _ [.attach ⟨1⟩, .fastAllocation m o] hcreate rfl
  refine ⟨rfl, hpending, ?_, hattached _⟩
  rw [← hpending]
  refine hunmet [.safepoint] fun e he m' hm' => ?_
  rw [List.mem_singleton.1 he] at hm'
  cases hm'

/-- An attach that is a fault does not leave the set as it was, and the safepoint after it need not
discharge the mutator of the thread. -/
theorem failed_attach_not_atomic :
    ¬ ∀ (options : Options) (covered : Region) (s₀ : BarrierSet) (events : List Event) (m : Mutator),
      create options covered = .ok s₀ → m ∈ (s₀.run events).mutators →
      (s₀.run events).registry.get? m.thread = some m.mark →
      let failed := (attach m.thread).run (s₀.run events)
      failed.state.registry.get? m.thread = some m.mark ∧
        (failed.state.run [.safepoint]).pending m = none := by
  intro h
  have hunmet := h .default ⟨⟨0x1000⟩, ⟨0x1500⟩, by decide⟩ _
    [.attach ⟨1⟩, .fastAllocation ⟨⟨1⟩, 0⟩ ⟨⟨0x1000⟩, ⟨0x1210⟩, by decide⟩] ⟨⟨1⟩, 0⟩ rfl
    (by decide) rfl
  exact absurd hunmet.1 (by decide)

end BarrierSet

end WriteBarrier
