/-
How the registry and the mutators of a barrier set belong together, as long as
only threads that are not attached attach: an entry for each mutator, under
its thread, with its own mark, which is attached and owes only what is
covered.

That is what rules out the faults of discharging and detaching. It takes all
of it at once: a discharge needs the mark attached and its object covered,
detaching needs the entry there and the mark idle, and the entry that goes
must be the mutator's own.
-/
import WriteBarrier.Proofs.Runs
import WriteBarrier.Proofs.Entries
import WriteBarrier.Proofs.Discharge

namespace WriteBarrier.BarrierSet

open Registry (Dischargeable Discharged)

variable {s : BarrierSet} {m m' : Mutator} {t : Thread} {o : Region} {ids : List MarkId}
  {marks : Registry × CardTable}

/-! ## Parts replaced -/

/-- The set with its registry and table replaced. -/
def withMarks (s : BarrierSet) (marks : Registry × CardTable) : BarrierSet :=
  { s with registry := marks.1, table := marks.2 }

theorem layout_withMarks (hd : Discharged s.barrier ids (s.registry, s.table) marks) :
    (s.withMarks marks).table.toCardLayout = s.table.toCardLayout := hd.marked.layout

/-- The set after a thread that was not attached attaches. -/
def enroll (s : BarrierSet) (t : Thread) : BarrierSet :=
  { s with registry := s.registry.enter t, mutators := s.mutators ++ [⟨t, s.registry.marks.size⟩] }

/-- The set after an idle mutator leaves. -/
def dismiss (s : BarrierSet) (m : Mutator) : BarrierSet :=
  { s with
    registry := (s.registry.erase m.thread).setMark m.mark
      { s.registry.mark m.mark with attached := false }
    mutators := s.mutators.erase m }

/-- The set after an idle mutator takes on an object. -/
def owing (s : BarrierSet) (m : Mutator) (o : Region) : BarrierSet :=
  { s with registry := s.registry.setMark m.mark { s.registry.mark m.mark with pending := some o } }

/-! ## The invariant -/

/-- **The correspondence of registry and mutators.** -/
structure Coherent (s : BarrierSet) : Prop where
  fits : s.table.Fits
  /-- The entries are the mutators', in their order. -/
  entries_eq : s.registry.entries = s.mutators.map fun m => (m.thread, m.mark)
  attached : ∀ m ∈ s.mutators, (s.registry.mark m.mark).attached = true
  /-- What a mutator owes is covered. -/
  covered : ∀ m ∈ s.mutators, ∀ o, s.pending m = some o → s.table.covered.containsRegion o = true
  /-- Under the immediate policy nothing is owed. -/
  idle : s.policy = .immediate → ∀ m ∈ s.mutators, s.pending m = none

namespace Coherent

theorem threads_nodup (h : Coherent s) : (s.mutators.map Mutator.thread).Nodup := by
  have hnodup := s.registry.threads_nodup
  rw [h.entries_eq, List.map_map] at hnodup
  exact hnodup

theorem ids_nodup (h : Coherent s) : (s.mutators.map Mutator.mark).Nodup := by
  have hnodup := s.registry.ids_nodup
  rw [h.entries_eq, List.map_map] at hnodup
  exact hnodup

theorem mem_entries (h : Coherent s) (hm : m ∈ s.mutators) :
    (m.thread, m.mark) ∈ s.registry.entries := by
  rw [h.entries_eq]
  exact List.mem_map.2 ⟨m, hm, rfl⟩

theorem eq_of_mark_eq (h : Coherent s) (hm : m ∈ s.mutators) (hm' : m' ∈ s.mutators)
    (heq : m.mark = m'.mark) : m = m' :=
  List.inj_on_of_nodup_map h.ids_nodup hm hm' heq

theorem mark_lt (h : Coherent s) (hm : m ∈ s.mutators) : m.mark < s.registry.marks.size :=
  s.registry.ids_lt _ (h.mem_entries hm)

theorem dischargeable (h : Coherent s) (hm : m ∈ s.mutators) :
    Dischargeable s.barrier (s.registry, s.table) m.mark := by
  refine ⟨h.attached m hm, fun o ho => ?_⟩
  cases s.barrier with
  | noBarrier => trivial
  | cardTable d => exact h.covered m hm o ho

theorem dischargeable_of_mem_entries (h : Coherent s) :
    ∀ entry ∈ s.registry.entries, Dischargeable s.barrier (s.registry, s.table) entry.2 := by
  intro entry hentry
  rw [h.entries_eq] at hentry
  obtain ⟨m, hm, rfl⟩ := List.mem_map.1 hentry
  exact h.dischargeable hm

/-! ## What keeps it -/

theorem withMarks (h : Coherent s)
    (hd : Discharged s.barrier ids (s.registry, s.table) marks) : Coherent (s.withMarks marks) := by
  have hpending : ∀ m o, (s.withMarks marks).pending m = some o → s.pending m = some o :=
    fun m o ho => (hd.pending_eq_some.1 ho).2
  refine ⟨hd.marked.fits h.fits, hd.entries_eq.trans h.entries_eq, fun m hm => ?_, ?_, ?_⟩
  · exact (hd.attached m.mark).trans (h.attached m hm)
  · intro m hm o ho
    rw [layout_withMarks hd]
    exact h.covered m hm o (hpending m o ho)
  · intro hp m hm
    cases hcase : (s.withMarks marks).pending m with
    | none => rfl
    | some o =>
      have hidle := h.idle hp m hm
      rw [hpending m o hcase] at hidle
      cases hidle

theorem withTable {table : CardTable} (h : Coherent s)
    (hlayout : table.toCardLayout = s.table.toCardLayout) : Coherent { s with table } := by
  refine ⟨?_, h.entries_eq, h.attached, ?_, h.idle⟩
  · show table.Fits
    rw [hlayout]
    exact h.fits
  · intro m hm o ho
    show table.covered.containsRegion o = true
    rw [hlayout]
    exact h.covered m hm o ho

theorem pending_enroll (h : Coherent s) (hm : m ∈ s.mutators) :
    (s.enroll t).pending m = s.pending m := by
  show ((s.registry.enter t).mark m.mark).pending = (s.registry.mark m.mark).pending
  rw [Registry.mark_enter_of_lt (h.mark_lt hm)]

theorem enroll (h : Coherent s) (hfresh : s.registry.isRegistered t = false) :
    Coherent (s.enroll t) := by
  have hnew : (s.enroll t).registry.mark s.registry.marks.size = {} := Registry.mark_enter s.registry t
  have hcases : ∀ m ∈ (s.enroll t).mutators, m ∈ s.mutators ∨ m = ⟨t, s.registry.marks.size⟩ := by
    intro m hm
    rw [BarrierSet.enroll, List.mem_append, List.mem_singleton] at hm
    exact hm
  refine ⟨h.fits, ?_, fun m hm => ?_, fun m hm o ho => ?_, fun hp m hm => ?_⟩
  · show (s.registry.erase t).entries ++ [(t, s.registry.marks.size)] =
      (s.mutators ++ [Mutator.mk t s.registry.marks.size]).map fun m => (m.thread, m.mark)
    rw [Registry.entries_erase_of_isRegistered_eq_false hfresh, h.entries_eq, List.map_append]
    rfl
  · obtain hold | rfl := hcases m hm
    · show ((s.registry.enter t).mark m.mark).attached = true
      rw [Registry.mark_enter_of_lt (h.mark_lt hold)]
      exact h.attached m hold
    · rw [hnew]
  · obtain hold | rfl := hcases m hm
    · rw [h.pending_enroll hold] at ho
      exact h.covered m hold o ho
    · rw [pending, hnew] at ho
      cases ho
  · obtain hold | rfl := hcases m hm
    · rw [h.pending_enroll hold]
      exact h.idle hp m hold
    · rw [pending, hnew]

theorem mem_dismiss (h : Coherent s) :
    m' ∈ (s.dismiss m).mutators ↔ m' ≠ m ∧ m' ∈ s.mutators :=
  (List.Nodup.of_map _ h.threads_nodup).mem_erase_iff

theorem mark_dismiss (h : Coherent s) (hm : m ∈ s.mutators)
    (hm' : m' ∈ (s.dismiss m).mutators) :
    (s.dismiss m).registry.mark m'.mark = s.registry.mark m'.mark := by
  obtain ⟨hne, hold⟩ := h.mem_dismiss.1 hm'
  have hid : m'.mark ≠ m.mark := fun heq => hne (h.eq_of_mark_eq hold hm heq)
  rw [BarrierSet.dismiss, Registry.mark_setMark_of_ne hid, Registry.mark_erase]

theorem dismiss (h : Coherent s) (hm : m ∈ s.mutators) : Coherent (s.dismiss m) := by
  refine ⟨h.fits, ?_, fun m' hm' => ?_, fun m' hm' o ho => ?_, fun hp m' hm' => ?_⟩
  · have hinj : Function.Injective fun m : Mutator => (m.thread, m.mark) := by
      intro m m' heq
      cases m; cases m'; cases heq
      rfl
    show (s.registry.erase m.thread).entries = (s.mutators.erase m).map fun m => (m.thread, m.mark)
    rw [Registry.entries_erase_of_mem (h.mem_entries hm), h.entries_eq, List.map_erase hinj]
  · rw [h.mark_dismiss hm hm']
    exact h.attached m' (h.mem_dismiss.1 hm').2
  · rw [pending, h.mark_dismiss hm hm'] at ho
    exact h.covered m' (h.mem_dismiss.1 hm').2 o ho
  · rw [pending, h.mark_dismiss hm hm']
    exact h.idle hp m' (h.mem_dismiss.1 hm').2

theorem pending_owing_self (h : Coherent s) (hm : m ∈ s.mutators) :
    (s.owing m o).pending m = some o := by
  rw [pending, BarrierSet.owing, Registry.mark_setMark (h.mark_lt hm)]

theorem pending_owing_of_ne (h : Coherent s) (hm : m ∈ s.mutators) (hm' : m' ∈ s.mutators)
    (hne : m' ≠ m) : (s.owing m o).pending m' = s.pending m' := by
  have hid : m'.mark ≠ m.mark := fun heq => hne (h.eq_of_mark_eq hm' hm heq)
  rw [pending, BarrierSet.owing, Registry.mark_setMark_of_ne hid]
  rfl

theorem owing (h : Coherent s) (hm : m ∈ s.mutators)
    (ho : s.table.covered.containsRegion o = true) (hp : s.policy ≠ .immediate) :
    Coherent (s.owing m o) := by
  refine ⟨h.fits, h.entries_eq, fun m' hm' => ?_, fun m' hm' o' ho' => ?_, fun hp' => absurd hp' hp⟩
  · by_cases hid : m'.mark = m.mark
    · rw [hid, BarrierSet.owing, Registry.mark_setMark (h.mark_lt hm)]
      exact h.attached m hm
    · rw [BarrierSet.owing, Registry.mark_setMark_of_ne hid]
      exact h.attached m' hm'
  · by_cases hself : m' = m
    · subst hself
      rw [h.pending_owing_self hm] at ho'
      cases ho'
      exact ho
    · rw [h.pending_owing_of_ne hm hm' hself] at ho'
      exact h.covered m' hm' o' ho'

end Coherent

/-! ## The operations -/

theorem attach_ok (hfresh : s.registry.isRegistered t = false) :
    (attach t).run s = ⟨.ok ⟨t, s.registry.marks.size⟩, s.enroll t, [.attached t]⟩ := by
  simp [attach, Action.run_bind, onRegistry, Registry.register_ok hfresh, enroll, Except.map]

theorem flush_run (m : Mutator) (s : BarrierSet) :
    (flush m).run s =
      ⟨((Registry.discharge s.barrier m.mark).run (s.registry, s.table)).answer,
        s.withMarks ((Registry.discharge s.barrier m.mark).run (s.registry, s.table)).state,
        ((Registry.discharge s.barrier m.mark).run (s.registry, s.table)).log⟩ := by
  simp [flush, Action.run_bind, onMarks, withMarks]

theorem flush_ok (hfits : s.table.Fits)
    (hm : Dischargeable s.barrier (s.registry, s.table) m.mark) :
    ∃ marks log, (flush m).run s = ⟨.ok (), s.withMarks marks, log⟩ ∧
      Discharged s.barrier [m.mark] (s.registry, s.table) marks := by
  obtain ⟨marks, log, hrun, hd⟩ := Registry.discharge_ok (s := (s.registry, s.table)) hfits hm
  refine ⟨marks, log, ?_, hd⟩
  rw [flush_run, hrun]

theorem flush_detached (h : (s.registry.mark m.mark).attached = false) :
    (flush m).run s = ⟨.error .dischargingDetached, s, []⟩ := by
  simp [flush, Action.run_bind, onMarks, Registry.discharge_detached (s := (s.registry, s.table)) h]

theorem registry_flush (h : (s.registry.mark m.mark).attached = true) :
    ((flush m).run s).state.registry =
      s.registry.setMark m.mark (s.registry.mark m.mark).settled := by
  simp [flush, Action.run_bind, onMarks, Registry.registry_discharge (s := (s.registry, s.table)) h]

theorem mark_flush (h : (s.registry.mark m.mark).attached = true) :
    ((flush m).run s).state.registry.mark m.mark = (s.registry.mark m.mark).settled := by
  rw [registry_flush h, Registry.mark_setMark (Registry.lt_of_attached h)]

/-- A discharge that succeeds leaves its mark idle, in any state. -/
theorem pending_flush_ok {s' : BarrierSet} {log : List Notice}
    (h : (flush m).run s = ⟨.ok (), s', log⟩) :
    s'.pending m = none := by
  cases hattached : (s.registry.mark m.mark).attached with
  | false =>
    rw [flush_detached hattached] at h
    cases h
  | true =>
    have hmark := mark_flush hattached
    rw [h] at hmark
    rw [pending, show s'.registry.mark m.mark = _ from hmark]
    rfl

theorem call_ok {c : Barrier.Call} (hfits : s.table.Fits)
    (h : s.barrier.Admits s.table.toCardLayout c.target) :
    ∃ table, (call c).run s = ⟨.ok (), { s with table }, []⟩ ∧
      CardTable.Marked (s.barrier.Dirties s.table.toCardLayout c.target) s.table table := by
  obtain ⟨table, hrun, hmarked⟩ := Barrier.perform_ok hfits h
  refine ⟨table, ?_, hmarked⟩
  simp [call, Action.run_bind, onTable, hrun]

theorem call_error {c : Barrier.Call} (h : ¬ s.barrier.Admits s.table.toCardLayout c.target) :
    (call c).run s = ⟨.error (Barrier.refusal s.table.toCardLayout c.target), s, []⟩ := by
  simp [call, Action.run_bind, onTable, Barrier.perform_error h]

theorem detach_ok (h : Coherent s) (hm : m ∈ s.mutators) :
    ∃ marks log, (detach m).run s = ⟨.ok (), (s.withMarks marks).dismiss m, log⟩ ∧
      Discharged s.barrier [m.mark] (s.registry, s.table) marks := by
  obtain ⟨marks, log, hrun, hd⟩ := flush_ok (s := { s with mutators := s.mutators.erase m })
    (m := m) h.fits (h.dischargeable hm)
  have hentry : (m.thread, m.mark) ∈ marks.1.entries := by
    rw [hd.entries_eq]
    exact h.mem_entries hm
  have hidle : (marks.1.mark m.mark).pending = none := hd.pending_eq_none
  refine ⟨marks, .detaching m.thread :: log, ?_, hd⟩
  simp [detach, Action.run_bind, hrun, onRegistry, withMarks, Registry.unregister_ok hentry hidle,
    dismiss]

theorem deferInitialMark_immediate (hp : s.policy = .immediate) :
    (deferInitialMark m o).run s = ⟨.ok (), s, []⟩ := by
  simp [deferInitialMark, Action.run_bind, hp]

theorem deferInitialMark_error (hp : s.policy = .deferred)
    (ho : ¬ s.table.covered.containsRegion o = true) :
    (deferInitialMark m o).run s = ⟨.error (.regionNotCovered o s.table.covered), s, []⟩ := by
  simp [deferInitialMark, Action.run_bind, hp, onTable, CardLayout.checkRegion_eq_error ho]

theorem deferInitialMark_ok (h : Coherent s) (hm : m ∈ s.mutators) (hp : s.policy = .deferred)
    (ho : s.table.covered.containsRegion o = true) :
    ∃ marks log, (deferInitialMark m o).run s = ⟨.ok (), (s.withMarks marks).owing m o, log⟩ ∧
      Discharged s.barrier [m.mark] (s.registry, s.table) marks := by
  obtain ⟨marks, log, hrun, hd⟩ := flush_ok h.fits (h.dischargeable hm)
  refine ⟨marks, log, ?_, hd⟩
  simp [deferInitialMark, Action.run_bind, hp, onTable, CardLayout.checkRegion_eq_ok ho, hrun,
    onRegistry, Registry.record_ok hd.pending_eq_none, owing, withMarks]

theorem prepareForSafepoint_of_flushAll {n : Nat} {log : List Notice}
    (h : (Registry.flushAll s.barrier).run (s.registry, s.table) = ⟨.ok n, marks, log⟩) :
    prepareForSafepoint.run s =
      ⟨.ok (), s.withMarks marks, log ++ [.safepoint n (s.withMarks marks).numMutators]⟩ := by
  simp [prepareForSafepoint, Action.run_bind, onMarks, h, withMarks]

theorem prepareForSafepoint_ok (h : Coherent s) :
    ∃ marks log, prepareForSafepoint.run s = ⟨.ok (), s.withMarks marks, log⟩ ∧
      Discharged s.barrier (s.mutators.map Mutator.mark) (s.registry, s.table) marks := by
  obtain ⟨marks, n, log, hrun, hd⟩ :=
    Registry.flushAll_ok (s := (s.registry, s.table)) h.fits h.dischargeable_of_mem_entries
  have hids : s.registry.entries.map Prod.snd = s.mutators.map Mutator.mark := by
    rw [h.entries_eq, List.map_map]
    rfl
  rw [hids] at hd
  exact ⟨marks, _, prepareForSafepoint_of_flushAll hrun, hd⟩

end WriteBarrier.BarrierSet
