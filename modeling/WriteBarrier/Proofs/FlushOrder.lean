/-
The order in which a safepoint comes to the threads leaves no trace but in the
log.

The entries of a registry are those of a map, which come in any order. Halfway
through, two orders have met different obligations, and the tables differ. But
a mark is entered once, so that no discharge of another changes what it owes,
and to dirty cards is to add to a set. So what is left at the end is said with
no order in it (`Discharged`), and that leaves room for one outcome only.
-/
import WriteBarrier.Proofs.Permanence

namespace WriteBarrier.Registry

variable {b : Barrier} {r r' : Registry} {t : CardTable} {ids ids' : List MarkId} {i : Nat}
  {s s' : Registry × CardTable}

/-! ## The same map in another order -/

/-- Both hold the same marks under the same threads. The entries may come in another order. -/
structure Reordered (r r' : Registry) : Prop where
  marks_eq : r'.marks = r.marks
  entries_perm : r'.entries.Perm r.entries

namespace Reordered

theorem mark_eq (h : Reordered r r') (id : MarkId) : r'.mark id = r.mark id := by
  simp [mark, h.marks_eq]

theorem get?_eq (h : Reordered r r') (t : Thread) : r'.get? t = r.get? t := by
  refine Option.ext fun id => ?_
  rw [get?_eq_some_iff, get?_eq_some_iff, h.entries_perm.mem_iff]

theorem ids_perm (h : Reordered r r') :
    (r'.entries.map Prod.snd).Perm (r.entries.map Prod.snd) :=
  h.entries_perm.map Prod.snd

theorem entered_attached (h : Reordered r r')
    (hattached : ∀ entry ∈ r.entries, (r.mark entry.2).attached = true) :
    ∀ entry ∈ r'.entries, (r'.mark entry.2).attached = true := by
  simpa only [h.entries_perm.mem_iff, h.mark_eq] using hattached

theorem owedBy_iff (h : Reordered r r') (hids : ids'.Perm ids) :
    OwedBy b (r', t) ids' i ↔ OwedBy b (r, t) ids i := by
  simp [OwedBy, h.mark_eq, hids.mem_iff]

theorem notices_perm (h : Reordered r r') (hids : ids'.Perm ids) :
    (r'.notices ids').Perm (r.notices ids) := by
  simp only [notices, h.mark_eq]
  exact hids.filterMap _

end Reordered

/-! ## One outcome -/

/-- Marks that are discharged in another order leave the same marks and the same table. -/
theorem Discharged.reordered (h : Discharged b ids (r, t) s) (h' : Discharged b ids' (r', t) s')
    (horder : Reordered r r') (hids : ids'.Perm ids)
    (hconcurrent : s'.2.scannedConcurrently = s.2.scannedConcurrently) :
    Reordered s.1 s'.1 ∧ s'.2 = s.2 := by
  refine ⟨⟨marks_eq_of_mark_eq ?_ fun id => ?_, ?_⟩, ?_⟩
  · rw [h'.size_eq, h.size_eq, horder.marks_eq]
  · simp [h'.mark_eq, h.mark_eq, horder.mark_eq, hids.mem_iff]
  · rw [h'.entries_eq, h.entries_eq]
    exact horder.entries_perm
  · refine CardTable.eq_of_hasDirty (h'.marked.layout.trans h.marked.layout.symm) hconcurrent ?_
    intro i
    rw [h'.marked.hasDirty_iff, h.marked.hasDirty_iff, horder.owedBy_iff hids]

theorem scannedConcurrently_flushAll (b : Barrier) (s : Registry × CardTable) :
    ((flushAll b).run s).state.2.scannedConcurrently = s.2.scannedConcurrently :=
  ((CardTable.kept_layout s.2.toCardLayout s.2.scannedConcurrently).flushAll s ⟨rfl, rfl⟩).2

/-- Both orders answer the same count, and come to one outcome. -/
theorem flushAll_reordered (horder : Reordered r r')
    (hattached : ∀ entry ∈ r.entries, (r.mark entry.2).attached = true)
    (hmeet : ∀ entry ∈ r.entries, CanMeet b (r, t) entry.2) :
    let owing := r.entries.countP fun entry => (r.mark entry.2).pending.isSome
    ∃ one other table,
      (flushAll b).run (r, t) =
        ⟨.ok owing, (one, table), r.notices (r.entries.map Prod.snd)⟩ ∧
      (flushAll b).run (r', t) =
        ⟨.ok owing, (other, table), r'.notices (r'.entries.map Prod.snd)⟩ ∧
      Reordered one other ∧
      Discharged b (r.entries.map Prod.snd) (r, t) (one, table) ∧
      Discharged b (r'.entries.map Prod.snd) (r', t) (other, table) := by
  intro owing
  have hmeet' : ∀ entry ∈ r'.entries, CanMeet b (r', t) entry.2 := by
    simpa only [horder.entries_perm.mem_iff, CanMeet, horder.mark_eq] using hmeet
  have howing : r'.entries.countP (fun entry => (r'.mark entry.2).pending.isSome) = owing := by
    simp only [horder.mark_eq]
    exact horder.entries_perm.countP_eq _
  obtain ⟨⟨one, table⟩, hrun, hd⟩ := flushAll_of_canMeet (s := (r, t)) hattached hmeet
  obtain ⟨⟨other, table'⟩, hrun', hd'⟩ :=
    flushAll_of_canMeet (s := (r', t)) (horder.entered_attached hattached) hmeet'
  have hscanned := scannedConcurrently_flushAll b (r, t)
  have hscanned' := scannedConcurrently_flushAll b (r', t)
  rw [hrun] at hscanned
  rw [hrun'] at hscanned'
  obtain ⟨hsame, rfl⟩ := hd.reordered hd' horder horder.ids_perm (hscanned'.trans hscanned.symm)
  rw [howing] at hrun'
  exact ⟨one, other, table', hrun, hrun', hsame, hd, hd'⟩

theorem owedBy_entered_iff {entries : List (Thread × MarkId)} :
    OwedBy b s (entries.map Prod.snd) i ↔ ∃ entry ∈ entries, ∃ o,
      (s.1.mark entry.2).pending = some o ∧ b.Dirties s.2.toCardLayout (.region o) i := by
  simp only [OwedBy, List.mem_map, exists_exists_and_eq_and]

theorem Discharged.flushAll_again (h : Discharged b (s.1.entries.map Prod.snd) s s')
    (hattached : ∀ entry ∈ s.1.entries, (s.1.mark entry.2).attached = true) :
    (flushAll b).run s' = ⟨.ok 0, s', []⟩ := by
  refine flushAll_idle (fun entry hentry => ?_) fun entry hentry => ?_
  all_goals rw [h.entries_eq] at hentry
  · exact (h.attached entry.2).trans (hattached entry hentry)
  · rw [h.mark_eq, if_pos (List.mem_map_of_mem hentry)]
    rfl

/-- **Discharging all threads does not depend on the order of the entries.** Take a registry with any
number of attached marks, in two orders, and a barrier that can mark whatever is pending. Both ways
the number of pending marks is answered, an object of no bytes counts, and the same table is left:
what was dirty stays so, and the cards of what was pending become dirty, if the barrier marks cards.
Every mark entered is idle then, and attached; no other mark changes, and no entry does. The two logs
tell the same in different orders, and doing it again does nothing. -/
theorem flushAll_in_any_order (horder : Reordered r r')
    (hattached : ∀ entry ∈ r.entries, (r.mark entry.2).attached = true)
    (hmarkable : ∀ entry ∈ r.entries, ∀ o, (r.mark entry.2).pending = some o →
      ((b.writeRegion o).run t).answer = .ok ()) :
    let owing := r.entries.countP fun entry => (r.mark entry.2).pending.isSome
    ∃ one other table log log',
      (flushAll b).run (r, t) = ⟨.ok owing, (one, table), log⟩ ∧
      (flushAll b).run (r', t) = ⟨.ok owing, (other, table), log'⟩ ∧
      Reordered one other ∧ log'.Perm log ∧
      one.entries = r.entries ∧ other.entries = r'.entries ∧
      (∀ entry ∈ r.entries,
        (one.mark entry.2).pending = none ∧ (one.mark entry.2).attached = true) ∧
      (∀ id, (∀ entry ∈ r.entries, entry.2 ≠ id) → one.mark id = r.mark id) ∧
      table.toCardLayout = t.toCardLayout ∧
      table.scannedConcurrently = t.scannedConcurrently ∧
      (∀ d, b = .cardTable d → ∀ i, table.hasDirty i = true ↔ t.hasDirty i = true ∨
        ∃ entry ∈ r.entries, ∃ o, (r.mark entry.2).pending = some o ∧ t.Touches i o) ∧
      (b = .noBarrier → table = t) ∧
      (flushAll b).run (one, table) = ⟨.ok 0, (one, table), []⟩ ∧
      (flushAll b).run (other, table) = ⟨.ok 0, (other, table), []⟩ := by
  intro owing
  have hmeet : ∀ entry ∈ r.entries, CanMeet b (r, t) entry.2 := fun entry hentry o ho =>
    Barrier.canMark_iff.2 (hmarkable entry hentry o ho)
  obtain ⟨one, other, table, hrun, hrun', hsame, hd, hd'⟩ :=
    flushAll_reordered horder hattached hmeet
  have hattached' := horder.entered_attached hattached
  have hscanned := scannedConcurrently_flushAll b (r, t)
  rw [hrun] at hscanned
  refine ⟨one, other, table, _, _, hrun, hrun', hsame, horder.notices_perm horder.ids_perm,
    hd.entries_eq, hd'.entries_eq, fun entry hentry => ?_, fun id hid => ?_, hd.marked.layout,
    hscanned, ?_, ?_, Discharged.flushAll_again (s := (r, t)) hd hattached,
    Discharged.flushAll_again (s := (r', t)) hd' hattached'⟩
  · rw [hd.attached, hd.mark_eq, if_pos (List.mem_map_of_mem hentry)]
    exact ⟨rfl, hattached entry hentry⟩
  · rw [hd.mark_eq, if_neg]
    intro hmem
    obtain ⟨entry, hentry, hsame⟩ := List.mem_map.1 hmem
    exact hid entry hentry hsame
  · intro d hb i
    subst hb
    rw [hd.marked.hasDirty_iff, owedBy_entered_iff]
    rfl
  · intro hb
    subst hb
    refine CardTable.eq_of_hasDirty hd.marked.layout hscanned fun i => ?_
    rw [hd.marked.hasDirty_iff]
    simp [OwedBy, Barrier.Dirties]

/-- Two threads owe overlapping objects, one an object of no bytes, and one nothing: three are counted
first to last and last to first, and one table is left. -/
theorem flushAll_in_any_order_last_to_first :
    ∃ t, CardTable.create ⟨⟨0x1000⟩, ⟨0x1800⟩, by decide⟩ 9 false = .ok t ∧
      let r : Registry := {
        marks := #[{ pending := some ⟨⟨0x1000⟩, ⟨0x1210⟩, by decide⟩ }, {},
          { pending := some ⟨⟨0x1800⟩, ⟨0x1800⟩, by decide⟩ },
          { pending := some ⟨⟨0x1200⟩, ⟨0x1610⟩, by decide⟩ }]
        entries := [(⟨1⟩, 0), (⟨2⟩, 1), (⟨3⟩, 2), (⟨4⟩, 3)]
        threads_nodup := by decide
        ids_nodup := by decide
        ids_lt := by decide }
      let r' : Registry := { r with
        entries := [(⟨4⟩, 3), (⟨3⟩, 2), (⟨2⟩, 1), (⟨1⟩, 0)]
        threads_nodup := by decide
        ids_nodup := by decide
        ids_lt := by decide }
      r.Reordered r' ∧
      (∀ entry ∈ r.entries, ∀ o, (r.mark entry.2).pending = some o →
        (((Barrier.cardTable true).writeRegion o).run t).answer = .ok ()) ∧
      ∃ one other table log log',
        (flushAll (.cardTable true)).run (r, t) = ⟨.ok 3, (one, table), log⟩ ∧
        (flushAll (.cardTable true)).run (r', t) = ⟨.ok 3, (other, table), log'⟩ ∧
        ∀ i, table.hasDirty i = true ↔ t.hasDirty i = true ∨
          ∃ entry ∈ r.entries, ∃ o, (r.mark entry.2).pending = some o ∧ t.Touches i o := by
  obtain ⟨t, hcreate⟩ : ∃ t, CardTable.create ⟨⟨0x1000⟩, ⟨0x1800⟩, by decide⟩ 9 false = .ok t :=
    ⟨_, rfl⟩
  refine ⟨t, hcreate, ?_⟩
  intro r r'
  obtain ⟨hcovered, hlog⟩ := CardLayout.ofCovered_eq_ok (CardTable.create_eq_ok hcreate).1
  have hfits : t.Fits := by
    rw [CardLayout.Fits, hcovered, hlog]
    decide
  have horder : r.Reordered r' := ⟨rfl, List.reverse_perm r.entries⟩
  have hinside : ∀ entry ∈ r.entries, ∀ o ∈ (r.mark entry.2).pending,
      t.covered.containsRegion o = true := by
    rw [hcovered]
    decide
  have hmarkable : ∀ entry ∈ r.entries, ∀ o, (r.mark entry.2).pending = some o →
      (((Barrier.cardTable true).writeRegion o).run t).answer = .ok () := fun entry hentry o ho =>
    Barrier.canMark_iff.1 ⟨hinside entry hentry o ho, .inl hfits⟩
  obtain ⟨one, other, table, log, log', hrun, hrun', -, -, -, -, -, -, -, -, hdirty, -⟩ :=
    flushAll_in_any_order horder (by decide) hmarkable
  exact ⟨horder, hmarkable, one, other, table, log, log', hrun, hrun', hdirty true rfl⟩

end WriteBarrier.Registry
