/-
What discharging does. Where the barrier can mark everything that is pending,
the marks named become idle, the cards of their objects become dirty, and
nothing else changes. Where it cannot, discharging breaks off at the first mark
whose object it cannot mark: those named before are discharged, and of the one
it stops at the obligation is gone and no card has become dirty for it.
-/
import WriteBarrier.Registry.Discharge
import WriteBarrier.Proofs.Entries
import WriteBarrier.Proofs.Marking

namespace WriteBarrier

open CardTable (Marked)

/-- The mark after its obligation is met. -/
def DeferredMark.settled (m : DeferredMark) : DeferredMark := { m with pending := none }

theorem DeferredMark.settled_of_idle {m : DeferredMark} (h : m.pending = none) : m.settled = m := by
  rw [settled, ← h]

namespace Registry

variable {b : Barrier} {id : MarkId} {ids : List MarkId} {s s' s'' : Registry × CardTable} {i : Nat}

theorem lt_of_attached {r : Registry} (h : (r.mark id).attached = true) : id < r.marks.size := by
  by_contra hge
  have hnone : r.marks[id]? = none := Array.getElem?_eq_none (Nat.le_of_not_lt hge)
  simp [mark, hnone] at h

theorem takePending_run {r : Registry} (h : (r.mark id).attached = true) :
    (takePending id).run r = ⟨.ok (r.mark id).pending, r.setMark id (r.mark id).settled, []⟩ := by
  simp [takePending, Action.run_bind, h, DeferredMark.settled, Except.map]

theorem takePending_error {r : Registry} (h : (r.mark id).attached = false) :
    (takePending id).run r = ⟨.error .dischargingDetached, r, []⟩ := by
  simp [takePending, Action.run_bind, h]

theorem record_ok {r : Registry} {o : Region} (h : (r.mark id).pending = none) :
    (record id o).run r = ⟨.ok (), r.setMark id { r.mark id with pending := some o }, []⟩ := by
  simp [record, Action.run_bind, h]

/-! ## Whatever keeps the card marks -/

section Trackers

variable {σ : Type} [Tracker σ] {s : Registry × σ}

theorem discharge_detached (h : (s.1.mark id).attached = false) :
    (discharge b id).run s = ⟨.error .dischargingDetached, s, []⟩ := by
  simp [discharge, Action.run_bind, onRegistry, takePending_error h]

/-- The registry after a discharge does not depend on whether the barrier takes the object. -/
theorem registry_discharge (h : (s.1.mark id).attached = true) :
    ((discharge b id).run s).state.1 = s.1.setMark id (s.1.mark id).settled := by
  cases hpending : (s.1.mark id).pending with
  | none => simp [discharge, Action.run_bind, onRegistry, takePending_run h, hpending]
  | some o => simp [discharge, Action.run_bind, onRegistry, onTracker, takePending_run h, hpending]

theorem discharge_idle (hattached : (s.1.mark id).attached = true)
    (hidle : (s.1.mark id).pending = none) : (discharge b id).run s = ⟨.ok (), s, []⟩ := by
  simp [discharge, Action.run_bind, onRegistry, takePending_run hattached, hidle,
    DeferredMark.settled_of_idle]

theorem dischargeEach_idle
    (h : ∀ id ∈ ids, (s.1.mark id).attached = true ∧ (s.1.mark id).pending = none) :
    (dischargeEach b ids).run s = ⟨.ok 0, s, []⟩ := by
  induction ids with
  | nil => rfl
  | cons id rest ih =>
    obtain ⟨hattached, hidle⟩ := h id List.mem_cons_self
    have hrest := ih fun j hj => h j (List.mem_cons_of_mem _ hj)
    simp [dischargeEach, Action.run_bind, onRegistry, discharge_idle hattached hidle, hrest, hidle]

theorem flushAll_run (b : Barrier) (s : Registry × σ) :
    (flushAll b).run s = (dischargeEach b (s.1.entries.map Prod.snd)).run s := by
  simp [flushAll, Action.run_bind, onRegistry]

theorem flushAll_idle (hattached : ∀ entry ∈ s.1.entries, (s.1.mark entry.2).attached = true)
    (hidle : ∀ entry ∈ s.1.entries, (s.1.mark entry.2).pending = none) :
    (flushAll b).run s = ⟨.ok 0, s, []⟩ := by
  rw [flushAll_run]
  exact dischargeEach_idle (List.forall_mem_map.2 fun entry hmem =>
    ⟨hattached entry hmem, hidle entry hmem⟩)

end Trackers

/-! ## What is to be discharged -/

/-- The barrier can discharge the mark: its thread is attached, and the barrier takes the object. -/
structure Dischargeable (b : Barrier) (s : Registry × CardTable) (id : MarkId) : Prop where
  attached : (s.1.mark id).attached = true
  admits : ∀ o, (s.1.mark id).pending = some o → b.Admits s.2.toCardLayout (.region o)

/-- The barrier can mark what the mark owes, if it owes anything. -/
def CanMeet (b : Barrier) (s : Registry × CardTable) (id : MarkId) : Prop :=
  ∀ o, (s.1.mark id).pending = some o → b.CanMark s.2.toCardLayout o

theorem exists_of_not_canMeet (h : ¬ CanMeet b s id) :
    ∃ o, (s.1.mark id).pending = some o ∧ ¬ b.CanMark s.2.toCardLayout o := by
  simpa [CanMeet] using h

theorem Dischargeable.canMeet (h : Dischargeable b s id) (hfits : s.2.Fits) : CanMeet b s id :=
  fun o ho => (h.admits o ho).canMark hfits

/-- What the discharges of marks report, as long as none is named twice. -/
def notices (r : Registry) (ids : List MarkId) : List Notice :=
  ids.filterMap fun id => (r.mark id).pending.map .discharging

/-- Is card `i` owed by one of the marks? -/
def OwedBy (b : Barrier) (s : Registry × CardTable) (ids : List MarkId) (i : Nat) : Prop :=
  ∃ id ∈ ids, ∃ o, (s.1.mark id).pending = some o ∧ b.Dirties s.2.toCardLayout (.region o) i

/-- What is left after the marks of `ids` are discharged. -/
structure Discharged (b : Barrier) (ids : List MarkId) (s s' : Registry × CardTable) : Prop where
  entries_eq : s'.1.entries = s.1.entries
  size_eq : s'.1.marks.size = s.1.marks.size
  mark_eq : ∀ id, s'.1.mark id = if id ∈ ids then (s.1.mark id).settled else s.1.mark id
  marked : Marked (OwedBy b s ids) s.2 s'.2

theorem Discharged.nil : Discharged b [] s s :=
  ⟨rfl, rfl, fun id => by simp, Marked.refl fun i h => by simp [OwedBy] at h⟩

theorem Discharged.attached (h : Discharged b ids s s') (id : MarkId) :
    (s'.1.mark id).attached = (s.1.mark id).attached := by
  rw [h.mark_eq]
  split <;> rfl

theorem Discharged.pending_eq_some {o : Region} (h : Discharged b ids s s') :
    (s'.1.mark id).pending = some o ↔ id ∉ ids ∧ (s.1.mark id).pending = some o := by
  rw [h.mark_eq]
  by_cases hid : id ∈ ids <;> simp [hid, DeferredMark.settled]

theorem Discharged.pending_eq_none (h : Discharged b [id] s s') :
    (s'.1.mark id).pending = none := by
  rw [h.mark_eq, if_pos (List.mem_singleton_self id)]
  rfl

theorem Discharged.canMeet (h : Discharged b ids s s') (hid : CanMeet b s id) : CanMeet b s' id := by
  intro o ho
  rw [h.marked.layout]
  exact hid o (h.pending_eq_some.1 ho).2

theorem Discharged.of_canMeet (h : Discharged b ids s s') (hid : id ∉ ids) (hmeet : CanMeet b s' id) :
    CanMeet b s id := by
  intro o ho
  rw [← h.marked.layout]
  exact hmeet o (h.pending_eq_some.2 ⟨hid, ho⟩)

theorem Discharged.cons (h : Discharged b [id] s s') (hrest : Discharged b ids s' s'') :
    Discharged b (id :: ids) s s'' := by
  refine ⟨hrest.entries_eq.trans h.entries_eq, hrest.size_eq.trans h.size_eq, fun j => ?_, ?_⟩
  · rw [hrest.mark_eq, h.mark_eq]
    by_cases hj : j = id <;> by_cases hjs : j ∈ ids <;> simp [hj, hjs, DeferredMark.settled]
  · refine (h.marked.trans hrest.marked).congr fun i => ?_
    constructor
    · intro howed
      obtain ⟨j, hj, o, ho, hi⟩ | ⟨j, hj, o, ho, hi⟩ := howed
      · exact ⟨j, List.mem_cons.2 (.inl (List.mem_singleton.1 hj)), o, ho, hi⟩
      · rw [h.marked.layout] at hi
        exact ⟨j, List.mem_cons_of_mem _ hj, o, (h.pending_eq_some.1 ho).2, hi⟩
    · intro howed
      obtain ⟨j, hj, o, ho, hi⟩ := howed
      -- Named again later on, the mark is idle by then.
      by_cases hfirst : j = id
      · exact .inl ⟨j, List.mem_singleton.2 hfirst, o, ho, hi⟩
      · have hlater : j ∈ ids := (List.mem_cons.1 hj).resolve_left hfirst
        refine .inr ⟨j, hlater, o, h.pending_eq_some.2 ⟨by simpa using hfirst, ho⟩, ?_⟩
        rw [h.marked.layout]
        exact hi

/-! ## One mark -/

/-- The obligation leaves its mark, and ends as the barrier's marking of the object does. -/
theorem discharge_of_pending {o : Region} (hattached : (s.1.mark id).attached = true)
    (hpending : (s.1.mark id).pending = some o) :
    (discharge b id).run s =
      ⟨((b.invalidate o).run s.2).answer,
        (s.1.setMark id (s.1.mark id).settled, ((b.invalidate o).run s.2).state),
        .discharging o :: ((b.invalidate o).run s.2).log⟩ := by
  simp [discharge, Action.run_bind, onRegistry, onTracker, takePending_run hattached, hpending,
    Barrier.writeRegion]

/-- The faults of a discharge: its mark is detached, or the barrier cannot mark what it owes. -/
theorem discharge_fault {f : Fault} (h : ((discharge b id).run s).answer = .error f) :
    f = .dischargingDetached ∨
      ∃ o, (s.1.mark id).pending = some o ∧ ((b.invalidate o).run s.2).answer = .error f := by
  cases hattached : (s.1.mark id).attached with
  | false =>
    rw [discharge_detached hattached] at h
    cases h
    exact .inl rfl
  | true =>
    cases hpending : (s.1.mark id).pending with
    | none =>
      rw [discharge_idle hattached hpending] at h
      cases h
    | some o =>
      rw [discharge_of_pending hattached hpending] at h
      exact .inr ⟨o, rfl, h⟩

theorem mark_settle (hattached : (s.1.mark id).attached = true) (j : MarkId) :
    (s.1.setMark id (s.1.mark id).settled).mark j =
      if j ∈ [id] then (s.1.mark j).settled else s.1.mark j := by
  by_cases hj : j = id
  · subst hj
    rw [mark_setMark (lt_of_attached hattached), if_pos (List.mem_singleton_self _)]
  · rw [mark_setMark_of_ne hj, if_neg (by simpa using hj)]

/-- **One discharge** succeeds where the barrier can meet what the mark owes. -/
theorem discharge_of_canMeet (hattached : (s.1.mark id).attached = true) (h : CanMeet b s id) :
    ∃ s', (discharge b id).run s = ⟨.ok (), s', notices s.1 [id]⟩ ∧ Discharged b [id] s s' := by
  have hmark := mark_settle hattached
  have hsize := size_marks_setMark s.1 id (s.1.mark id).settled
  cases hp : (s.1.mark id).pending with
  | none =>
    refine ⟨(s.1.setMark id (s.1.mark id).settled, s.2), ?_, rfl, hsize, hmark, ?_⟩
    · simp [discharge, Action.run_bind, onRegistry, takePending_run hattached, hp, notices]
    refine Marked.refl fun i howed => ?_
    obtain ⟨j, hj, o, ho, _⟩ := howed
    rw [List.mem_singleton.1 hj, hp] at ho
    cases ho
  | some o =>
    obtain ⟨t', hrun, hmarked⟩ := Barrier.invalidate_of_canMark (h o hp)
    refine ⟨(s.1.setMark id (s.1.mark id).settled, t'), ?_, rfl, hsize, hmark, ?_⟩
    · rw [discharge_of_pending hattached hp, hrun]
      simp [notices, hp]
    · refine hmarked.congr fun i => ?_
      simp [OwedBy, hp]

/-- Where the barrier cannot, the obligation has left the mark, and nothing else has happened. -/
theorem discharge_of_not_canMark {o : Region} (hattached : (s.1.mark id).attached = true)
    (hpending : (s.1.mark id).pending = some o) (h : ¬ b.CanMark s.2.toCardLayout o) :
    ∃ f, (discharge b id).run s =
      ⟨.error f, (s.1.setMark id (s.1.mark id).settled, s.2), [.discharging o]⟩ := by
  obtain ⟨f, hrun⟩ := Barrier.invalidate_of_not_canMark h
  refine ⟨f, ?_⟩
  rw [discharge_of_pending hattached hpending, hrun]

theorem discharge_ok (hfits : s.2.Fits) (h : Dischargeable b s id) :
    ∃ s' log, (discharge b id).run s = ⟨.ok (), s', log⟩ ∧ Discharged b [id] s s' := by
  obtain ⟨s', hrun, hd⟩ := discharge_of_canMeet h.attached (h.canMeet hfits)
  exact ⟨s', _, hrun, hd⟩

/-! ## One mark after another -/

/-- **Discharging one mark after another** succeeds where the barrier can meet what each of them owes,
and counts those that owe something. -/
theorem dischargeEach_of_canMeet (hattached : ∀ id ∈ ids, (s.1.mark id).attached = true)
    (h : ∀ id ∈ ids, CanMeet b s id) (hnodup : ids.Nodup) :
    ∃ s', (dischargeEach b ids).run s =
        ⟨.ok (ids.countP fun id => (s.1.mark id).pending.isSome), s', notices s.1 ids⟩ ∧
      Discharged b ids s s' := by
  induction ids generalizing s with
  | nil => exact ⟨s, rfl, Discharged.nil⟩
  | cons id rest ih =>
    obtain ⟨hnew, hnodup⟩ := List.nodup_cons.1 hnodup
    obtain ⟨s₁, hrun₁, hone⟩ :=
      discharge_of_canMeet (hattached id List.mem_cons_self) (h id List.mem_cons_self)
    -- The others are as they were.
    have hsame : ∀ j ∈ rest, s₁.1.mark j = s.1.mark j := by
      intro j hj
      rw [hone.mark_eq, if_neg]
      intro hmem
      rw [List.mem_singleton.1 hmem] at hj
      exact hnew hj
    have hattached₁ : ∀ j ∈ rest, (s₁.1.mark j).attached = true := fun j hj =>
      (hone.attached j).trans (hattached j (List.mem_cons_of_mem _ hj))
    obtain ⟨s₂, hrun₂, hothers⟩ := ih hattached₁
      (fun j hj => hone.canMeet (h j (List.mem_cons_of_mem _ hj))) hnodup
    have hcount : rest.countP (fun j => (s₁.1.mark j).pending.isSome) =
        rest.countP fun j => (s.1.mark j).pending.isSome :=
      List.countP_congr fun j hj => by rw [hsame j hj]
    have hnotices : notices s₁.1 rest = notices s.1 rest :=
      List.filterMap_congr fun j hj => by rw [hsame j hj]
    have hlog : notices s.1 (id :: rest) = notices s.1 [id] ++ notices s.1 rest :=
      List.filterMap_append (l := [id])
    refine ⟨s₂, ?_, hone.cons hothers⟩
    rw [hlog, ← hnotices, List.countP_cons, ← hcount]
    cases hpending : (s.1.mark id).pending <;>
      simp [dischargeEach, Action.run_bind, onRegistry, hrun₁, hrun₂, hpending, Except.map]

/-- **It breaks off** at the first mark that owes what the barrier cannot mark, when all before it are
discharged. -/
theorem dischargeEach_breaks_off (hattached : ∀ id ∈ ids, (s.1.mark id).attached = true)
    (h : ¬ ∀ id ∈ ids, CanMeet b s id) :
    ∃ before id after o s₁ f log, ids = before ++ id :: after ∧ id ∉ before ∧
      (s.1.mark id).pending = some o ∧ ¬ b.CanMark s.2.toCardLayout o ∧
      Discharged b before s s₁ ∧
      (dischargeEach b ids).run s =
        ⟨.error f, (s₁.1.setMark id (s₁.1.mark id).settled, s₁.2), log⟩ := by
  induction ids generalizing s with
  | nil => exact absurd (by simp) h
  | cons id rest ih =>
    have hid : (s.1.mark id).attached = true := hattached id List.mem_cons_self
    by_cases hmeet : CanMeet b s id
    · obtain ⟨s₁, hrun₁, hone⟩ := discharge_of_canMeet hid hmeet
      have hattached₁ : ∀ j ∈ rest, (s₁.1.mark j).attached = true := fun j hj =>
        (hone.attached j).trans (hattached j (List.mem_cons_of_mem _ hj))
      have hlater : ¬ ∀ j ∈ rest, CanMeet b s₁ j := by
        intro hall
        refine h fun j hj => ?_
        by_cases hj' : j = id
        · rw [hj']
          exact hmeet
        · exact hone.of_canMeet (by simpa using hj')
            (hall j ((List.mem_cons.1 hj).resolve_left hj'))
      obtain ⟨before, j, after, o, s₂, f, log, rfl, hnew, hpending, hcannot, hbefore, hrun₂⟩ :=
        ih hattached₁ hlater
      obtain ⟨hj, hpending⟩ := hone.pending_eq_some.1 hpending
      rw [hone.marked.layout] at hcannot
      refine ⟨id :: before, j, after, o, s₂, f, notices s.1 [id] ++ log, rfl, ?_, hpending, hcannot,
        hone.cons hbefore, ?_⟩
      · rw [List.mem_cons, not_or]
        exact ⟨by simpa using hj, hnew⟩
      · simp [dischargeEach, Action.run_bind, onRegistry, hrun₁, hrun₂, Except.map]
    · obtain ⟨o, hpending, hcannot⟩ := exists_of_not_canMeet hmeet
      obtain ⟨f, hrun⟩ := discharge_of_not_canMark hid hpending hcannot
      refine ⟨[], id, rest, o, s, f, [.discharging o], rfl, by simp, hpending, hcannot,
        Discharged.nil, ?_⟩
      simp [dischargeEach, Action.run_bind, onRegistry, hrun]

/-! ## All that are entered -/

theorem flushAll_of_canMeet
    (hattached : ∀ entry ∈ s.1.entries, (s.1.mark entry.2).attached = true)
    (h : ∀ entry ∈ s.1.entries, CanMeet b s entry.2) :
    ∃ s', (flushAll b).run s =
        ⟨.ok (s.1.entries.countP fun entry => (s.1.mark entry.2).pending.isSome), s',
          notices s.1 (s.1.entries.map Prod.snd)⟩ ∧
      Discharged b (s.1.entries.map Prod.snd) s s' := by
  obtain ⟨s', hrun, hall⟩ := dischargeEach_of_canMeet (List.forall_mem_map.2 hattached)
    (List.forall_mem_map.2 h) s.1.ids_nodup
  refine ⟨s', ?_, hall⟩
  rw [flushAll_run, hrun, List.countP_map]
  rfl

theorem flushAll_ok (hfits : s.2.Fits) (h : ∀ entry ∈ s.1.entries, Dischargeable b s entry.2) :
    ∃ s' n log, (flushAll b).run s = ⟨.ok n, s', log⟩ ∧
      Discharged b (s.1.entries.map Prod.snd) s s' := by
  obtain ⟨s', hrun, hall⟩ := flushAll_of_canMeet (fun entry hmem => (h entry hmem).attached)
    fun entry hmem => (h entry hmem).canMeet hfits
  exact ⟨s', _, _, hrun, hall⟩

end Registry

end WriteBarrier
