/-
What is lost when a discharge fails: the one obligation that it failed on.

The obligation leaves its mark before the barrier is asked for its cards, and a
barrier may have to refuse. The barrier of another set does where that set does
not cover the object; and a table whose rounding wraps has no card for it. Then
the mark is idle as if it had been discharged, and no card tells of the object.
Nothing else is lost: to go through all marks is to stop at this one, those
before it are discharged and those after it are as they were.
-/
import WriteBarrier.Proofs.Detachment
import WriteBarrier.Proofs.FlushOrder

namespace WriteBarrier

open Registry (CanMeet OwedBy Reordered)

/-! ## What is lost -/

namespace Registry

variable {b : Barrier} {id j : MarkId} {s s' : Registry × CardTable} {o : Region}

/-- What the mark owed is not lost: it is pending still, or its cards are dirty. -/
def Accounted (s s' : Registry × CardTable) (id : MarkId) : Prop :=
  ∀ o, (s.1.mark id).pending = some o →
    (s'.1.mark id).pending = some o ∨
      ∀ i < s.2.numCards, s.2.Touches i o → s'.2.hasDirty i = true

/-- How a discharge fails. -/
inductive Fails (b : Barrier) (id : MarkId) (s : Registry × CardTable) : Registry × CardTable → Prop
  /-- The thread has left, and owes nothing. -/
  | detached (h : (s.1.mark id).attached = false) (hidle : (s.1.mark id).pending = none) :
      Fails b id s s
  /-- What is owed cannot be marked, and is owed no more. -/
  | dropped {o : Region} (hattached : (s.1.mark id).attached = true)
      (hpending : (s.1.mark id).pending = some o) (hcannot : ¬ b.CanMark s.2.toCardLayout o) :
      Fails b id s (s.1.setMark id (s.1.mark id).settled, s.2)

theorem fails_of_error {f : Fault}
    (hidle : (s.1.mark id).attached = false → (s.1.mark id).pending = none)
    (h : ((discharge b id).run s).answer = .error f) :
    Fails b id s ((discharge b id).run s).state := by
  cases hattached : (s.1.mark id).attached with
  | false =>
    rw [discharge_detached hattached]
    exact .detached hattached (hidle hattached)
  | true =>
    by_cases hmeet : CanMeet b s id
    · obtain ⟨s', hrun, -⟩ := discharge_of_canMeet hattached hmeet
      rw [hrun] at h
      cases h
    · obtain ⟨o, hpending, hcannot⟩ := exists_of_not_canMeet hmeet
      obtain ⟨f', hrun⟩ := discharge_of_not_canMark hattached hpending hcannot
      rw [hrun]
      exact .dropped hattached hpending hcannot

theorem dirties_of_not_canMark {o' : Region} {l : CardLayout} {i : Nat} (h : ¬ b.CanMark l o) :
    b.Dirties l (.region o') i ↔ l.Touches i o' := by
  cases b with
  | noBarrier => exact absurd trivial h
  | cardTable d => rfl

/-- What a discharge of all marks leaves when it has discharged those of `before`, and fails on `id`. -/
structure BrokenOff (b : Barrier) (before : List MarkId) (id : MarkId) (o : Region)
    (s s' : Registry × CardTable) : Prop where
  not_mem : id ∉ before
  pending : (s.1.mark id).pending = some o
  cannot : ¬ b.CanMark s.2.toCardLayout o
  mark_eq : s'.1.mark id = (s.1.mark id).settled
  mark_eq_of_ne : ∀ j ≠ id, s'.1.mark j = if j ∈ before then (s.1.mark j).settled else s.1.mark j
  marked : CardTable.Marked (OwedBy b s before) s.2 s'.2

namespace BrokenOff

variable {before : List MarkId}

/-- No other obligation is lost. -/
theorem accounted_of_ne (h : BrokenOff b before id o s s') (hj : j ≠ id) : Accounted s s' j := by
  intro o' ho'
  rw [h.mark_eq_of_ne j hj]
  by_cases hbefore : j ∈ before
  · refine .inr fun i _ hi => (h.marked.hasDirty_iff i).2 (.inr ?_)
    exact ⟨j, hbefore, o', ho', (dirties_of_not_canMark h.cannot).2 hi⟩
  · rw [if_neg hbefore]
    exact .inl ho'

/-- This one is lost unless its cards are dirty on another account. -/
theorem accounted_iff (h : BrokenOff b before id o s s') :
    Accounted s s' id ↔ ∀ i < s.2.numCards, s.2.Touches i o →
      s.2.hasDirty i = true ∨ OwedBy b s before i := by
  simp only [Accounted, h.pending, h.mark_eq, ← h.marked.hasDirty_iff]
  simp [DeferredMark.settled]

end BrokenOff

/-- To discharge all marks is to meet them all, or to break off at one that the barrier cannot meet. -/
theorem flushAll_cases (hattached : ∀ entry ∈ s.1.entries, (s.1.mark entry.2).attached = true) :
    (∀ entry ∈ s.1.entries, CanMeet b s entry.2) ∧ (∃ n, ((flushAll b).run s).answer = .ok n) ∨
      ∃ before id rest o f, s.1.entries.map Prod.snd = before ++ id :: rest ∧
        BrokenOff b before id o s ((flushAll b).run s).state ∧
        ((flushAll b).run s).answer = .error f := by
  by_cases hmeet : ∀ entry ∈ s.1.entries, CanMeet b s entry.2
  · obtain ⟨s', hrun, -⟩ := flushAll_of_canMeet hattached hmeet
    exact .inl ⟨hmeet, _, by rw [hrun]⟩
  · obtain ⟨before, id, rest, o, s₁, f, log, hids, hnew, hpending, hcannot, hd, hrun⟩ :=
      dischargeEach_breaks_off (List.forall_mem_map.2 hattached)
        (fun hall => hmeet (List.forall_mem_map.1 hall))
    rw [flushAll_run, hrun]
    refine .inr ⟨before, id, rest, o, f, hids, ⟨hnew, hpending, hcannot, ?_, fun j hj => ?_, hd.marked⟩,
      rfl⟩
    · have hid : id ∈ s.1.entries.map Prod.snd := by simp [hids]
      obtain ⟨entry, hentry, rfl⟩ := List.mem_map.1 hid
      have hstill : (s₁.1.mark entry.2).attached = true :=
        (hd.attached entry.2).trans (hattached entry hentry)
      rw [mark_setMark (lt_of_attached hstill), hd.mark_eq, if_neg hnew]
    · rw [mark_setMark_of_ne hj, hd.mark_eq]

end Registry

/-! ## In a session -/

namespace Session

open Registry (Accounted BrokenOff Fails)

variable {options : Options} {events : List Event} {i : Nat} {s : BarrierSet}

/-- **A discharge that fails loses one obligation, and no other.** Take a set of any session, and any
barrier over any table. A single discharge fails on a detached mark, which owes nothing, and changes
nothing; or it fails because the barrier cannot mark what is owed, and then the mark is idle, and
nothing else has changed. The same holds of a mutator's discharge, through the barrier of its own set.
To discharge all marks, in whatever order, fails if there is one that the barrier cannot meet. It
breaks off at such a mark: what every other mark owed is accounted for, and what this one owed is lost,
but for cards that were dirty before or became dirty for a mark discharged before. -/
theorem failed_discharge_loses_one_obligation (hset : (run { options } events).sets[i]? = some s)
    (b : Barrier) (t : CardTable) :
    (∀ id f, ((Registry.discharge b id).run (s.registry, t)).answer = .error f →
      Fails b id (s.registry, t) ((Registry.discharge b id).run (s.registry, t)).state) ∧
    (∀ m f, ((BarrierSet.flush m).run s).answer = .error f → ∃ marks,
      Fails s.barrier m.mark (s.registry, s.table) marks ∧
        ((BarrierSet.flush m).run s).state = s.withMarks marks) ∧
    ∀ r, Reordered s.registry r →
      let after := (Registry.flushAll b).run (r, t)
      ((∃ f, after.answer = .error f) ↔ ∃ entry ∈ r.entries, ¬ CanMeet b (r, t) entry.2) ∧
      ∀ f, after.answer = .error f → ∃ before id rest o,
        r.entries.map Prod.snd = before ++ id :: rest ∧
        BrokenOff b before id o (r, t) after.state ∧
        (∀ j ≠ id, Accounted (r, t) after.state j) ∧
        (Accounted (r, t) after.state id ↔
          ∀ card < t.numCards, t.Touches card o →
            t.hasDirty card = true ∨ OwedBy b (r, t) before card) := by
  have hidle := idle_of_detached hset
  refine ⟨fun id f h => Registry.fails_of_error (hidle id) h, fun m f h => ?_, fun r horder => ?_⟩
  · rw [BarrierSet.flush_run] at h ⊢
    exact ⟨_, Registry.fails_of_error (hidle m.mark) h, rfl⟩
  · intro after
    have hattached := horder.entered_attached (entered_attached hset)
    obtain ⟨hmeet, n, hok⟩ | ⟨before, id, rest, o, f, hids, hbroken, herror⟩ :=
      Registry.flushAll_cases (b := b) (s := (r, t)) hattached
    · have hno : ∀ f, after.answer ≠ .error f := by
        intro f h
        rw [hok] at h
        cases h
      refine ⟨⟨fun h => absurd h.choose_spec (hno _), fun h => ?_⟩, fun f h => absurd h (hno f)⟩
      obtain ⟨entry, hentry, hcannot⟩ := h
      exact absurd (hmeet entry hentry) hcannot
    · refine ⟨⟨fun _ => ?_, fun _ => ⟨f, herror⟩⟩, fun _ _ => ⟨before, id, rest, o, hids, hbroken,
        fun j hj => hbroken.accounted_of_ne hj, hbroken.accounted_iff⟩⟩
      have hid : id ∈ r.entries.map Prod.snd := by simp [hids]
      obtain ⟨entry, hentry, rfl⟩ := List.mem_map.1 hid
      exact ⟨entry, hentry, fun hmeet => hbroken.cannot (hmeet o hbroken.pending)⟩

/-- Three threads owe objects when their marks are discharged through the barrier of a set that covers
less. What the second one owes reaches past that set, and is lost; the other two are accounted for. -/
theorem failed_discharge_loses_one_obligation_narrower_set :
    let S := run {} [.build ⟨⟨0x1000⟩, ⟨0x2000⟩, by decide⟩, .build ⟨⟨0x1000⟩, ⟨0x1400⟩, by decide⟩,
      .on 0 (.attach ⟨1⟩), .on 0 (.fastAllocation ⟨⟨1⟩, 0⟩ ⟨⟨0x1000⟩, ⟨0x1010⟩, by decide⟩),
      .on 0 (.attach ⟨2⟩), .on 0 (.fastAllocation ⟨⟨2⟩, 1⟩ ⟨⟨0x13f0⟩, ⟨0x1410⟩, by decide⟩),
      .on 0 (.attach ⟨3⟩), .on 0 (.fastAllocation ⟨⟨3⟩, 2⟩ ⟨⟨0x1200⟩, ⟨0x1210⟩, by decide⟩)]
    ∃ s narrow, S.sets[0]? = some s ∧ S.sets[1]? = some narrow ∧
      let before := (s.registry, narrow.table)
      let after := (Registry.flushAll narrow.barrier).run before
      after.answer = .error (.regionNotCovered ⟨⟨0x13f0⟩, ⟨0x1410⟩, by decide⟩ narrow.table.covered) ∧
        ¬ Accounted before after.state 1 ∧ ∀ j ≠ 1, Accounted before after.state j := by
  intro S
  have hset := Array.getElem?_eq_getElem (show 0 < S.sets.size by decide +kernel)
  have hnarrow := Array.getElem?_eq_getElem (show 1 < S.sets.size by decide +kernel)
  refine ⟨_, _, hset, hnarrow, ?_⟩
  intro before after
  have herror : after.answer =
      .error (.regionNotCovered ⟨⟨0x13f0⟩, ⟨0x1410⟩, by decide⟩ S.sets[1].table.covered) := by
    decide +kernel
  have hlost : ¬ Accounted before after.state 1 := by
    intro h
    obtain hpending | hdirty := h ⟨⟨0x13f0⟩, ⟨0x1410⟩, by decide⟩ (by decide +kernel)
    · exact absurd hpending (by decide +kernel)
    · have htouches : before.2.Touches 1 ⟨⟨0x13f0⟩, ⟨0x1410⟩, by decide⟩ :=
        ⟨0x13f0, by decide, by decide, by decide +kernel⟩
      exact absurd (hdirty 1 (by decide +kernel) htouches) (by decide +kernel)
  obtain ⟨-, -, hall⟩ :=
    failed_discharge_loses_one_obligation hset S.sets[1].barrier S.sets[1].table
  obtain ⟨done, id, rest, o, -, -, hothers, -⟩ := (hall _ ⟨rfl, .refl _⟩).2 _ herror
  -- Had the discharge failed on another mark, this one would be accounted for.
  have hid : id = 1 := by
    by_contra hne
    exact hlost (hothers 1 (Ne.symm hne))
  rw [hid] at hothers
  exact ⟨herror, hlost, hothers⟩

/-- To discharge all marks of a set through the barrier of another can lose what was owed: nothing is
pending, and a card of the table is clean that the object touches. -/
theorem failed_discharge_can_lose :
    ¬ ∀ (events : List Event) (i k : Nat) (s other : BarrierSet),
      (run {} events).sets[i]? = some s → (run {} events).sets[k]? = some other →
      ∀ f, ((Registry.flushAll other.barrier).run (s.registry, other.table)).answer = .error f →
        ∀ id, Accounted (s.registry, other.table)
          ((Registry.flushAll other.barrier).run (s.registry, other.table)).state id := by
  intro h
  let o : Region := ⟨⟨0x10ff0⟩, ⟨0x11010⟩, by decide⟩
  let S := run {} [.build ⟨⟨0x10000⟩, ⟨0x12000⟩, by decide⟩,
    .build ⟨⟨0x10000⟩, ⟨0x11000⟩, by decide⟩, .on 0 (.attach ⟨1⟩), .on 0 (.fastAllocation ⟨⟨1⟩, 0⟩ o)]
  have hset := Array.getElem?_eq_getElem (show 0 < S.sets.size by decide +kernel)
  have hother := Array.getElem?_eq_getElem (show 1 < S.sets.size by decide +kernel)
  have haccounted := h _ 0 1 _ _ hset hother (.regionNotCovered o S.sets[1].table.covered)
    (by decide +kernel) 0
  -- Named, the state is not evaluated again by every comparison of types.
  generalize hbefore : (S.sets[0].registry, S.sets[1].table) = before at haccounted
  obtain hpending | hdirty := haccounted o (by rw [← hbefore]; decide +kernel)
  · rw [← hbefore] at hpending
    exact absurd hpending (by decide +kernel)
  · have htouches : before.2.Touches 7 o := by
      rw [← hbefore]
      exact ⟨0x10ff0, by decide, by decide, by decide +kernel⟩
    have hclean := hdirty 7 (by rw [← hbefore]; decide +kernel) htouches
    rw [← hbefore] at hclean
    exact absurd hclean (by decide +kernel)

end Session

end WriteBarrier
