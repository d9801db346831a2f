/-
The order in which threads take turns leaves no trace.

Mutators that share a card table do see each other's marks: which cards are
dirty halfway depends on who discharged what by then. But no piece of work
looks at a card, nor at the mark of another mutator. So a whole schedule can be
told from the state that it starts from: an event answers what it would have
answered at once, a mutator owes what its own work makes of what it owed, and
a card is dirty if it was, or if the work of some mutator, taken for itself,
dirties it. None of this depends on how the work of the mutators is interleaved.
-/
import WriteBarrier.Proofs.Atomicity
import WriteBarrier.Proofs.Outcomes
import WriteBarrier.Proofs.Permanence

namespace WriteBarrier

namespace BarrierSet

/-! ## Schedules -/

/-- What a thread does between attaching and leaving. -/
inductive Work where
  /-- A store, or another call to the barrier. -/
  | store (c : Barrier.Call)
  | fastAllocation (object : Region)
  | slowAllocation (object : Region)
  | flush
  | makeParsable
  deriving DecidableEq

/-- The event, when it is the thread of `m` that does it. -/
def Work.event (m : Mutator) : Work → Event
  | store c => .call c
  | fastAllocation o => .fastAllocation m o
  | slowAllocation o => .slowAllocation m o
  | flush => .flush m
  | makeParsable => .makeParsable m

/-- The work of any number of mutators, in the order in which it is done. -/
abbrev Schedule := List (Mutator × Work)

def Schedule.events (x : Schedule) : List Event := x.map fun turn => turn.2.event turn.1

/-- The work of one mutator, in its order. -/
def Schedule.workOf (x : Schedule) (m : Mutator) : List Work :=
  (x.filter fun turn => turn.1 = m).map Prod.snd

/-- Every mutator does its own program, in its order. -/
def Interleaves (program : Mutator → List Work) (x : Schedule) : Prop :=
  ∀ m, x.workOf m = program m

variable {s s' s'' a b : BarrierSet} {m m' : Mutator} {o : Region} {w : Work} {e : Event} {i : Nat}
  {answer : Except Fault Reply} {owed owed' : Mutator → Option Region} {marks marks' : Nat → Prop}
  {x one other : Schedule} {program : Mutator → List Work} {options : Options} {covered : Region}
  {before : List Event}

theorem Schedule.workOf_cons_self (m : Mutator) (w : Work) (x : Schedule) :
    workOf ((m, w) :: x) m = w :: x.workOf m := by
  simp [workOf]

theorem Schedule.workOf_cons_of_ne (h : m' ≠ m) (w : Work) (x : Schedule) :
    workOf ((m, w) :: x) m' = x.workOf m' := by
  simp [workOf, h.symm]

theorem Interleaves.mem_events_iff (h : Interleaves program x) :
    e ∈ x.events ↔ ∃ m, ∃ w ∈ program m, w.event m = e := by
  simp only [← h _, Schedule.events, Schedule.workOf, List.mem_map, List.mem_filter]
  constructor
  · rintro ⟨⟨m, w⟩, hmem, rfl⟩
    exact ⟨m, w, ⟨(m, w), ⟨hmem, by simp⟩, rfl⟩, rfl⟩
  · rintro ⟨m, w, ⟨turn, ⟨hmem, hm⟩, rfl⟩, rfl⟩
    exact ⟨turn, hmem, by rw [of_decide_eq_true hm]⟩

theorem Work.freshAttach (s : BarrierSet) (m : Mutator) (w : Work) : FreshAttach s (w.event m) := by
  cases w <;> exact trivial

/-! ## What work changes -/

/-- What a mutator owes after a piece of work, if it owed `p`. -/
def Work.owes (s : BarrierSet) (p : Option Region) : Work → Option Region
  | store _ => p
  | fastAllocation o => allocation o
  | slowAllocation o => allocation o
  | flush => none
  | makeParsable => none
where
  allocation (o : Region) : Option Region :=
    if s.policy = .deferred ∧ s.table.covered.containsRegion o = true then some o else p

/-- The cards that a piece of work dirties on the spot, if `p` was owed. -/
def Work.Dirties (s : BarrierSet) (m : Mutator) (p : Option Region) : Work → Nat → Prop
  | store c, i => s.barrier.Admits s.table.toCardLayout c.target ∧
      s.barrier.Dirties s.table.toCardLayout c.target i
  | fastAllocation o, i => allocation o i
  | slowAllocation o, i => allocation o i
  | flush, i => discharge i
  | makeParsable, i => discharge i
where
  discharge (i : Nat) : Prop := m ∈ s.mutators ∧ ∃ o, p = some o ∧ s.table.Touches i o
  allocation (o : Region) (i : Nat) : Prop :=
    (s.policy = .deferred ∧ s.table.covered.containsRegion o = true) ∧ discharge i

/-- The cards that a program dirties as it goes, starting with `p` owed. -/
def Dirtied (s : BarrierSet) (m : Mutator) (p : Option Region) : List Work → Nat → Prop
  | [], _ => False
  | w :: rest, i => w.Dirties s m p i ∨ Dirtied s m (w.owes s p) rest i

/-- The cards that an event records in `s`: those that it adds, unless it is a fault. -/
def Records (s : BarrierSet) (e : Event) (i : Nat) : Prop :=
  (∃ reply, s.verdict e = .ok reply) ∧ e.Adds s i

/-- Without a mutator there is nothing to discharge. -/
theorem dirtied_of_not_mem (hm : m ∉ s.mutators) (p p' : Option Region) (works : List Work) :
    Dirtied s m p works i ↔ Dirtied s m p' works i := by
  induction works generalizing p p' with
  | nil => exact Iff.rfl
  | cons w rest ih =>
    have hfirst : w.Dirties s m p i ↔ w.Dirties s m p' i := by
      cases w <;> simp [Work.Dirties, Work.Dirties.allocation, Work.Dirties.discharge, hm]
    exact or_congr hfirst (ih _ _)

/-- `s'` came of `s` by work: the cards of `marks` are dirty besides, and the mutators owe what `owed`
says. All else is as it was. -/
structure Worked (owed : Mutator → Option Region) (marks : Nat → Prop) (s s' : BarrierSet) :
    Prop where
  options_eq : s'.options = s.options
  mutators_eq : s'.mutators = s.mutators
  marked : CardTable.Marked marks s.table s'.table
  entries_eq : s'.registry.entries = s.registry.entries
  size_eq : s'.registry.marks.size = s.registry.marks.size
  mark_of_mem : ∀ m ∈ s.mutators,
    s'.registry.mark m.mark = { s.registry.mark m.mark with pending := owed m }
  mark_of_not_mem : ∀ id, (∀ m ∈ s.mutators, m.mark ≠ id) →
    s'.registry.mark id = s.registry.mark id

namespace Worked

theorem refl (h : ∀ i, ¬ marks i) : Worked s.pending marks s s :=
  ⟨rfl, rfl, .refl h, rfl, rfl, fun _ _ => rfl, fun _ _ => rfl⟩

/-- What is owed last is what counts; the cards add up. -/
theorem trans (h : Worked owed marks s s') (h' : Worked owed' marks' s' s'') :
    Worked owed' (fun i => marks i ∨ marks' i) s s'' where
  options_eq := h'.options_eq.trans h.options_eq
  mutators_eq := h'.mutators_eq.trans h.mutators_eq
  marked := h.marked.trans h'.marked
  entries_eq := h'.entries_eq.trans h.entries_eq
  size_eq := h'.size_eq.trans h.size_eq
  mark_of_mem m hm := by
    rw [h'.mark_of_mem m (h.mutators_eq ▸ hm), h.mark_of_mem m hm]
  mark_of_not_mem id hid := by
    rw [h'.mark_of_not_mem id (h.mutators_eq ▸ hid), h.mark_of_not_mem id hid]

theorem congr (h : Worked owed marks s s') (howed : ∀ m ∈ s.mutators, owed m = owed' m)
    (hmarks : ∀ i, marks i ↔ marks' i) : Worked owed' marks' s s' :=
  { h with
    marked := h.marked.congr hmarks
    mark_of_mem := fun m hm => by rw [h.mark_of_mem m hm, howed m hm] }

theorem pending_eq (h : Worked owed marks s s') (hm : m ∈ s.mutators) : s'.pending m = owed m := by
  rw [pending, h.mark_of_mem m hm]

theorem barrier_eq (h : Worked owed marks s s') : s'.barrier = s.barrier := by
  rw [barrier, barrier, h.options_eq]

theorem policy_eq (h : Worked owed marks s s') : s'.policy = s.policy := by
  rw [policy, policy, h.barrier_eq]

theorem owes_eq (h : Worked owed marks s s') : Work.owes s' = Work.owes s := by
  funext p w
  cases w <;> simp [Work.owes, Work.owes.allocation, h.policy_eq, h.marked.layout]

theorem dirtied_iff (h : Worked owed marks s s') (p : Option Region) (works : List Work) :
    Dirtied s' m p works i ↔ Dirtied s m p works i := by
  induction works generalizing p with
  | nil => exact Iff.rfl
  | cons w rest ih =>
    have hfirst : w.Dirties s' m p i ↔ w.Dirties s m p i := by
      cases w <;> simp [Work.Dirties, Work.Dirties.allocation, Work.Dirties.discharge, h.barrier_eq,
        h.policy_eq, h.mutators_eq, h.marked.layout]
    rw [Dirtied, Dirtied, hfirst, ih, h.owes_eq]

theorem verdict_eq (h : Worked owed marks s s') (m : Mutator) (w : Work) :
    s'.verdict (w.event m) = s.verdict (w.event m) := by
  cases w <;> simp [Work.event, verdict, verdict.allocation, h.mutators_eq, h.policy_eq,
    h.barrier_eq, h.marked.layout]

theorem records_iff (h : Worked owed marks s s') (m : Mutator) (w : Work) :
    Records s' (w.event m) i ↔ Records s (w.event m) i := by
  rw [Records, Records, h.verdict_eq]
  cases w <;> simp [Work.event, Event.Adds, h.mutators_eq, h.policy_eq, h.barrier_eq,
    h.marked.layout]

theorem registry_eq (h : Worked owed marks s a) (h' : Worked owed marks s b) :
    a.registry = b.registry := by
  refine Registry.eq_of_mark_eq (h.entries_eq.trans h'.entries_eq.symm)
    (h.size_eq.trans h'.size_eq.symm) fun id => ?_
  by_cases hid : ∃ m ∈ s.mutators, m.mark = id
  · rcases hid with ⟨m, hm, rfl⟩
    rw [h.mark_of_mem m hm, h'.mark_of_mem m hm]
  · have hnone : ∀ m ∈ s.mutators, m.mark ≠ id := fun m hm heq => hid ⟨m, hm, heq⟩
    rw [h.mark_of_not_mem id hnone, h'.mark_of_not_mem id hnone]

/-- **What came of one state by the same marks and debts is the same.** -/
theorem unique (h : Worked owed marks s a) (h' : Worked owed marks s b)
    (hconcurrent : a.table.scannedConcurrently = b.table.scannedConcurrently) : a = b := by
  have hoptions : a.options = b.options := h.options_eq.trans h'.options_eq.symm
  have hmutators : a.mutators = b.mutators := h.mutators_eq.trans h'.mutators_eq.symm
  have htable : a.table = b.table := by
    refine CardTable.eq_of_hasDirty (h.marked.layout.trans h'.marked.layout.symm) hconcurrent ?_
    intro i
    rw [h.marked.hasDirty_iff, h'.marked.hasDirty_iff]
  have hregistry : a.registry = b.registry := h.registry_eq h'
  cases a
  cases b
  cases hoptions
  cases hmutators
  cases htable
  cases hregistry
  rfl

end Worked

/-! ## One piece of work -/

/-- A change to the mark of one mutator, who owes `p` afterwards. -/
theorem Coherent.worked (h : Coherent s) (hm : m ∈ s.mutators) {p : Option Region}
    (hoptions : s'.options = s.options) (hmutators : s'.mutators = s.mutators)
    (hmarked : CardTable.Marked marks s.table s'.table)
    (hentries : s'.registry.entries = s.registry.entries)
    (hsize : s'.registry.marks.size = s.registry.marks.size)
    (hself : s'.registry.mark m.mark = { s.registry.mark m.mark with pending := p })
    (hothers : ∀ id, id ≠ m.mark → s'.registry.mark id = s.registry.mark id) :
    Worked (Function.update s.pending m p) marks s s' := by
  refine ⟨hoptions, hmutators, hmarked, hentries, hsize, fun m' hm' => ?_, fun id hid => ?_⟩
  · by_cases heq : m' = m
    · subst heq
      rw [hself, Function.update_self]
    · have hid : m'.mark ≠ m.mark := fun hmark => heq (h.eq_of_mark_eq hm' hm hmark)
      rw [hothers _ hid, Function.update_of_ne heq]
      rfl
  · exact hothers id (hid m hm).symm

theorem worked_same {p : Option Region} (hp : m ∈ s.mutators → p = s.pending m)
    (hmarks : ∀ i, ¬ marks i) : Worked (Function.update s.pending m p) marks s s := by
  refine (Worked.refl hmarks).congr (fun m' hm' => ?_) fun _ => Iff.rfl
  by_cases heq : m' = m
  · subst heq
    rw [Function.update_self, hp hm']
  · rw [Function.update_of_ne heq]

theorem TakesOn.mark_self (h : TakesOn s m o s') :
    s'.registry.mark m.mark = { s.registry.mark m.mark with pending := some o } := by
  have hpending : (s'.registry.mark m.mark).pending = some o := h.pending_eq
  rw [← hpending]
  show _ = DeferredMark.mk _ (s.registry.mark m.mark).attached
  rw [← h.attached_eq]

/-- An object that is taken on is owed, and the one before is discharged; one that is not changes
nothing. -/
theorem Ends.worked_of_allocation (h : Coherent s) (hm : e.mutator? = some m)
    (he : e.allocation? = some (m, o)) (hends : Ends s e answer s') :
    Worked (Function.update s.pending m (Work.owes.allocation s (s.pending m) o))
      (Work.Dirties.allocation s m (s.pending m) o) s s' := by
  unfold Work.owes.allocation
  cases hends with
  | nobody he' hnot =>
    rw [hm] at he'
    cases he'
    exact worked_same (fun hmem => absurd hmem hnot) fun i hi => hnot hi.2.1
  | ignored _ _ hp =>
    refine worked_same (fun _ => if_neg (by simp [hp])) fun i hi => ?_
    rw [hi.1.1] at hp
    cases hp
  | uncovered he' _ _ ho =>
    rw [he] at he'
    cases he'
    exact worked_same (fun _ => if_neg fun htaken => ho htaken.2) fun i hi => ho hi.1.2
  | deferred he' hmem hp ho hd =>
    rw [he] at he'
    cases he'
    have htaken : TakesOn s m o _ := takesOn_owing h hmem hd
    rw [if_pos ⟨hp, ho⟩]
    refine h.worked hmem htaken.options_eq htaken.mutators_eq ⟨htaken.layout_eq, fun i => ?_⟩
      htaken.entries_eq htaken.size_eq htaken.mark_self htaken.mark_eq
    simp [htaken.hasDirty_iff, Work.Dirties.allocation, Work.Dirties.discharge, hmem, hp, ho]
  | discharged he' => cases e <;> cases he <;> cases he'
  | enrolled | dismissed | stored | refused | tabled | untabled => cases he

theorem Ends.worked_of_discharge (h : Coherent s) (hm : e.mutator? = some m)
    (he : e.discharges? s = some [m.mark]) (hends : Ends s e answer s') :
    Worked (Function.update s.pending m none) (Work.Dirties.discharge s m (s.pending m)) s s' := by
  cases hends with
  | nobody he' hnot =>
    rw [hm] at he'
    cases he'
    exact worked_same (fun hmem => absurd hmem hnot) fun i hi => hnot hi.1
  | discharged he' hlive hd =>
    rw [he] at he'
    cases he'
    have hmem : m ∈ s.mutators := hlive m hm
    have hmarked := hd.marked.congr fun i => h.owedBy_mark_iff (i := i) hmem
    refine h.worked hmem rfl rfl ⟨hmarked.layout, fun i => ?_⟩ hd.entries_eq hd.size_eq ?_
      fun id hid => ?_
    · exact (hmarked.hasDirty_iff i).trans (by simp [Work.Dirties.discharge, hmem])
    · exact (hd.mark_eq m.mark).trans (if_pos (List.mem_singleton_self _))
    · exact (hd.mark_eq id).trans (if_neg (by simpa using hid))
  | ignored he' | uncovered he' | deferred he' => cases e <;> cases he' <;> cases he
  | enrolled | dismissed | stored | refused | tabled | untabled => cases he

theorem Ends.worked_of_call {c : Barrier.Call} (hends : Ends s (.call c) answer s') :
    Worked s.pending ((Work.store c).Dirties s m (s.pending m)) s s' := by
  cases hends with
  | stored hc hmarked =>
    refine ⟨rfl, rfl, hmarked.congr fun i => ?_, rfl, rfl, fun _ _ => rfl, fun _ _ => rfl⟩
    simp [Work.Dirties, hc]
  | refused hc => exact .refl fun i hi => hc hi.1
  | nobody he | discharged he | ignored he | uncovered he | deferred he => cases he

/-- **A piece of work** changes the mark of its mutator alone, and dirties cards. -/
theorem Ends.worked (h : Coherent s) (hends : Ends s (w.event m) answer s') :
    Worked (Function.update s.pending m (w.owes s (s.pending m))) (w.Dirties s m (s.pending m))
      s s' := by
  cases w with
  | store c =>
    rw [Work.owes, Function.update_eq_self]
    exact hends.worked_of_call
  | fastAllocation o => exact hends.worked_of_allocation h rfl rfl
  | slowAllocation o => exact hends.worked_of_allocation h rfl rfl
  | flush => exact hends.worked_of_discharge h rfl rfl
  | makeParsable => exact hends.worked_of_discharge h rfl rfl

theorem Ends.records_iff (h : Coherent s) (hends : Ends s (w.event m) answer s') :
    s'.Recorded i ↔ s.Recorded i ∨ Records s (w.event m) i := by
  have hcleans : ¬ (w.event m).Cleans s i := by cases w <;> exact id
  rw [Records, ← hends.answer_eq]
  cases answer with
  | error f =>
    rw [hends.eq_of_error]
    simp
  | ok reply =>
    rw [hends.recorded_iff h, Recorded]
    simp [hcleans, or_assoc]

/-! ## Schedules, told from where they start -/

/-- What a schedule comes to. -/
structure ComesTo (s : BarrierSet) (x : Schedule) (s' : BarrierSet) : Prop where
  coherent : Coherent s'
  worked : Worked (fun m => (x.workOf m).foldl (Work.owes s) (s.pending m))
    (fun i => ∃ m, Dirtied s m (s.pending m) (x.workOf m) i) s s'
  /-- Every event answers as it would have answered at once. -/
  answers_eq : answers s x.events = x.events.map s.verdict
  recorded_iff : ∀ i, s'.Recorded i ↔ s.Recorded i ∨ ∃ e ∈ x.events, Records s e i

/-- The first piece of work and then what each mutator does after it, as what each mutator does from
the start. -/
theorem dirtied_cons (hfirst : Worked (Function.update s.pending m (w.owes s (s.pending m))) marks s s')
    (x : Schedule) :
    (w.Dirties s m (s.pending m) i ∨ ∃ m', Dirtied s' m' (s'.pending m') (x.workOf m') i) ↔
      ∃ m', Dirtied s m' (s.pending m') (Schedule.workOf ((m, w) :: x) m') i := by
  have hrest : ∀ m', Dirtied s' m' (s'.pending m') (x.workOf m') i ↔
      Dirtied s m' (Function.update s.pending m (w.owes s (s.pending m)) m') (x.workOf m') i := by
    intro m'
    rw [hfirst.dirtied_iff]
    by_cases hm' : m' ∈ s.mutators
    · rw [hfirst.pending_eq hm']
    · exact dirtied_of_not_mem hm' _ _ _
  simp only [hrest]
  constructor
  · rintro (hi | ⟨m', hi⟩)
    · exact ⟨m, by rw [Schedule.workOf_cons_self]; exact .inl hi⟩
    · refine ⟨m', ?_⟩
      by_cases heq : m' = m
      · subst heq
        rw [Function.update_self] at hi
        rw [Schedule.workOf_cons_self]
        exact .inr hi
      · rw [Function.update_of_ne heq] at hi
        rwa [Schedule.workOf_cons_of_ne heq]
  · rintro ⟨m', hi⟩
    by_cases heq : m' = m
    · subst heq
      rw [Schedule.workOf_cons_self] at hi
      refine hi.imp_right fun hi => ⟨m', ?_⟩
      rwa [Function.update_self]
    · rw [Schedule.workOf_cons_of_ne heq] at hi
      exact .inr ⟨m', by rwa [Function.update_of_ne heq]⟩

/-- By induction on the schedule; what its first event leaves looks to the others like the start. -/
theorem Coherent.comesTo (h : Coherent s) (x : Schedule) : ComesTo s x (s.run x.events) := by
  induction x generalizing s with
  | nil =>
    exact ⟨h, .refl fun i => by simp [Schedule.workOf, Dirtied], rfl,
      fun i => by simp [Schedule.events]⟩
  | cons turn rest ih =>
    obtain ⟨m, w⟩ := turn
    obtain ⟨answer, s₁, log, hrun, hends⟩ := step_ends h (w.freshAttach s m)
    have hfirst := hends.worked h
    have hrest := ih (h.ends hends)
    have hevents : Schedule.events ((m, w) :: rest) = w.event m :: Schedule.events rest := rfl
    have hstate : s.run (w.event m :: Schedule.events rest) = s₁.run (Schedule.events rest) := by
      rw [run_cons, hrun]
    rw [hevents, hstate]
    refine ⟨hrest.coherent, (hfirst.trans hrest.worked).congr (fun m' hm' => ?_) fun i =>
      dirtied_cons hfirst rest, ?_, fun i => ?_⟩
    -- What follows is told from `s₁`; what it looks at there is as in `s`, but for what `m` owes.
    · rw [hfirst.owes_eq, hfirst.pending_eq hm']
      by_cases heq : m' = m
      · subst heq
        rw [Function.update_self, Schedule.workOf_cons_self, List.foldl_cons]
      · rw [Function.update_of_ne heq, Schedule.workOf_cons_of_ne heq]
    · have hverdict : (Schedule.events rest).map s₁.verdict =
          (Schedule.events rest).map s.verdict := by
        simp [Schedule.events, hfirst.verdict_eq]
      rw [hevents, answers, hrun, hrest.answers_eq, hverdict, hends.answer_eq, List.map_cons]
    · have hrecords : (∃ e ∈ Schedule.events rest, Records s₁ e i) ↔
          ∃ e ∈ Schedule.events rest, Records s e i := by
        simp [Schedule.events, hfirst.records_iff]
      rw [hrest.recorded_iff, hends.records_iff h, hrecords, hevents]
      simp [or_assoc]

/-! ## Two orders of the same work -/

/-- **The order in which mutators do their work does not matter.** Take any state that a run reaches in
which only threads that are not attached attach, a program for every mutator, and two schedules that
interleave them. They end in one and the same state, and each event answers in both what it would have
answered at once. In that state every mutator owes what its own program makes of what it owed before,
and the cards recorded, dirty or owed, are those recorded before and those of the programs. So a
safepoint after either schedule succeeds, and makes dirty what is recorded. -/
theorem interleavings_agree {s₀ : BarrierSet} (hcreate : create options covered = .ok s₀)
    (hfits : s₀.table.Fits) (hfresh : Throughout FreshAttach s₀ before)
    (hone : Interleaves program one) (hother : Interleaves program other) :
    let s := s₀.run before
    let after := s.run one.events
    s.run other.events = after ∧
    answers s one.events = one.events.map s.verdict ∧
    answers s other.events = other.events.map s.verdict ∧
    (∀ m ∈ s.mutators, after.pending m = (program m).foldl (Work.owes s) (s.pending m)) ∧
    (∀ i, after.Recorded i ↔
      s.Recorded i ∨ ∃ m, ∃ w ∈ program m, Records s (w.event m) i) ∧
    ∃ s' log, (step .safepoint).run after = ⟨.ok .done, s', log⟩ ∧ s'.Settled ∧
      ∀ i, s'.table.hasDirty i = true ↔ after.Recorded i := by
  intro s after
  have h : Coherent s := (Coherent.of_create hcreate hfits).run hfresh
  have ha : ComesTo s one after := h.comesTo one
  have hb : ComesTo s other (s.run other.events) := h.comesTo other
  have hworks : other.workOf = one.workOf := funext fun m => (hother m).trans (hone m).symm
  have hscanned : ∀ x : Schedule,
      (s.run x.events).table.scannedConcurrently = s.table.scannedConcurrently := fun x =>
    (keeps_table_run (CardTable.kept_layout _ _) (fun _ _ _ => trivial) ⟨rfl, rfl⟩).2
  have hsame : s.run other.events = after := by
    have hworked := hb.worked
    rw [hworks] at hworked
    exact hworked.unique ha.worked ((hscanned other).trans (hscanned one).symm)
  obtain ⟨s', log, hrun, hsettled, -, hdirty⟩ := safepoint_settles ha.coherent
  refine ⟨hsame, ha.answers_eq, hb.answers_eq, fun m hm => ?_, fun i => ?_, s', log, hrun, hsettled,
    hdirty⟩
  · rw [ha.worked.pending_eq hm, hone m]
  · rw [ha.recorded_iff]
    simp [hone.mem_events_iff]

/-- Two threads allocate overlapping objects and store into them, one after the other and by turns. In
between the tables differ; at the end they do not. -/
theorem interleavings_agree_two_threads :
    ∃ s₀, create .default ⟨⟨0x1000⟩, ⟨0x1500⟩, by decide⟩ = .ok s₀ ∧ s₀.table.Fits ∧
      let m : Mutator := ⟨⟨1⟩, 0⟩
      let m' : Mutator := ⟨⟨2⟩, 1⟩
      let before : List Event := [.attach ⟨1⟩, .attach ⟨2⟩]
      let mine : List (Mutator × Work) := [(m, .fastAllocation ⟨⟨0x1000⟩, ⟨0x1210⟩, by decide⟩),
        (m, .flush)]
      let yours : List (Mutator × Work) := [(m', .slowAllocation ⟨⟨0x1200⟩, ⟨0x1408⟩, by decide⟩),
        (m', .store (.objectStored ⟨⟨0x1200⟩, ⟨0x1208⟩⟩))]
      let one : Schedule := mine ++ yours
      let other : Schedule := yours ++ mine
      let s := s₀.run before
      Throughout FreshAttach s₀ before ∧ Interleaves one.workOf other ∧
        (s.run (one.events.take 2)).table.cards ≠ (s.run (other.events.take 2)).table.cards ∧
        s.run other.events = s.run one.events := by
  have hcreate : create .default ⟨⟨0x1000⟩, ⟨0x1500⟩, by decide⟩ = .ok _ := rfl
  refine ⟨_, hcreate, by decide, ?_⟩
  intro m m' before mine yours one other s
  have hother : Interleaves one.workOf other := by
    intro n
    by_cases hn : m = n
    · subst hn
      rfl
    · by_cases hn' : m' = n
      · subst hn'
        rfl
      · simp [one, other, mine, yours, Schedule.workOf, hn, hn']
  have h := @interleavings_agree one other one.workOf _ _ before _ hcreate (by decide)
    ⟨rfl, rfl, trivial⟩ (fun _ => rfl) hother
  exact ⟨⟨rfl, rfl, trivial⟩, hother, by decide +kernel, h.1⟩

end BarrierSet

end WriteBarrier
