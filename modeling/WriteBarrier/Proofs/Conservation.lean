/-
What deferring card marks does to the cards: nothing that the next safepoint
does not make up for.

A card is recorded where it is dirty, or where a mutator owes an object that
touches it. Discharging moves a card from the second kind to the first and
loses none; so what is recorded grows by what the stores and the new objects
touch, and shrinks by what the collector cleans — which are the dirty cards
only, since clearing does not see what is pending.
-/
import WriteBarrier.Proofs.Lifecycle

namespace WriteBarrier.BarrierSet

open Registry (Discharged)

variable {s s' : BarrierSet} {e : Event} {m : Mutator} {o : Region} {i : Nat} {ids : List MarkId}
  {marks : Registry × CardTable} {options : Options} {covered : Region} {events : List Event}

/-- Does a mutator owe an object that touches card `i`? -/
def Owed (s : BarrierSet) (i : Nat) : Prop :=
  ∃ m ∈ s.mutators, ∃ o, s.pending m = some o ∧ s.table.Touches i o

/-- Is card `i` dirty, or is there a mutator to see to it? -/
def Recorded (s : BarrierSet) (i : Nat) : Prop := s.table.hasDirty i = true ∨ s.Owed i

/-- The cards that an event adds where it succeeds. -/
def Event.Adds (s : BarrierSet) : Event → Nat → Prop
  | .call c, i => s.barrier.Dirties s.table.toCardLayout c.target i
  | .fastAllocation m o, i => m ∈ s.mutators ∧ s.policy = .deferred ∧ s.table.Touches i o
  | .slowAllocation m o, i => m ∈ s.mutators ∧ s.policy = .deferred ∧ s.table.Touches i o
  | .table e, i => e.Marks s.table.toCardLayout i
  | _, _ => False

/-- The cards that an event cleans where it succeeds. -/
def Event.Cleans (s : BarrierSet) : Event → Nat → Prop
  | .table e, i => e.Cleans s.table.toCardLayout i
  | _, _ => False

/-! ## What is recorded, part by part -/

theorem Coherent.dirties_iff (h : Coherent s) (hm : m ∈ s.mutators) (ho : s.pending m = some o) :
    s.barrier.Dirties s.table.toCardLayout (.region o) i ↔ s.table.Touches i o := by
  cases hb : s.barrier with
  | noBarrier =>
    have hidle := h.idle (by rw [policy, hb]; rfl) m hm
    rw [ho] at hidle
    cases hidle
  | cardTable d => exact Iff.rfl

theorem Coherent.owedBy_iff (h : Coherent s) (hids : ∀ id ∈ ids, ∃ m ∈ s.mutators, m.mark = id) :
    Registry.OwedBy s.barrier (s.registry, s.table) ids i ↔
      ∃ m ∈ s.mutators, m.mark ∈ ids ∧ ∃ o, s.pending m = some o ∧ s.table.Touches i o := by
  constructor
  · intro howed
    obtain ⟨id, hid, o, ho, hi⟩ := howed
    obtain ⟨m, hm, rfl⟩ := hids id hid
    exact ⟨m, hm, hid, o, ho, (h.dirties_iff hm ho).1 hi⟩
  · intro howed
    obtain ⟨m, hm, hid, o, ho, hi⟩ := howed
    exact ⟨m.mark, hid, o, ho, (h.dirties_iff hm ho).2 hi⟩

theorem owed_withMarks (hd : Discharged s.barrier ids (s.registry, s.table) marks) :
    (s.withMarks marks).Owed i ↔
      ∃ m ∈ s.mutators, m.mark ∉ ids ∧ ∃ o, s.pending m = some o ∧ s.table.Touches i o := by
  have hpending : ∀ m o, (s.withMarks marks).pending m = some o ↔
      m.mark ∉ ids ∧ s.pending m = some o := fun m o => hd.pending_eq_some
  have htouches : ∀ o, (s.withMarks marks).table.Touches i o ↔ s.table.Touches i o := by
    intro o
    rw [layout_withMarks hd]
  constructor
  · intro howed
    obtain ⟨m, hm, o, ho, hi⟩ := howed
    obtain ⟨hid, ho'⟩ := (hpending m o).1 ho
    exact ⟨m, hm, hid, o, ho', (htouches o).1 hi⟩
  · intro howed
    obtain ⟨m, hm, hid, o, ho, hi⟩ := howed
    exact ⟨m, hm, o, (hpending m o).2 ⟨hid, ho⟩, (htouches o).2 hi⟩

/-- **Discharging loses nothing and adds nothing.** -/
theorem recorded_withMarks (h : Coherent s) (hids : ∀ id ∈ ids, ∃ m ∈ s.mutators, m.mark = id)
    (hd : Discharged s.barrier ids (s.registry, s.table) marks) :
    (s.withMarks marks).Recorded i ↔ s.Recorded i := by
  have hdirty : (s.withMarks marks).table.hasDirty i = true ↔
      s.table.hasDirty i = true ∨ Registry.OwedBy s.barrier (s.registry, s.table) ids i :=
    hd.marked.hasDirty_iff i
  rw [Recorded, hdirty, owed_withMarks hd, h.owedBy_iff hids]
  constructor
  · intro hrec
    obtain (hi | ⟨m, hm, -, howed⟩) | ⟨m, hm, -, howed⟩ := hrec
    · exact .inl hi
    · exact .inr ⟨m, hm, howed⟩
    · exact .inr ⟨m, hm, howed⟩
  · intro hrec
    obtain hi | ⟨m, hm, howed⟩ := hrec
    · exact .inl (.inl hi)
    · by_cases hid : m.mark ∈ ids
      · exact .inl (.inr ⟨m, hm, hid, howed⟩)
      · exact .inr ⟨m, hm, hid, howed⟩

theorem owed_enroll (h : Coherent s) (t : Thread) : (s.enroll t).Owed i ↔ s.Owed i := by
  have hnew : (s.enroll t).pending ⟨t, s.registry.marks.size⟩ = none := by
    show ((s.registry.enter t).mark s.registry.marks.size).pending = none
    rw [Registry.mark_enter]
  constructor
  · intro howed
    obtain ⟨m, hm, o, ho, hi⟩ := howed
    rw [enroll, List.mem_append, List.mem_singleton] at hm
    obtain hold | rfl := hm
    · rw [h.pending_enroll hold] at ho
      exact ⟨m, hold, o, ho, hi⟩
    · rw [hnew] at ho
      cases ho
  · intro howed
    obtain ⟨m, hm, o, ho, hi⟩ := howed
    exact ⟨m, List.mem_append_left _ hm, o, (h.pending_enroll hm).trans ho, hi⟩

theorem owed_dismiss (h : Coherent s) (hm : m ∈ s.mutators) (hidle : s.pending m = none) :
    (s.dismiss m).Owed i ↔ s.Owed i := by
  have hpending : ∀ m' ∈ (s.dismiss m).mutators, (s.dismiss m).pending m' = s.pending m' := by
    intro m' hm'
    rw [pending, h.mark_dismiss hm hm']
    rfl
  constructor
  · intro howed
    obtain ⟨m', hm', o, ho, hi⟩ := howed
    exact ⟨m', (h.mem_dismiss.1 hm').2, o, (hpending m' hm').symm.trans ho, hi⟩
  · intro howed
    obtain ⟨m', hm', o, ho, hi⟩ := howed
    have hne : m' ≠ m := by
      intro heq
      rw [heq, hidle] at ho
      cases ho
    have hmem : m' ∈ (s.dismiss m).mutators := h.mem_dismiss.2 ⟨hne, hm'⟩
    exact ⟨m', hmem, o, (hpending m' hmem).trans ho, hi⟩

theorem owed_owing (h : Coherent s) (hm : m ∈ s.mutators) (hidle : s.pending m = none) :
    (s.owing m o).Owed i ↔ s.Owed i ∨ s.table.Touches i o := by
  constructor
  · intro howed
    obtain ⟨m', hm', o', ho', hi⟩ := howed
    by_cases hself : m' = m
    · subst hself
      rw [h.pending_owing_self hm] at ho'
      cases ho'
      exact .inr hi
    · rw [h.pending_owing_of_ne hm hm' hself] at ho'
      exact .inl ⟨m', hm', o', ho', hi⟩
  · intro howed
    obtain ⟨m', hm', o', ho', hi⟩ | hi := howed
    · have hne : m' ≠ m := by
        intro heq
        rw [heq, hidle] at ho'
        cases ho'
      exact ⟨m', hm', o', (h.pending_owing_of_ne hm hm' hne).trans ho', hi⟩
    · exact ⟨m, hm, o, h.pending_owing_self hm, hi⟩

theorem owed_withTable {table : CardTable} (hlayout : table.toCardLayout = s.table.toCardLayout) :
    Owed { s with table } i ↔ s.Owed i := by
  have htouches : ∀ o, table.Touches i o ↔ s.table.Touches i o := by
    intro o
    rw [hlayout]
  constructor
  · intro howed
    obtain ⟨m, hm, o, ho, hi⟩ := howed
    exact ⟨m, hm, o, ho, (htouches o).1 hi⟩
  · intro howed
    obtain ⟨m, hm, o, ho, hi⟩ := howed
    exact ⟨m, hm, o, ho, (htouches o).2 hi⟩

/-! ## What is recorded, event by event -/

theorem Event.not_adds_of_discharges (he : e.discharges? s = some ids) :
    ¬ e.Adds s i ∧ ¬ e.Cleans s i := by
  cases e <;> simp [discharges?, Adds, Cleans] at he ⊢

theorem Event.not_adds_of_not_mem (he : e.mutator? = some m) (hm : m ∉ s.mutators) :
    ¬ e.Adds s i ∧ ¬ e.Cleans s i := by
  cases e <;> simp [mutator?, Adds, Cleans] at he ⊢ <;> simp [he, hm]

theorem Event.adds_of_allocation (he : e.allocation? = some (m, o)) (hm : m ∈ s.mutators) :
    (e.Adds s i ↔ s.policy = .deferred ∧ s.table.Touches i o) ∧ ¬ e.Cleans s i := by
  cases e <;> simp [allocation?, Adds, Cleans] at he ⊢ <;> simp [he, hm]

/-- **A step that succeeds** records the cards that it adds besides those that were recorded, except
for the dirty ones that it cleans. -/
theorem Ends.recorded_iff {reply : Reply} (h : Coherent s) (hends : Ends s e (.ok reply) s') :
    s'.Recorded i ↔
      s.table.hasDirty i = true ∧ ¬ e.Cleans s i ∨ s.Owed i ∨ e.Adds s i := by
  cases hends with
  | enrolled hfresh =>
    rw [Recorded, owed_enroll h]
    simp [Event.Adds, Event.Cleans, enroll]
  | nobody he hm =>
    obtain ⟨hadds, hcleans⟩ := Event.not_adds_of_not_mem (i := i) he hm
    simp [Recorded, hadds, hcleans]
  | discharged he hlive hd =>
    obtain ⟨hadds, hcleans⟩ := Event.not_adds_of_discharges (i := i) he
    rw [recorded_withMarks h (Event.live_of_discharges he hlive) hd]
    simp [Recorded, hadds, hcleans]
  | @dismissed m marks hm hd =>
    have hidle : (s.withMarks marks).pending m = none := hd.pending_eq_none
    have hrec : ((s.withMarks marks).dismiss m).Recorded i ↔ (s.withMarks marks).Recorded i :=
      or_congr Iff.rfl (owed_dismiss (h.withMarks hd) hm hidle)
    rw [hrec, recorded_withMarks h (live_singleton hm) hd]
    simp [Recorded, Event.Adds, Event.Cleans]
  | ignored he hm hp =>
    obtain ⟨hadds, hcleans⟩ := Event.adds_of_allocation (i := i) he hm
    simp [Recorded, hadds, hcleans, hp]
  | @deferred _ m o marks he hm hp ho hd =>
    obtain ⟨hadds, hcleans⟩ := Event.adds_of_allocation (i := i) he hm
    have hidle : (s.withMarks marks).pending m = none := hd.pending_eq_none
    have htouches : (s.withMarks marks).table.Touches i o ↔ s.table.Touches i o := by
      rw [layout_withMarks hd]
    have hrec : ((s.withMarks marks).owing m o).Recorded i ↔
        (s.withMarks marks).Recorded i ∨ s.table.Touches i o := by
      rw [← htouches, Recorded, owed_owing (h.withMarks hd) hm hidle, ← or_assoc]
      rfl
    rw [hrec, recorded_withMarks h (live_singleton hm) hd]
    simp [Recorded, hadds, hcleans, hp, or_assoc]
  | stored hc hmarked =>
    rw [Recorded, owed_withTable hmarked.layout, hmarked.hasDirty_iff]
    simp only [Event.Adds, Event.Cleans, not_false_eq_true, and_true]
    tauto
  | tabled hrun hlayout hdirty =>
    rw [Recorded, owed_withTable hlayout, hdirty]
    simp only [Event.Adds, Event.Cleans]
    tauto

theorem Ends.eq_of_error {f : Fault} (hends : Ends s e (.error f) s') : s' = s := by
  cases hends <;> rfl

theorem Ends.owed_of_table {te : CardTable.Event} {a : Except Fault Reply}
    (hends : Ends s (.table te) a s') : s'.Owed i ↔ s.Owed i := by
  cases hends with
  | nobody he => cases he
  | discharged he => cases he
  | ignored he => cases he
  | uncovered he => cases he
  | deferred he => cases he
  | tabled hrun hlayout hdirty => exact owed_withTable hlayout
  | untabled => exact Iff.rfl

/-! ## Safepoints -/

/-- No mutator owes anything. -/
def Settled (s : BarrierSet) : Prop := ∀ m ∈ s.mutators, s.pending m = none

theorem Settled.not_owed (h : s.Settled) : ¬ s.Owed i := by
  intro howed
  obtain ⟨m, hm, o, ho, -⟩ := howed
  rw [h m hm] at ho
  cases ho

theorem Settled.recorded_iff (h : s.Settled) : s.Recorded i ↔ s.table.hasDirty i = true :=
  or_iff_left h.not_owed

/-- **A safepoint settles every mutator,** and then the dirty cards are those that were recorded. -/
theorem safepoint_settles (h : Coherent s) :
    ∃ s' log, (step .safepoint).run s = ⟨.ok .done, s', log⟩ ∧ s'.Settled ∧
      s'.table.toCardLayout = s.table.toCardLayout ∧
      ∀ i, s'.table.hasDirty i = true ↔ s.Recorded i := by
  obtain ⟨marks, log, hrun, hd⟩ := prepareForSafepoint_ok h
  have hsettled : (s.withMarks marks).Settled := by
    intro m hm
    cases hp : (s.withMarks marks).pending m with
    | none => rfl
    | some o => exact absurd (List.mem_map_of_mem hm) (hd.pending_eq_some.1 hp).1
  refine ⟨s.withMarks marks, log, finish_ok hrun, hsettled, hd.marked.layout, fun i => ?_⟩
  rw [← recorded_withMarks h (fun id hid => List.mem_map.1 hid) hd, hsettled.recorded_iff]

/-! ## Runs -/

/-- A rule for runs: only threads that are not attached attach, and card `i` is not cleaned. -/
def Spares (i : Nat) (s : BarrierSet) (e : Event) : Prop := FreshAttach s e ∧ ¬ e.Cleans s i

/-- A step that does not clean a card keeps it recorded, whether or not it succeeds. -/
theorem recorded_step (h : Coherent s) (he : Spares i s e) (hi : s.Recorded i) :
    ((step e).run s).state.Recorded i := by
  obtain ⟨a, s', log, hrun, hends⟩ := step_ends h he.1
  rw [hrun]
  cases a with
  | error f =>
    rw [show s' = s from hends.eq_of_error]
    exact hi
  | ok reply =>
    refine (hends.recorded_iff h).2 ?_
    obtain hdirty | howed := hi
    · exact .inl ⟨hdirty, he.2⟩
    · exact .inr (.inl howed)

theorem recorded_run (h : Coherent s) (hrule : Throughout (Spares i) s events)
    (hi : s.Recorded i) : Coherent (s.run events) ∧ (s.run events).Recorded i :=
  @Throughout.invariant _ _ _ (fun s => Coherent s ∧ s.Recorded i) hrule
    (fun _ _ hs he => ⟨hs.1.step he.1, recorded_step hs.1 he hs.2⟩) ⟨h, hi⟩

/-- **Deferring card marks is sound and exact.** Take any run in which only threads that are not
attached attach, and any event after it. If the event is a fault, it changes nothing. If it succeeds,
the cards recorded afterwards are those it adds, those owed before, and the dirty ones that it does not
clean; clearing leaves what is owed. A safepoint settles all mutators and leaves the recorded cards
dirty, and no others. So a card that some step added is dirty after the next safepoint, whatever
happens in between, unless it is cleaned there. -/
theorem recorded_cards_conserved {s₀ : BarrierSet} (hcreate : create options covered = .ok s₀)
    (hfits : s₀.table.Fits) (hfresh : Throughout FreshAttach s₀ (events ++ [e])) :
    let s := s₀.run events
    let after := (step e).run s
    (∀ f, after.answer = .error f → after.state = s) ∧
    (∀ reply, after.answer = .ok reply → ∀ i, after.state.Recorded i ↔
      s.table.hasDirty i = true ∧ ¬ e.Cleans s i ∨ s.Owed i ∨ e.Adds s i) ∧
    (∀ te, e = .table te → ∀ i, after.state.Owed i ↔ s.Owed i) ∧
    (e = .safepoint → after.answer = .ok .done ∧ after.state.Settled ∧
      ∀ i, after.state.table.hasDirty i = true ↔ s.Recorded i) ∧
    ∀ i reply, after.answer = .ok reply → e.Adds s i → ∀ later,
      Throughout (Spares i) after.state later →
      ((step .safepoint).run (after.state.run later)).state.table.hasDirty i = true := by
  intro s after
  obtain ⟨hfresh, he⟩ := throughout_concat.1 hfresh
  have h : Coherent s := (Coherent.of_create hcreate hfits).run hfresh
  obtain ⟨a, s', log, hrun, hends⟩ := step_ends h he
  have hafter : after = ⟨a, s', log⟩ := hrun
  rw [hafter]
  refine ⟨fun f hf => ?_, fun reply hreply i => ?_, fun te hte i => ?_, fun hsafe => ?_,
    fun i reply hreply hadds later hrule => ?_⟩
  · subst hf
    exact hends.eq_of_error
  · subst hreply
    exact hends.recorded_iff h
  · subst hte
    exact hends.owed_of_table
  · subst hsafe
    obtain ⟨t, log', hrun', hsettled, -, hdirty⟩ := safepoint_settles h
    rw [hrun] at hrun'
    cases hrun'
    exact ⟨rfl, hsettled, hdirty⟩
  · subst hreply
    have hi : s'.Recorded i := (hends.recorded_iff h).2 (.inr (.inr hadds))
    obtain ⟨hlater, hrec⟩ := recorded_run (h.ends hends) hrule hi
    obtain ⟨t, log', hrun', -, -, hdirty⟩ := safepoint_settles hlater
    rw [hrun']
    exact (hdirty i).2 hrec

/-- An object is pending while the card before its last one is cleaned, and its mutator leaves: the
last card is dirty after the safepoint. -/
theorem recorded_cards_conserved_over_clearing :
    ∃ s₀, create .default ⟨⟨0x1000⟩, ⟨0x1500⟩, by decide⟩ = .ok s₀ ∧ s₀.table.Fits ∧
      let m : Mutator := ⟨⟨1⟩, 0⟩
      let o : Region := ⟨⟨0x1000⟩, ⟨0x1210⟩, by decide⟩
      let clear : Event := .table (.clearRange ⟨⟨0x1000⟩, ⟨0x1200⟩, by decide⟩)
      Throughout FreshAttach s₀ [.attach ⟨1⟩, .fastAllocation m o] ∧
        let after := (step (.fastAllocation m o)).run (s₀.run [.attach ⟨1⟩])
        ((step .safepoint).run (after.state.run [clear, .detach m])).state.table.hasDirty 1 = true := by
  have hcreate : create .default ⟨⟨0x1000⟩, ⟨0x1500⟩, by decide⟩ = .ok _ := rfl
  refine ⟨_, hcreate, by decide, ?_⟩
  intro m o clear
  refine ⟨⟨rfl, trivial, trivial⟩, ?_⟩
  obtain ⟨-, -, -, -, hsound⟩ := @recorded_cards_conserved (.fastAllocation m o) _ _
    [.attach ⟨1⟩] _ hcreate (by decide) ⟨rfl, trivial, trivial⟩
  refine hsound 1 .done rfl ⟨by decide, rfl, ?_⟩ [clear, .detach m]
    ⟨⟨trivial, fun hcleans => ?_⟩, ⟨trivial, id⟩, trivial⟩
  · exact ⟨0x1200, by decide, by decide, by decide⟩
  · exact absurd ((CardLayout.touches_iff rfl (by decide)).1 hcleans) (by decide)

end WriteBarrier.BarrierSet
