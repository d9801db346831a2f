/-
Deferring a new object's mark, compared with marking its cards at once.

Two barrier sets over the same cards live through the same run, one with its
card marks deferred, the other invalidating each new object where the first is
told of it. They stay in step: the same mutators are handed out, the same
events fail with the same faults, and the cards dirty in the eager set are
those recorded in the deferring one — dirty or still owed. The one event that
could tell them apart is a cleaning of cards while something is owed: what is
pending survives it, and what is dirty does not.
-/
import WriteBarrier.Proofs.Conservation
import WriteBarrier.Proofs.Outcomes

namespace WriteBarrier.BarrierSet

variable {d d' g g' s : BarrierSet} {e : Event} {a : Except Fault Reply} {i : Nat}
  {events : List Event}

/-- The event in a set that marks eagerly: a new object is invalidated on the spot. -/
def Event.eager : Event → Event
  | .fastAllocation _ o => .call (.bulkChanged o)
  | .slowAllocation _ o => .call (.bulkChanged o)
  | e => e

/-- A rule for runs: threads attach when they are not attached, objects are allocated by mutators, and
the table is left to the barrier, except that all cards are cleaned where nothing is owed. -/
def Orderly (s : BarrierSet) : Event → Prop
  | .attach t => s.registry.isRegistered t = false
  | .fastAllocation m _ => m ∈ s.mutators
  | .slowAllocation m _ => m ∈ s.mutators
  | .table e => e = .clearAll ∧ s.Settled
  | _ => True

/-! ## Sets in step -/

/-- `g` marks at once what `d` defers, and both have come to the same point. -/
structure InStep (d g : BarrierSet) : Prop where
  deferring : Coherent d
  eager : Coherent g
  barrier : d.barrier = .cardTable true
  eager_barrier : g.barrier = .cardTable false
  layout : g.table.toCardLayout = d.table.toCardLayout
  mutators : g.mutators = d.mutators
  marks : g.registry.marks.size = d.registry.marks.size
  hasDirty_iff : ∀ i, g.table.hasDirty i = true ↔ d.Recorded i

theorem Ends.barrier_eq {s' : BarrierSet} (h : Ends s e a s') : s'.barrier = s.barrier := by
  rw [barrier, barrier, h.options_eq]

theorem Coherent.settled (h : Coherent s) (hb : s.barrier = .cardTable false) : s.Settled :=
  h.idle (by rw [policy, hb]; rfl)

theorem Coherent.isRegistered_eq (h : Coherent d) (h' : Coherent g) (hm : g.mutators = d.mutators)
    (t : Thread) : g.registry.isRegistered t = d.registry.isRegistered t := by
  rw [Registry.isRegistered, Registry.get?, h'.entries_eq, hm, ← h.entries_eq]
  rfl

namespace InStep

theorem freshAttach (h : InStep d g) (he : Orderly d e) :
    FreshAttach d e ∧ FreshAttach g e.eager := by
  cases e with
  | attach t => exact ⟨he, (h.deferring.isRegistered_eq h.eager h.mutators t).trans he⟩
  | _ => exact ⟨trivial, trivial⟩

theorem policy_eq (h : InStep d g) : d.policy = .deferred := by
  rw [policy, h.barrier]
  rfl

/-- The barriers take the same stores: that does not depend on when new objects are marked. -/
theorem admits_iff (h : InStep d g) (l : CardLayout) (target : WriteTarget) :
    g.barrier.Admits l target ↔ d.barrier.Admits l target := by
  rw [h.barrier, h.eager_barrier]
  cases target <;> exact Iff.rfl

theorem dirties_iff (h : InStep d g) (l : CardLayout) (target : WriteTarget) :
    g.barrier.Dirties l target i ↔ d.barrier.Dirties l target i := by
  rw [h.barrier, h.eager_barrier]
  cases target <;> exact Iff.rfl

/-- A new object is refused by the one where invalidating it is refused by the other. -/
theorem verdict_allocation (h : InStep d g) {m : Mutator} (hm : m ∈ d.mutators) (o : Region) :
    g.verdict (.call (.bulkChanged o)) = verdict.allocation d m o := by
  have hadmits : g.barrier.Admits d.table.toCardLayout (.region o) ↔
      d.table.covered.containsRegion o = true := by
    rw [h.eager_barrier]
    exact Iff.rfl
  by_cases ho : d.table.covered.containsRegion o = true
  · simp [verdict, verdict.allocation, Barrier.Call.target, h.layout, hadmits, hm, ho]
  · simp [verdict, verdict.allocation, Barrier.Call.target, h.layout, hadmits, hm, ho, h.policy_eq,
      Barrier.refusal]

/-- **The outcomes agree,** faults and what they name included. -/
theorem verdict_eq (h : InStep d g) (he : Orderly d e) : g.verdict e.eager = d.verdict e := by
  cases e with
  | attach t => simp [verdict, Event.eager, h.marks]
  | detach m => simp [verdict, Event.eager, h.mutators]
  | flush m => simp [verdict, Event.eager, h.mutators]
  | makeParsable m => simp [verdict, Event.eager, h.mutators]
  | fastAllocation m o => exact h.verdict_allocation he o
  | slowAllocation m o => exact h.verdict_allocation he o
  | call c => simp [verdict, Event.eager, h.layout, h.admits_iff]
  | safepoint => rfl
  | table te =>
    obtain ⟨rfl, -⟩ := he
    rfl

theorem adds_iff (h : InStep d g) (he : Orderly d e) : e.eager.Adds g i ↔ e.Adds d i := by
  have hallocation : ∀ m o, m ∈ d.mutators →
      (Event.Adds g (.call (.bulkChanged o)) i ↔
        m ∈ d.mutators ∧ d.policy = .deferred ∧ d.table.Touches i o) := by
    intro m o hm
    show g.barrier.Dirties g.table.toCardLayout (.region o) i ↔ _
    rw [h.eager_barrier, h.layout]
    simp [hm, h.policy_eq, Barrier.Dirties]
  cases e with
  | fastAllocation m o => exact hallocation m o he
  | slowAllocation m o => exact hallocation m o he
  | call c =>
    show g.barrier.Dirties g.table.toCardLayout c.target i ↔ _
    rw [h.layout]
    exact h.dirties_iff d.table.toCardLayout c.target
  | table te =>
    obtain ⟨rfl, -⟩ := he
    exact Iff.rfl
  | attach | detach | flush | makeParsable | safepoint => exact Iff.rfl

/-- Cards are cleaned alike, and only where nothing is owed. -/
theorem cleans_iff (he : Orderly d e) :
    (e.eager.Cleans g i ↔ e.Cleans d i) ∧ (e.Cleans d i → ¬ d.Owed i) := by
  cases e with
  | table te =>
    obtain ⟨rfl, hsettled⟩ := he
    exact ⟨Iff.rfl, fun _ => hsettled.not_owed⟩
  | _ => exact ⟨Iff.rfl, False.elim⟩

theorem next (h : InStep d g) (he : Orderly d e) (hd : Ends d e a d') (hg : Ends g e.eager a g') :
    InStep d' g' := by
  have hmutators : g'.mutators = d'.mutators := by
    rw [hg.mutators_eq, hd.mutators_eq]
    cases e <;> simp [remaining, Event.eager, h.mutators]
  have heager : g'.barrier = .cardTable false := hg.barrier_eq.trans h.eager_barrier
  have hcoherent : Coherent g' := h.eager.ends hg
  refine ⟨h.deferring.ends hd, hcoherent, hd.barrier_eq.trans h.barrier, heager, ?_, hmutators, ?_,
    fun i => ?_⟩
  · rw [hg.layout_eq, hd.layout_eq, h.layout]
  · rw [hg.size_marks, hd.size_marks, hmutators, h.marks, h.mutators]
  · cases a with
    | error f =>
      rw [hd.eq_of_error, hg.eq_of_error]
      exact h.hasDirty_iff i
    | ok reply =>
      -- A card that is cleaned was owed by nobody: otherwise it would stay recorded in `d` alone.
      obtain ⟨hcleans, hunowed⟩ := cleans_iff (g := g) (i := i) he
      have hnone : ¬ g.Owed i := (h.eager.settled h.eager_barrier).not_owed
      rw [← (hcoherent.settled heager).recorded_iff, hg.recorded_iff h.eager,
        hd.recorded_iff h.deferring, h.adds_iff he, hcleans, h.hasDirty_iff i, Recorded]
      tauto

/-- **One step:** the same answer, and the sets are in step again. -/
theorem step (h : InStep d g) (he : Orderly d e) :
    ((step e.eager).run g).answer = ((step e).run d).answer ∧
      InStep ((step e).run d).state ((step e.eager).run g).state := by
  obtain ⟨hfresh, hfresh'⟩ := h.freshAttach he
  obtain ⟨a, d', log, hrun, hd⟩ := step_ends h.deferring hfresh
  obtain ⟨a', g', log', hrun', hg⟩ := step_ends h.eager hfresh'
  have hanswer : a' = a := by
    rw [hg.answer_eq, hd.answer_eq, h.verdict_eq he]
  subst hanswer
  rw [hrun, hrun']
  exact ⟨rfl, h.next he hd hg⟩

/-- **A run:** by induction on its events, from one point to the next. -/
theorem run (h : InStep d g) (hrule : Throughout Orderly d events) :
    answers g (events.map Event.eager) = answers d events ∧
      InStep (d.run events) (g.run (events.map Event.eager)) := by
  induction events generalizing d g with
  | nil => exact ⟨rfl, h⟩
  | cons e rest ih =>
    obtain ⟨hanswer, hnext⟩ := h.step hrule.1
    obtain ⟨hrest, hlast⟩ := ih hnext hrule.2
    refine ⟨?_, hlast⟩
    rw [List.map_cons, answers, answers, hanswer, hrest]

theorem of_create {deferring eager : Options} {covered : Region}
    (hd : create deferring covered = .ok d) (hg : create eager covered = .ok g)
    (hbarrier : deferring.barrier = .cardTable) (hbarrier' : eager.barrier = .cardTable)
    (hreduce : deferring.reduceInitialCardMarks = true)
    (hreduce' : eager.reduceInitialCardMarks = false)
    (hlog : eager.logBytesInCard = deferring.logBytesInCard) (hfits : d.table.Fits) :
    InStep d g := by
  obtain ⟨htable, hoptions, hregistry, hmutators⟩ := create_eq_ok hd
  obtain ⟨htable', hoptions', hregistry', hmutators'⟩ := create_eq_ok hg
  obtain ⟨hlayout, hclean⟩ := CardTable.create_eq_ok htable
  obtain ⟨hlayout', hclean'⟩ := CardTable.create_eq_ok htable'
  have hsame : g.table.toCardLayout = d.table.toCardLayout := by
    rw [hlog, hlayout] at hlayout'
    exact (Except.ok.inj hlayout').symm
  have hsettled : d.Settled := by simp [Settled, hmutators]
  refine ⟨.of_create hd hfits, .of_create hg (by rw [hsame]; exact hfits), ?_, ?_, hsame, ?_, ?_,
    fun i => ?_⟩
  · rw [BarrierSet.barrier, hoptions, hbarrier, hreduce]
  · rw [BarrierSet.barrier, hoptions', hbarrier', hreduce']
  · rw [hmutators, hmutators']
  · rw [hregistry, hregistry']
  · rw [hsettled.recorded_iff, hclean, hclean']

end InStep

/-- **Deferring refines marking at once.** Let two sets be built over the same region with cards of the
same size, one that defers the marks of new objects and one that does not, and let the other go
through the first one's run with every new object invalidated in place of being reported. Then every
event has the same outcome in both; the cards dirty in the eager set are those dirty or owed in the
deferring one, at every point of the run; and after a safepoint the tables hold the same cards. -/
theorem deferring_refines_eager {deferring eager : Options} {covered : Region}
    (hd : create deferring covered = .ok d) (hg : create eager covered = .ok g)
    (hbarrier : deferring.barrier = .cardTable) (hbarrier' : eager.barrier = .cardTable)
    (hreduce : deferring.reduceInitialCardMarks = true)
    (hreduce' : eager.reduceInitialCardMarks = false)
    (hlog : eager.logBytesInCard = deferring.logBytesInCard) (hfits : d.table.Fits)
    (hrule : Throughout Orderly d events) :
    answers g (events.map Event.eager) = answers d events ∧
    (∀ i, (g.run (events.map Event.eager)).table.hasDirty i = true ↔ (d.run events).Recorded i) ∧
    ∀ before, events = before ++ [.safepoint] →
      (g.run (events.map Event.eager)).table.cards = (d.run events).table.cards := by
  have hstart := InStep.of_create hd hg hbarrier hbarrier' hreduce hreduce' hlog hfits
  obtain ⟨hanswers, hend⟩ := hstart.run hrule
  refine ⟨hanswers, hend.hasDirty_iff, fun before hsafe => ?_⟩
  refine CardTable.cards_eq_of_hasDirty (by rw [hend.layout]) fun i => ?_
  have hsettled : (d.run events).Settled := by
    rw [hsafe, throughout_concat] at hrule
    obtain ⟨s', log, hrun, hsettled, -⟩ := safepoint_settles (hstart.run hrule.1).2.deferring
    rw [hsafe, run_append, run_cons, run_nil, hrun]
    exact hsettled
  rw [hend.hasDirty_iff, hsettled.recorded_iff]

/-- A run with an object that is superseded by another, and one that is refused: after the safepoint
the tables hold the same cards. -/
theorem deferring_refines_eager_to_safepoint :
    ∃ d g, create .default ⟨⟨0x1000⟩, ⟨0x1500⟩, by decide⟩ = .ok d ∧
      create { Options.default with reduceInitialCardMarks := false }
        ⟨⟨0x1000⟩, ⟨0x1500⟩, by decide⟩ = .ok g ∧ d.table.Fits ∧
      let m : Mutator := ⟨⟨1⟩, 0⟩
      let before : List Event := [.attach ⟨1⟩, .fastAllocation m ⟨⟨0x1000⟩, ⟨0x1210⟩, by decide⟩,
        .slowAllocation m ⟨⟨0x1500⟩, ⟨0x1600⟩, by decide⟩,
        .slowAllocation m ⟨⟨0x1400⟩, ⟨0x1440⟩, by decide⟩]
      let events := before ++ [.safepoint]
      Throughout Orderly d events ∧
        (g.run (events.map Event.eager)).table.cards = (d.run events).table.cards := by
  have hd : create .default ⟨⟨0x1000⟩, ⟨0x1500⟩, by decide⟩ = .ok _ := rfl
  have hg : create { Options.default with reduceInitialCardMarks := false }
      ⟨⟨0x1000⟩, ⟨0x1500⟩, by decide⟩ = .ok _ := rfl
  refine ⟨_, _, hd, hg, by decide, ?_⟩
  intro m before events
  have h := @deferring_refines_eager _ _ events _ _ _ hd hg rfl rfl rfl rfl rfl (by decide)
  refine ⟨?rule, (h ?rule).2.2 before rfl⟩
  exact ⟨rfl, List.mem_singleton_self m, List.mem_singleton_self m, List.mem_singleton_self m,
    trivial, trivial⟩

end WriteBarrier.BarrierSet
