/-
How events end on a coherent barrier set, rule by rule (`BarrierSet.Ends`),
and what follows for whole runs: the registry and the mutators correspond in
every state that a run reaches, so safepoints, discharges and detaches are
never faults.

The rules leave out what cannot happen. A discharge that fails, a detach that
finds the entry gone or the mark pending, a store past the end of the card
array: none of them is a way for an event to end.
-/
import WriteBarrier.Proofs.Coherence

namespace WriteBarrier.BarrierSet

open Registry (Discharged)

variable {s s' : BarrierSet} {e : Event} {m : Mutator} {options : Options} {covered : Region}
  {events : List Event}

/-! ## Kinds of events -/

/-- The mutator that an event is one of. -/
def Event.mutator? : Event → Option Mutator
  | .detach m => some m
  | .flush m => some m
  | .makeParsable m => some m
  | .fastAllocation m _ => some m
  | .slowAllocation m _ => some m
  | _ => none

/-- The object that an event reports as allocated, with its mutator. -/
def Event.allocation? : Event → Option (Mutator × Region)
  | .fastAllocation m o => some (m, o)
  | .slowAllocation m o => some (m, o)
  | _ => none

/-- The marks that an event does nothing but discharge. -/
def Event.discharges? (s : BarrierSet) : Event → Option (List MarkId)
  | .flush m => some [m.mark]
  | .makeParsable m => some [m.mark]
  | .safepoint => some (s.mutators.map Mutator.mark)
  | _ => none

theorem live_singleton (hm : m ∈ s.mutators) : ∀ id ∈ [m.mark], ∃ m' ∈ s.mutators, m'.mark = id :=
  fun _ hid => ⟨m, hm, (List.mem_singleton.1 hid).symm⟩

theorem Event.live_of_discharges {ids : List MarkId} (he : e.discharges? s = some ids)
    (hlive : ∀ m, e.mutator? = some m → m ∈ s.mutators) :
    ∀ id ∈ ids, ∃ m ∈ s.mutators, m.mark = id := by
  cases e with
  | flush m =>
    cases he
    exact live_singleton (hlive m rfl)
  | makeParsable m =>
    cases he
    exact live_singleton (hlive m rfl)
  | safepoint =>
    cases he
    exact fun id hid => List.mem_map.1 hid
  | attach | detach | fastAllocation | slowAllocation | call | table => cases he

/-! ## The ways to end -/

/-- The answer of an event, and the state it leaves. -/
inductive Ends (s : BarrierSet) : Event → Except Fault Reply → BarrierSet → Prop
  | enrolled {t : Thread} (hfresh : s.registry.isRegistered t = false) :
      Ends s (.attach t) (.ok (.mutator ⟨t, s.registry.marks.size⟩)) (s.enroll t)
  /-- The mutator was never handed out, or was given back. -/
  | nobody {e : Event} {m : Mutator} (he : e.mutator? = some m) (hm : m ∉ s.mutators) :
      Ends s e (.ok .noMutator) s
  | discharged {e : Event} {ids : List MarkId} {marks : Registry × CardTable}
      (he : e.discharges? s = some ids) (hlive : ∀ m, e.mutator? = some m → m ∈ s.mutators)
      (hd : Discharged s.barrier ids (s.registry, s.table) marks) :
      Ends s e (.ok .done) (s.withMarks marks)
  | dismissed {m : Mutator} {marks : Registry × CardTable} (hm : m ∈ s.mutators)
      (hd : Discharged s.barrier [m.mark] (s.registry, s.table) marks) :
      Ends s (.detach m) (.ok .done) ((s.withMarks marks).dismiss m)
  /-- Under the immediate policy allocations are nothing to remember. -/
  | ignored {e : Event} {m : Mutator} {o : Region} (he : e.allocation? = some (m, o))
      (hm : m ∈ s.mutators) (hp : s.policy = .immediate) : Ends s e (.ok .done) s
  | uncovered {e : Event} {m : Mutator} {o : Region} (he : e.allocation? = some (m, o))
      (hm : m ∈ s.mutators) (hp : s.policy = .deferred)
      (ho : ¬ s.table.covered.containsRegion o = true) :
      Ends s e (.error (.regionNotCovered o s.table.covered)) s
  | deferred {e : Event} {m : Mutator} {o : Region} {marks : Registry × CardTable}
      (he : e.allocation? = some (m, o)) (hm : m ∈ s.mutators) (hp : s.policy = .deferred)
      (ho : s.table.covered.containsRegion o = true)
      (hd : Discharged s.barrier [m.mark] (s.registry, s.table) marks) :
      Ends s e (.ok .done) ((s.withMarks marks).owing m o)
  | stored {c : Barrier.Call} {table : CardTable}
      (h : s.barrier.Admits s.table.toCardLayout c.target)
      (hmarked : CardTable.Marked (s.barrier.Dirties s.table.toCardLayout c.target) s.table table) :
      Ends s (.call c) (.ok .done) { s with table }
  | refused {c : Barrier.Call} (h : ¬ s.barrier.Admits s.table.toCardLayout c.target) :
      Ends s (.call c) (.error (Barrier.refusal s.table.toCardLayout c.target)) s
  | tabled {e : CardTable.Event} {table : CardTable}
      (hrun : (CardTable.step e).run s.table = ⟨.ok (), table, []⟩)
      (hlayout : table.toCardLayout = s.table.toCardLayout)
      (hdirty : ∀ i, table.hasDirty i = true ↔
        s.table.hasDirty i = true ∧ ¬ e.Cleans s.table.toCardLayout i ∨
          e.Marks s.table.toCardLayout i) :
      Ends s (.table e) (.ok .done) { s with table }
  | untabled {e : CardTable.Event} {f : Fault}
      (hrun : (CardTable.step e).run s.table = ⟨.error f, s.table, []⟩) :
      Ends s (.table e) (.error f) s

theorem finish_ok {action : Action BarrierSet Unit} {log : List Notice}
    (h : action.run s = ⟨.ok (), s', log⟩) : (finish action).run s = ⟨.ok .done, s', log⟩ := by
  simp [finish, h, Except.map]

theorem finish_error {action : Action BarrierSet Unit} {f : Fault} {log : List Notice}
    (h : action.run s = ⟨.error f, s', log⟩) : (finish action).run s = ⟨.error f, s', log⟩ := by
  simp [finish, h, Except.map]

theorem asMutator_of_mem (hm : m ∈ s.mutators) (action : Action BarrierSet Unit) :
    (asMutator m action).run s = (finish action).run s := by
  simp [asMutator, Action.run_bind, hm]

theorem asMutator_of_not_mem (hm : m ∉ s.mutators) (action : Action BarrierSet Unit) :
    (asMutator m action).run s = ⟨.ok .noMutator, s, []⟩ := by
  simp [asMutator, Action.run_bind, hm]

theorem step_of_allocation {o : Region} (he : e.allocation? = some (m, o)) :
    step e = asMutator m (deferInitialMark m o) := by
  cases e <;> simp [Event.allocation?] at he <;> rcases he with ⟨rfl, rfl⟩ <;> rfl

/-- An event of a mutator ends as the operation does, or is nobody's. -/
theorem asMutator_ends {action : Action BarrierSet Unit} (he : e.mutator? = some m)
    (hstep : step e = asMutator m action)
    (hlive : m ∈ s.mutators →
      ∃ a s' log, (finish action).run s = ⟨a, s', log⟩ ∧ Ends s e a s') :
    ∃ a s' log, (step e).run s = ⟨a, s', log⟩ ∧ Ends s e a s' := by
  by_cases hm : m ∈ s.mutators
  · rw [hstep, asMutator_of_mem hm]
    exact hlive hm
  · exact ⟨.ok .noMutator, s, [], by rw [hstep, asMutator_of_not_mem hm], .nobody he hm⟩

theorem flush_ends (h : Coherent s) (hm : m ∈ s.mutators)
    (he : e.discharges? s = some [m.mark]) (hself : e.mutator? = some m) :
    ∃ a s' log, (finish (flush m)).run s = ⟨a, s', log⟩ ∧ Ends s e a s' := by
  obtain ⟨marks, log, hrun, hd⟩ := flush_ok h.fits (h.dischargeable hm)
  refine ⟨.ok .done, s.withMarks marks, log, finish_ok hrun, .discharged he (fun m' hm' => ?_) hd⟩
  rw [hself] at hm'
  cases hm'
  exact hm

theorem deferInitialMark_ends {o : Region} (h : Coherent s) (hm : m ∈ s.mutators)
    (he : e.allocation? = some (m, o)) :
    ∃ a s' log, (finish (deferInitialMark m o)).run s = ⟨a, s', log⟩ ∧ Ends s e a s' := by
  cases hp : s.policy with
  | immediate =>
    exact ⟨.ok .done, s, [], finish_ok (deferInitialMark_immediate hp), .ignored he hm hp⟩
  | deferred =>
    by_cases ho : s.table.covered.containsRegion o = true
    · obtain ⟨marks, log, hrun, hd⟩ := deferInitialMark_ok h hm hp ho
      exact ⟨.ok .done, (s.withMarks marks).owing m o, log, finish_ok hrun,
        .deferred he hm hp ho hd⟩
    · exact ⟨_, s, [], finish_error (deferInitialMark_error hp ho), .uncovered he hm hp ho⟩

/-- **Every event ends in one of the ways listed.** -/
theorem step_ends (h : Coherent s) (hfresh : FreshAttach s e) :
    ∃ a s' log, (step e).run s = ⟨a, s', log⟩ ∧ Ends s e a s' := by
  cases e with
  | attach t =>
    refine ⟨.ok (.mutator ⟨t, s.registry.marks.size⟩), s.enroll t, [.attached t], ?_,
      .enrolled hfresh⟩
    simp [step, attach_ok hfresh, Except.map]
  | detach m =>
    refine asMutator_ends rfl rfl fun hm => ?_
    obtain ⟨marks, log, hrun, hd⟩ := detach_ok h hm
    exact ⟨.ok .done, _, log, finish_ok hrun, .dismissed hm hd⟩
  | flush m => exact asMutator_ends rfl rfl fun hm => flush_ends h hm rfl rfl
  | makeParsable m => exact asMutator_ends rfl rfl fun hm => flush_ends h hm rfl rfl
  | fastAllocation m o => exact asMutator_ends rfl rfl fun hm => deferInitialMark_ends h hm rfl
  | slowAllocation m o => exact asMutator_ends rfl rfl fun hm => deferInitialMark_ends h hm rfl
  | call c =>
    by_cases hc : s.barrier.Admits s.table.toCardLayout c.target
    · obtain ⟨table, hrun, hmarked⟩ := call_ok h.fits hc
      exact ⟨.ok .done, _, [], finish_ok hrun, .stored hc hmarked⟩
    · exact ⟨_, s, [], finish_error (call_error hc), .refused hc⟩
  | safepoint =>
    obtain ⟨marks, log, hrun, hd⟩ := prepareForSafepoint_ok h
    exact ⟨.ok .done, _, log, finish_ok hrun, .discharged rfl (fun m hm => by cases hm) hd⟩
  | table e =>
    have honTable : ∀ {a table}, (CardTable.step e).run s.table = ⟨a, table, []⟩ →
        (onTable (CardTable.step e)).run s = ⟨a, { s with table }, []⟩ := by
      intro a table hrun
      simp [onTable, hrun]
    obtain ⟨f, hrun⟩ | ⟨table, hrun, hlayout, hdirty⟩ := CardTable.step_cases h.fits e
    · exact ⟨.error f, s, [], finish_error (honTable hrun), .untabled hrun⟩
    · exact ⟨.ok .done, _, [], finish_ok (honTable hrun), .tabled hrun hlayout hdirty⟩

/-! ## What every event keeps -/

theorem Ends.options_eq {a : Except Fault Reply} (h : Ends s e a s') : s'.options = s.options := by
  cases h <;> rfl

theorem Ends.layout_eq {a : Except Fault Reply} (h : Ends s e a s') :
    s'.table.toCardLayout = s.table.toCardLayout := by
  cases h with
  | discharged _ _ hd => exact hd.marked.layout
  | dismissed _ hd => exact hd.marked.layout
  | deferred _ _ _ _ hd => exact hd.marked.layout
  | stored _ hmarked => exact hmarked.layout
  | tabled _ hlayout _ => exact hlayout
  | enrolled | nobody | ignored | uncovered | refused | untabled => rfl

theorem Coherent.ends {a : Except Fault Reply} (h : Coherent s) (hends : Ends s e a s') :
    Coherent s' := by
  cases hends with
  | enrolled hfresh => exact h.enroll hfresh
  | discharged _ _ hd => exact h.withMarks hd
  | dismissed hm hd => exact (h.withMarks hd).dismiss hm
  | deferred _ hm hp ho hd =>
    refine (h.withMarks hd).owing hm ?_ ?_
    · rw [layout_withMarks hd]
      exact ho
    · intro himmediate
      rw [show s.policy = .immediate from himmediate] at hp
      cases hp
  | stored _ hmarked => exact h.withTable hmarked.layout
  | tabled _ hlayout _ => exact h.withTable hlayout
  | nobody | ignored | uncovered | refused | untabled => exact h

theorem Coherent.step (h : Coherent s) (hfresh : FreshAttach s e) :
    Coherent ((step e).run s).state := by
  obtain ⟨a, s', log, hrun, hends⟩ := step_ends h hfresh
  rw [hrun]
  exact h.ends hends

/-! ## Runs -/

theorem create_eq_ok (h : create options covered = .ok s) :
    CardTable.create covered options.logBytesInCard options.concurrentCardScanning = .ok s.table ∧
      s.options = options ∧ s.registry = .empty ∧ s.mutators = [] := by
  unfold create at h
  cases ht : CardTable.create covered options.logBytesInCard options.concurrentCardScanning with
  | error f =>
    rw [ht] at h
    cases h
  | ok table =>
    rw [ht] at h
    cases h
    exact ⟨rfl, rfl, rfl, rfl⟩

theorem Coherent.of_create (h : create options covered = .ok s) (hfits : s.table.Fits) :
    Coherent s := by
  obtain ⟨-, -, hregistry, hmutators⟩ := create_eq_ok h
  refine ⟨hfits, ?_, ?_, ?_, ?_⟩ <;> simp [hregistry, hmutators, Registry.empty]

theorem Coherent.run (h : Coherent s) (hfresh : Throughout FreshAttach s events) :
    Coherent (s.run events) :=
  hfresh.invariant (fun _ _ hs he => Coherent.step hs he) h

/-! ## The correspondence, and what it rules out -/

theorem Coherent.get?_eq (h : Coherent s) (hm : m ∈ s.mutators) :
    s.registry.get? m.thread = some m.mark :=
  Registry.get?_eq_some_iff.2 (h.mem_entries hm)

theorem Coherent.threads_eq (h : Coherent s) :
    s.registry.entries.map Prod.fst = s.mutators.map Mutator.thread := by
  rw [h.entries_eq, List.map_map]
  rfl

theorem Coherent.numMutators_eq (h : Coherent s) : s.numMutators = s.mutators.length := by
  rw [numMutators, Registry.size, h.entries_eq, List.length_map]

/-- **A thread that is not attached gets a mutator,** in any state. It is among the mutators from then
on, and the registry leads from its thread to its mark, which is attached and idle. -/
theorem attach_of_fresh {t : Thread} (hfresh : s.registry.isRegistered t = false) :
    ∃ m s', (attach t).run s = ⟨.ok m, s', [.attached t]⟩ ∧ m.thread = t ∧
      s'.mutators = s.mutators ++ [m] ∧ s'.registry.get? t = some m.mark ∧
      (s'.registry.mark m.mark).attached = true ∧ s'.pending m = none := by
  have hmark := Registry.mark_enter s.registry t
  refine ⟨_, _, attach_ok hfresh, rfl, rfl, Registry.get?_enter_self s.registry t, ?_, ?_⟩
  · exact congrArg DeferredMark.attached hmark
  · exact congrArg DeferredMark.pending hmark

theorem attach_after_detach (h : Coherent s) (hm : m ∈ s.mutators) :
    ∃ m', ((attach m.thread).run ((detach m).run s).state).answer = .ok m' ∧
      m'.thread = m.thread := by
  obtain ⟨marks, log, hrun, hd⟩ := detach_ok h hm
  have hgone : ((s.withMarks marks).dismiss m).registry.isRegistered m.thread = false :=
    Registry.isRegistered_erase marks.1 m.thread
  obtain ⟨m', s', hattach, hthread, -⟩ := attach_of_fresh hgone
  rw [hrun, hattach]
  exact ⟨m', rfl, hthread⟩

/-- **The registry mirrors the mutators.** In every state that a run reaches in which only threads
that are not attached attach — whatever else it does, faults included — the threads entered are those
of the mutators, each once; a mutator's entry is its own mark, attached, and owing only what is
covered. So safepoints, discharges and detaches are no faults there, and a thread that has left
can attach again. -/
theorem registry_mirrors_mutators {s₀ : BarrierSet} (hcreate : create options covered = .ok s₀)
    (hfits : s₀.table.Fits) (hfresh : Throughout FreshAttach s₀ events) :
    let s := s₀.run events
    s.registry.entries.map Prod.fst = s.mutators.map Mutator.thread ∧
    (s.mutators.map Mutator.thread).Nodup ∧
    (∀ m ∈ s.mutators, s.registry.get? m.thread = some m.mark ∧
      (s.registry.mark m.mark).attached = true ∧
      ∀ o, s.pending m = some o → s.table.covered.containsRegion o = true) ∧
    s.numMutators = s.mutators.length ∧
    (prepareForSafepoint.run s).answer = .ok () ∧
    ∀ m ∈ s.mutators, ((flush m).run s).answer = .ok () ∧
      ((makeParsable m).run s).answer = .ok () ∧
      ((detach m).run s).answer = .ok () ∧
      ∃ m', ((attach m.thread).run ((detach m).run s).state).answer = .ok m' ∧
        m'.thread = m.thread := by
  intro s
  have h : Coherent s := (Coherent.of_create hcreate hfits).run hfresh
  refine ⟨h.threads_eq, h.threads_nodup, fun m hm => ?_, h.numMutators_eq, ?_, fun m hm => ?_⟩
  · exact ⟨h.get?_eq hm, h.attached m hm, h.covered m hm⟩
  · obtain ⟨marks, log, hrun, -⟩ := prepareForSafepoint_ok h
    rw [hrun]
  · obtain ⟨marks, log, hflush, -⟩ := flush_ok h.fits (h.dischargeable hm)
    obtain ⟨marks', log', hdetach, -⟩ := detach_ok h hm
    refine ⟨?_, ?_, ?_, attach_after_detach h hm⟩
    · rw [hflush]
    · rw [makeParsable, hflush]
    · rw [hdetach]

/-- A run with two threads, an object that is superseded, one that is refused, and a detach with an
object pending: the other thread is left, whose mutator is entered with its own mark and still owes
its object. Neither a safepoint nor its detach is a fault. -/
theorem registry_mirrors_mutators_two_threads :
    ∃ s₀, create .default ⟨⟨0x1000⟩, ⟨0x1500⟩, by decide⟩ = .ok s₀ ∧ s₀.table.Fits ∧
      let left : Mutator := ⟨⟨2⟩, 1⟩
      let o : Region := ⟨⟨0x1400⟩, ⟨0x1440⟩, by decide⟩
      let events : List Event := [.attach ⟨1⟩, .attach ⟨2⟩,
        .fastAllocation ⟨⟨1⟩, 0⟩ ⟨⟨0x1000⟩, ⟨0x1210⟩, by decide⟩, .slowAllocation left o,
        .fastAllocation ⟨⟨1⟩, 0⟩ ⟨⟨0x1500⟩, ⟨0x1600⟩, by decide⟩, .detach ⟨⟨1⟩, 0⟩]
      Throughout FreshAttach s₀ events ∧ (s₀.run events).mutators = [left] ∧
        (s₀.run events).registry.get? ⟨2⟩ = some 1 ∧ (s₀.run events).pending left = some o ∧
        (prepareForSafepoint.run (s₀.run events)).answer = .ok () ∧
        ∀ m ∈ (s₀.run events).mutators, ((detach m).run (s₀.run events)).answer = .ok () := by
  have hcreate : create .default ⟨⟨0x1000⟩, ⟨0x1500⟩, by decide⟩ = .ok _ := rfl
  refine ⟨_, hcreate, by decide, ?_⟩
  intro left o events
  obtain ⟨-, -, hentry, -, hsafepoint, hcalls⟩ := @registry_mirrors_mutators _ _ events _ hcreate
    (by decide) ⟨rfl, rfl, trivial, trivial, trivial, trivial, trivial⟩
  refine ⟨⟨rfl, rfl, trivial, trivial, trivial, trivial, trivial⟩, by decide +kernel,
    (hentry left (by decide +kernel)).1, by decide +kernel, hsafepoint,
    fun m hm => (hcalls m hm).2.2.1⟩

end WriteBarrier.BarrierSet
