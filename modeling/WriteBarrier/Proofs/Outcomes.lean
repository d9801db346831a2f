/-
The outcome of an event, read off the state that it meets: on a coherent
barrier set an event's answer is decided before it does anything, and the
answer says who is a mutator afterwards.
-/
import WriteBarrier.Proofs.Lifecycle

namespace WriteBarrier.BarrierSet

variable {s s' : BarrierSet} {e : Event} {a : Except Fault Reply}

/-- The answer of an event. Only what is not covered is refused: a new object under the deferred
policy, and a store to a table. -/
def verdict (s : BarrierSet) : Event → Except Fault Reply
  | .attach t => .ok (.mutator ⟨t, s.registry.marks.size⟩)
  | .detach m => .ok (if m ∈ s.mutators then .done else .noMutator)
  | .flush m => .ok (if m ∈ s.mutators then .done else .noMutator)
  | .makeParsable m => .ok (if m ∈ s.mutators then .done else .noMutator)
  | .fastAllocation m o => allocation m o
  | .slowAllocation m o => allocation m o
  | .call c =>
    if s.barrier.Admits s.table.toCardLayout c.target then .ok .done
    else .error (Barrier.refusal s.table.toCardLayout c.target)
  | .safepoint => .ok .done
  | .table e => ((CardTable.step e).run s.table).answer.map fun _ => .done
where
  allocation (m : Mutator) (o : Region) : Except Fault Reply :=
    if m ∉ s.mutators then .ok .noMutator
    else if s.policy = .deferred ∧ ¬ s.table.covered.containsRegion o = true then
      .error (.regionNotCovered o s.table.covered)
    else .ok .done

/-- The mutators after an event that answered `a`. -/
def remaining (s : BarrierSet) : Event → Except Fault Reply → List Mutator
  | .attach _, .ok (.mutator m) => s.mutators ++ [m]
  | .detach m, .ok .done => s.mutators.erase m
  | _, _ => s.mutators

theorem Ends.answer_eq (h : Ends s e a s') : a = s.verdict e := by
  cases h with
  | enrolled => rfl
  | nobody he hm =>
    cases e <;> simp [Event.mutator?] at he <;> simp [verdict, verdict.allocation, he, hm]
  | discharged he hlive hd =>
    cases e <;> simp [Event.discharges?] at he <;> simp [Event.mutator?] at hlive <;>
      simp [verdict, hlive]
  | dismissed hm => simp [verdict, hm]
  | ignored he hm hp =>
    cases e <;> simp [Event.allocation?] at he <;> simp [verdict, verdict.allocation, he, hm, hp]
  | uncovered he hm hp ho =>
    cases e <;> simp [Event.allocation?] at he <;> simp [verdict, verdict.allocation, he, hm, hp, ho]
  | deferred he hm hp ho hd =>
    cases e <;> simp [Event.allocation?] at he <;> simp [verdict, verdict.allocation, he, hm, hp, ho]
  | stored hc => simp [verdict, hc]
  | refused hc => simp [verdict, hc]
  | tabled hrun => simp [verdict, hrun, Except.map]
  | untabled hrun => simp [verdict, hrun, Except.map]

theorem Ends.mutators_eq (h : Ends s e a s') : s'.mutators = s.remaining e a := by
  cases h with
  | enrolled => rfl
  | nobody he hm => cases e <;> simp [Event.mutator?] at he <;> rfl
  | discharged he => cases e <;> simp [Event.discharges?] at he <;> rfl
  | ignored he => cases e <;> simp [Event.allocation?] at he <;> rfl
  | uncovered he => cases e <;> simp [Event.allocation?] at he <;> rfl
  | deferred he => cases e <;> simp [Event.allocation?] at he <;> rfl
  | dismissed | stored | refused | tabled | untabled => rfl

/-- Marks are made by attaching, and by nothing else. -/
theorem Ends.size_marks (h : Ends s e a s') :
    s'.registry.marks.size = s.registry.marks.size + (s'.mutators.length - s.mutators.length) := by
  cases h with
  | enrolled => simp [enroll, Registry.enter]
  | discharged _ _ hd => simpa [withMarks] using hd.size_eq
  | @dismissed m marks hm hd =>
    have hle : (s.mutators.erase m).length ≤ s.mutators.length := List.length_erase_le
    simpa [dismiss, withMarks, Registry.setMark, Registry.erase, Nat.sub_eq_zero_of_le hle]
      using hd.size_eq
  | deferred _ _ _ _ hd => simpa [owing, withMarks, Registry.setMark] using hd.size_eq
  | nobody | ignored | uncovered | stored | refused | tabled | untabled => simp

end WriteBarrier.BarrierSet
