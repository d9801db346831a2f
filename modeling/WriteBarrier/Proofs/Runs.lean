/-
Runs of a barrier set whose events keep to a rule. What a rule allows may
depend on the state that the event meets; a fault ends its event only, and
the next event meets the state it left.
-/
import WriteBarrier.BarrierSet.Event

namespace WriteBarrier.BarrierSet

variable {rule : BarrierSet → Event → Prop} {s : BarrierSet} {e : Event} {events later : List Event}

@[simp] theorem run_nil (s : BarrierSet) : s.run [] = s := rfl

@[simp] theorem run_cons (s : BarrierSet) (e : Event) (events : List Event) :
    s.run (e :: events) = run ((step e).run s).state events := rfl

theorem run_append (s : BarrierSet) (events later : List Event) :
    s.run (events ++ later) = (s.run events).run later := List.foldl_append

/-- What the events of a run answer, one after the other. -/
def answers : BarrierSet → List Event → List (Except Fault Reply)
  | _, [] => []
  | s, e :: rest => ((step e).run s).answer :: answers ((step e).run s).state rest

/-- Every event of the run is allowed in the state that it meets. -/
def Throughout (rule : BarrierSet → Event → Prop) : BarrierSet → List Event → Prop
  | _, [] => True
  | s, e :: rest => rule s e ∧ Throughout rule ((step e).run s).state rest

theorem throughout_append :
    Throughout rule s (events ++ later) ↔
      Throughout rule s events ∧ Throughout rule (s.run events) later := by
  induction events generalizing s with
  | nil => simp [Throughout]
  | cons e rest ih => simp [Throughout, ih, and_assoc]

theorem throughout_concat :
    Throughout rule s (events ++ [e]) ↔ Throughout rule s events ∧ rule (s.run events) e := by
  simp [throughout_append, Throughout]

theorem Throughout.invariant {holds : BarrierSet → Prop} (h : Throughout rule s events)
    (hstep : ∀ s e, holds s → rule s e → holds ((step e).run s).state) (hstart : holds s) :
    holds (s.run events) := by
  induction events generalizing s with
  | nil => exact hstart
  | cons e rest ih => exact ih h.2 (hstep s e hstart h.1)

/-- Only threads that are not attached attach. -/
def FreshAttach (s : BarrierSet) : Event → Prop
  | .attach t => s.registry.isRegistered t = false
  | _ => True

end WriteBarrier.BarrierSet
