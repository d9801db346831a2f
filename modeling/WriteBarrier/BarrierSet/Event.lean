/-
The life of one barrier set as a run of events: what its mutators do, the
stores, the safepoints, and what the collector does to the card table.

In a run a fault is caught and the run goes on with the state it left. An
event of a mutator that was never handed out, or was given back, is nobody's:
it changes nothing.
-/
import WriteBarrier.BarrierSet
import WriteBarrier.CardTable.Event

namespace WriteBarrier.BarrierSet

inductive Event where
  | attach (t : Thread)
  | detach (m : Mutator)
  | flush (m : Mutator)
  | makeParsable (m : Mutator)
  | fastAllocation (m : Mutator) (object : Region)
  | slowAllocation (m : Mutator) (object : Region)
  /-- A store, or another call to the barrier. -/
  | call (c : Barrier.Call)
  | safepoint
  | table (e : CardTable.Event)
  deriving DecidableEq

/-- What an event answers. -/
inductive Reply where
  | done
  | mutator (m : Mutator)
  /-- There is no such mutator. -/
  | noMutator
  deriving DecidableEq

/-- Answers that the event is done. -/
def finish (action : Action BarrierSet Unit) : Action BarrierSet Reply := do
  action
  return .done

/-- An operation of a mutator that was handed out. -/
def asMutator (m : Mutator) (action : Action BarrierSet Unit) : Action BarrierSet Reply := do
  let live ← Action.view (·.mutators.contains m)
  if live then finish action else return .noMutator

/-- What an event does to a barrier set. -/
def step : Event → Action BarrierSet Reply
  | .attach t => do
    let m ← attach t
    return .mutator m
  | .detach m => asMutator m (detach m)
  | .flush m => asMutator m (flush m)
  | .makeParsable m => asMutator m (makeParsable m)
  | .fastAllocation m object => asMutator m (recordFastPathAllocation m object)
  | .slowAllocation m object => asMutator m (onSlowPathAllocation m object)
  | .call c => finish (call c)
  | .safepoint => finish prepareForSafepoint
  | .table e => finish (onTable (CardTable.step e))

/-- The barrier set after a run of events. -/
def run (s : BarrierSet) (events : List Event) : BarrierSet :=
  events.foldl (fun s e => ((step e).run s).state) s

end WriteBarrier.BarrierSet
