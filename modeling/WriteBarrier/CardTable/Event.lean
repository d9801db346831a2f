/-
The changes a card table goes through, as data, and runs of them.

In a run a fault is caught and the run goes on with the table the fault left.
-/
import WriteBarrier.CardTable

namespace WriteBarrier.CardTable

inductive Event where
  | markDirty (index : Nat)
  | markDirtyRange (r : Region)
  | clearRange (r : Region)
  | clearCard (index : Nat)
  | clearAll
  deriving DecidableEq

/-- What an event does to a table. -/
def step : Event → Action CardTable Unit
  | .markDirty index => markDirty index
  | .markDirtyRange r => markDirtyRange r
  | .clearRange r => clearRange r
  | .clearCard index => clearCard index
  | .clearAll => clearAll

/-- The table after a run of events. -/
def run (t : CardTable) (events : List Event) : CardTable :=
  events.foldl (fun t e => ((step e).run t).state) t

end WriteBarrier.CardTable
