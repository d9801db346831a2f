/-
What a card-marking barrier asks of the structure that keeps the marks.

The card table is one tracker. `Observed` is another: it passes every request
on to the tracker inside and remembers the requests, so that "the barrier asks
for exactly this" can be said and checked.
-/
import WriteBarrier.CardTable

namespace WriteBarrier

/-- A state that keeps card marks. -/
class Tracker (σ : Type) where
  covered : σ → Region
  logBytesInCard : σ → Nat
  /-- The card of a covered address. -/
  indexOf : Address → Action σ Nat
  markDirty : Nat → Action σ Unit
  /-- Dirties the cards that a region touches. -/
  markDirtyRange : Region → Action σ Unit
  /-- Are cards scanned while mutators run? -/
  scannedConcurrently : σ → Bool := fun _ => false
  /-- Is this the card table itself? Compiled store paths are made for the card table only. -/
  isCardTable : Bool := false

instance : Tracker CardTable where
  covered t := t.covered
  logBytesInCard t := t.logBytesInCard
  indexOf a := Action.inspect fun t => t.indexOf a
  markDirty := CardTable.markDirty
  markDirtyRange := CardTable.markDirtyRange
  scannedConcurrently t := t.scannedConcurrently
  isCardTable := true

/-- The tracker that keeps no marks, which is all that a barrier that makes none needs. -/
instance : Tracker Unit where
  covered _ := default
  logBytesInCard _ := 0
  indexOf _ := return 0
  markDirty _ := return ()
  markDirtyRange _ := return ()

/-- A request to a tracker. -/
inductive TrackerCall where
  | indexOf (a : Address)
  | markDirty (index : Nat)
  | markDirtyRange (r : Region)
  deriving DecidableEq

/-- A tracker and the requests made to it so far, the latest last. -/
structure Observed (σ : Type) where
  tracker : σ
  calls : List TrackerCall := []

namespace Observed

variable {σ α : Type}

/-- Remembers the request, then lets the tracker inside answer it. -/
def pass (call : TrackerCall) (answer : Action σ α) : Action (Observed σ) α := do
  Action.update fun o => { o with calls := o.calls ++ [call] }
  Action.within Observed.tracker (fun o tracker => { o with tracker }) answer

/-- The marks are those of the tracker inside; that its cards are scanned concurrently is not
passed on. -/
instance [Tracker σ] : Tracker (Observed σ) where
  covered o := Tracker.covered o.tracker
  logBytesInCard o := Tracker.logBytesInCard o.tracker
  indexOf a := pass (.indexOf a) (Tracker.indexOf a)
  markDirty index := pass (.markDirty index) (Tracker.markDirty index)
  markDirtyRange r := pass (.markDirtyRange r) (Tracker.markDirtyRange r)

end Observed

end WriteBarrier
