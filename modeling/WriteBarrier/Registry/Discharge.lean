/-
Discharging deferred marks: the obligation leaves the mark first, and then the
cards of its object are dirtied.

A discharge works on a registry and a tracker that need not belong together:
the barrier it is handed may be that of any barrier set. Where that tracker
refuses the object's region, the obligation has left the mark already.
-/
import WriteBarrier.Barrier
import WriteBarrier.Registry

namespace WriteBarrier.Registry

variable {σ α : Type}

/-- An operation on the registry alone. -/
def onRegistry (action : Action Registry α) : Action (Registry × σ) α :=
  Action.within Prod.fst (fun s registry => (registry, s.2)) action

/-- An operation on the tracker alone. -/
def onTracker (action : Action σ α) : Action (Registry × σ) α :=
  Action.within Prod.snd (fun s tracker => (s.1, tracker)) action

variable [Tracker σ]

/-- Discharges one mark through a barrier. -/
def discharge (b : Barrier) (id : MarkId) : Action (Registry × σ) Unit := do
  let pending ← onRegistry (takePending id)
  match pending with
  | none => return ()
  | some object =>
    Action.report (.discharging object)
    onTracker (b.writeRegion object)

/-- Discharges marks one after another, and counts those that were pending. -/
def dischargeEach (b : Barrier) : List MarkId → Action (Registry × σ) Nat
  | [] => return 0
  | id :: rest => do
    let m ← onRegistry (Action.view (·.mark id))
    discharge b id
    let others ← dischargeEach b rest
    return (if m.pending.isSome then others + 1 else others)

/-- Discharges the mark of every attached thread. -/
def flushAll (b : Barrier) : Action (Registry × σ) Nat := do
  let registry ← onRegistry Action.state
  dischargeEach b (registry.entries.map Prod.snd)

end WriteBarrier.Registry
