/-
A barrier set: the barrier chosen by its options, the card table it marks, the
registry of its threads, and the mutators it has handed out.

A mutator is what a thread holds between attaching and detaching: the thread's
name and its deferred mark. The deferred mark is discharged when the thread
asks, before the next object is recorded, at every safepoint, and when the
thread detaches.
-/
import WriteBarrier.Barrier.Call
import WriteBarrier.Options
import WriteBarrier.Registry.Discharge

namespace WriteBarrier

/-- What an attached thread holds. -/
structure Mutator where
  thread : Thread
  mark : MarkId
  deriving DecidableEq

structure BarrierSet where
  /-- The options it was built with. They never change. -/
  options : Options
  table : CardTable
  registry : Registry := .empty
  /-- The mutators handed out and not given back. -/
  mutators : List Mutator := []

namespace BarrierSet

variable {α : Type}

/-! ## Building -/

/-- The barrier set over `covered` that the options ask for: every card clean, no thread attached. -/
def create (options : Options) (covered : Region) : Except Fault BarrierSet := do
  let table ← CardTable.create covered options.logBytesInCard options.concurrentCardScanning
  return { options, table }

/-! ## Reading -/

/-- The installed barrier. -/
def barrier (s : BarrierSet) : Barrier :=
  match s.options.barrier with
  | .noBarrier => .noBarrier
  | .cardTable => .cardTable s.options.reduceInitialCardMarks

/-- The installed barrier, for store paths compiled for `wanted`. -/
def barrierAs? (s : BarrierSet) (wanted : Selector) : Option Barrier :=
  if s.barrier.isCompiledFor CardTable wanted then some s.barrier else none

def policy (s : BarrierSet) : Policy := s.barrier.policy

def canElideFastPath (s : BarrierSet) : Bool := s.barrier.canElideFastPath

def requiresStrictOrdering (s : BarrierSet) : Bool := s.barrier.requiresStrictOrdering s.table

/-- The number of attached threads. -/
def numMutators (s : BarrierSet) : Nat := s.registry.size

/-- The object whose marks a mutator still owes. -/
def pending (s : BarrierSet) (m : Mutator) : Option Region := (s.registry.mark m.mark).pending

def barrierText (s : BarrierSet) : String := s.barrier.text s.table

def text (s : BarrierSet) : String := s!"{s.barrierText} [{s.table}]"

/-! ## Parts -/

def onTable (action : Action CardTable α) : Action BarrierSet α :=
  Action.within BarrierSet.table (fun s table => { s with table }) action

def onRegistry (action : Action Registry α) : Action BarrierSet α :=
  Action.within BarrierSet.registry (fun s registry => { s with registry }) action

/-- An operation on the registry and the table together. -/
def onMarks (action : Action (Registry × CardTable) α) : Action BarrierSet α :=
  Action.within (fun s => (s.registry, s.table))
    (fun s marks => { s with registry := marks.1, table := marks.2 }) action

/-! ## Stores -/

/-- A call to the installed barrier. -/
def call (c : Barrier.Call) : Action BarrierSet Unit := do
  let b ← Action.view barrier
  onTable (b.perform c)

/-! ## Mutators -/

/-- Attaches a thread and hands out its mutator. -/
def attach (t : Thread) : Action BarrierSet Mutator := do
  let id ← onRegistry (Registry.register t)
  Action.report (.attached t)
  let m : Mutator := ⟨t, id⟩
  Action.update fun s => { s with mutators := s.mutators ++ [m] }
  return m

/-- Discharges a mutator's deferred mark. -/
def flush (m : Mutator) : Action BarrierSet Unit := do
  let b ← Action.view barrier
  onMarks (Registry.discharge b m.mark)

/-- Makes the cards agree with the objects, as for a walk of the heap. -/
def makeParsable (m : Mutator) : Action BarrierSet Unit := flush m

/-- Takes a mutator back and detaches its thread. The mutator is gone even where the rest is a
fault. -/
def detach (m : Mutator) : Action BarrierSet Unit := do
  Action.update fun s => { s with mutators := s.mutators.erase m }
  Action.report (.detaching m.thread)
  flush m
  onRegistry (Registry.unregister m.thread)

/-- Under the deferred policy a new object becomes the mutator's obligation, after the one before has
been discharged. An object that is not covered is a fault before anything happens. -/
def deferInitialMark (m : Mutator) (object : Region) : Action BarrierSet Unit := do
  let p ← Action.view policy
  match p with
  | .immediate => return ()
  | .deferred =>
    onTable (Action.inspect fun t => t.checkRegion object)
    flush m
    onRegistry (Registry.record m.mark object)

/-- An object was allocated on the fast path, with no barriers on its initializing stores. -/
def recordFastPathAllocation (m : Mutator) (object : Region) : Action BarrierSet Unit :=
  deferInitialMark m object

/-- An object was allocated on the slow path, which need not give the guarantee of the fast path. -/
def onSlowPathAllocation (m : Mutator) (object : Region) : Action BarrierSet Unit :=
  deferInitialMark m object

/-! ## Safepoints -/

/-- All mutators are stopped: discharges the deferred mark of every attached thread. -/
def prepareForSafepoint : Action BarrierSet Unit := do
  let b ← Action.view barrier
  let discharged ← onMarks (Registry.flushAll b)
  let threads ← Action.view numMutators
  Action.report (.safepoint discharged threads)

end BarrierSet

end WriteBarrier
