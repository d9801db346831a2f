/-
The barriers that run after a reference store.

The card-marking barrier is imprecise for fields: it dirties the card on which
the *object* starts, wherever the field lies. For arrays and bulk writes it is
precise: it dirties the cards that the written region touches. Stored values
are never looked at, so a store of null is marked too. The other barrier does
nothing.

The routes by which a store reaches the barrier are in `WriteBarrier.Barrier.Call`.
-/
import WriteBarrier.Access
import WriteBarrier.Tracker

namespace WriteBarrier

/-- The barriers to choose from. -/
inductive Selector where
  | noBarrier
  | cardTable
  deriving DecidableEq, Inhabited

namespace Selector

def name : Selector → String
  | noBarrier => "NoBarrier"
  | cardTable => "CardTableBarrier"

/-- The barrier of exactly this name. -/
def ofName? (s : String) : Option Selector :=
  if s = noBarrier.name then some noBarrier
  else if s = cardTable.name then some cardTable
  else none

theorem ofName?_eq_some_iff {s : String} {b : Selector} : ofName? s = some b ↔ s = b.name := by
  constructor
  · intro h
    unfold ofName? at h
    split at h
    · cases h; assumption
    · split at h
      · cases h; assumption
      · cases h
  · rintro rfl
    cases b <;> simp [ofName?, name]

end Selector

/-- When the cards of a new object are marked: at each of its initializing stores, or later, once,
through the deferred mark of the thread that allocated it. -/
inductive Policy where
  | immediate
  | deferred
  deriving DecidableEq

def Policy.name : Policy → String
  | immediate => "Immediate"
  | deferred => "Deferred"

/-- An installed barrier. -/
inductive Barrier where
  | noBarrier
  /-- Marks cards; `deferred` lets the initializing stores of new objects go unmarked. -/
  | cardTable (deferred : Bool)
  deriving DecidableEq

namespace Barrier

variable {σ : Type} [Tracker σ]

/-! ## Marking -/

def fieldWrite (b : Barrier) (w : FieldWrite) : Action σ Unit :=
  match b with
  | noBarrier => return ()
  | cardTable _ => do
    let index ← Tracker.indexOf w.object
    Tracker.markDirty index

def arrayWrite (b : Barrier) (elements : Region) : Action σ Unit :=
  match b with
  | noBarrier => return ()
  | cardTable _ => Tracker.markDirtyRange elements

/-- Dirties every card that the region touches, under any policy. -/
def invalidate (b : Barrier) (r : Region) : Action σ Unit :=
  match b with
  | noBarrier => return ()
  | cardTable _ => Tracker.markDirtyRange r

/-- Another name for `invalidate`. -/
def markRegion (b : Barrier) (r : Region) : Action σ Unit := b.invalidate r

/-- Every reference in the region may have been written: the mark that a new object is owed. -/
def writeRegion (b : Barrier) (r : Region) : Action σ Unit := b.invalidate r

/-! ## What code generators ask -/

def selector : Barrier → Selector
  | noBarrier => .noBarrier
  | cardTable _ => .cardTable

def policy : Barrier → Policy
  | noBarrier => .immediate
  | cardTable deferred => if deferred then .deferred else .immediate

/-- May fast-path initializing stores go without a barrier? -/
def canElideFastPath : Barrier → Bool
  | noBarrier => false
  | cardTable deferred => deferred

/-- Must a card mark be ordered after the store that it records? -/
def requiresStrictOrdering (b : Barrier) (s : σ) : Bool :=
  match b with
  | noBarrier => false
  | cardTable _ => Tracker.scannedConcurrently s

/-- Is this the barrier that store paths compiled for `wanted` expect? -/
def isCompiledFor (σ : Type) [Tracker σ] (b : Barrier) (wanted : Selector) : Bool :=
  match b with
  | noBarrier => wanted == .noBarrier
  | cardTable _ => wanted == .cardTable && Tracker.isCardTable σ

def text (b : Barrier) (s : σ) : String :=
  match b with
  | noBarrier => b.selector.name
  | cardTable _ =>
    let bytes := Word.twoPow (Tracker.logBytesInCard s)
    s!"{b.selector.name}: {bytes} bytes per card, covering {Tracker.covered s}, {b.policy.name} initial card marks"

theorem policy_eq_deferred_iff {b : Barrier} : b.policy = .deferred ↔ b.canElideFastPath = true := by
  cases b with
  | noBarrier => simp [policy, canElideFastPath]
  | cardTable deferred => cases deferred <;> simp [policy, canElideFastPath]

end Barrier

end WriteBarrier
