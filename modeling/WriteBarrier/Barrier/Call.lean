/-
The routes by which a store reaches a barrier: the barrier's own operations, a
call site that knows the kind of access, one that learns it at run time, and
the entry points of the runtime. What a call does depends on its target alone
(`perform_eq`): the routes agree.
-/
import WriteBarrier.Barrier

namespace WriteBarrier.Barrier

/-- A call to a barrier. -/
inductive Call where
  /-- The barrier's own operation for a store into a field. -/
  | fieldWrite (w : FieldWrite)
  /-- The barrier's own operation for a store into elements of an array. -/
  | arrayWrite (elements : Region)
  | invalidate (r : Region)
  | markRegion (r : Region)
  | writeRegion (r : Region)
  /-- A call site that knows the kind of access. -/
  | postWrite (kind : AccessKind) (target : kind.Target)
  /-- A call site that is handed the kind with the target. -/
  | postWriteTarget (target : WriteTarget)
  /-- The runtime stored a reference into a field. -/
  | objectStored (w : FieldWrite)
  /-- The runtime stored references into elements of an array. -/
  | elementsStored (elements : Region)
  /-- The runtime copied references to a region. -/
  | regionCopied (destination : Region)
  /-- The runtime changed a region in bulk. -/
  | bulkChanged (r : Region)
  deriving DecidableEq

variable {σ : Type} [Tracker σ]

/-- The barrier of a store whose kind is known. -/
def postWrite (b : Barrier) : (kind : AccessKind) → kind.Target → Action σ Unit
  | .plainField, w => b.fieldWrite w
  | .arrayElement, r => b.arrayWrite r
  | .bulkRegion, r => b.invalidate r

/-- The barrier of a store whose kind comes with it. -/
def postWriteTarget (b : Barrier) : WriteTarget → Action σ Unit
  | .field w => b.postWrite .plainField w
  | .elements r => b.postWrite .arrayElement r
  | .region r => b.postWrite .bulkRegion r

/-- What a call makes the barrier do. A copied region is reported like elements of an array. -/
def perform (b : Barrier) : Call → Action σ Unit
  | .fieldWrite w => b.fieldWrite w
  | .arrayWrite elements => b.arrayWrite elements
  | .invalidate r => b.invalidate r
  | .markRegion r => b.markRegion r
  | .writeRegion r => b.writeRegion r
  | .postWrite kind target => b.postWrite kind target
  | .postWriteTarget target => b.postWriteTarget target
  | .objectStored w => b.postWrite .plainField w
  | .elementsStored elements => b.postWrite .arrayElement elements
  | .regionCopied destination => b.postWrite .arrayElement destination
  | .bulkChanged r => b.postWrite .bulkRegion r

/-! ## The routes agree -/

/-- What was stored to, whatever the route. -/
def Call.target : Call → WriteTarget
  | fieldWrite w => .field w
  | arrayWrite elements => .elements elements
  | invalidate r => .region r
  | markRegion r => .region r
  | writeRegion r => .region r
  | postWrite .plainField w => .field w
  | postWrite .arrayElement elements => .elements elements
  | postWrite .bulkRegion r => .region r
  | postWriteTarget target => target
  | objectStored w => .field w
  | elementsStored elements => .elements elements
  | regionCopied destination => .elements destination
  | bulkChanged r => .region r

/-- Elements of an array and bulk regions are marked alike. -/
theorem arrayWrite_eq_invalidate (b : Barrier) (r : Region) :
    (b.arrayWrite r : Action σ Unit) = b.invalidate r := by
  cases b <;> rfl

/-- **What a call does depends on its target alone,** not on the route by which it came. -/
theorem perform_eq (b : Barrier) (c : Call) :
    (b.perform c : Action σ Unit) = match c.target with
      | .field w => b.fieldWrite w
      | .elements r => b.invalidate r
      | .region r => b.invalidate r := by
  cases c with
  | postWrite kind target =>
    cases kind with
    | plainField => rfl
    | arrayElement => exact arrayWrite_eq_invalidate b target
    | bulkRegion => rfl
  | postWriteTarget target =>
    cases target with
    | field => rfl
    | elements r => exact arrayWrite_eq_invalidate b r
    | region => rfl
  | arrayWrite r => exact arrayWrite_eq_invalidate b r
  | elementsStored r => exact arrayWrite_eq_invalidate b r
  | regionCopied r => exact arrayWrite_eq_invalidate b r
  | fieldWrite | invalidate | markRegion | writeRegion | objectStored | bulkChanged => rfl

end WriteBarrier.Barrier
