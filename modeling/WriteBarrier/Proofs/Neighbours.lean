/-
Two barrier sets whose marks lie in one memory.

In a session every set has marks of its own, so that what one set does to a
mark cannot be seen from another. Here it could: the two sets share all marks
there are, each makes its new ones after those of both, and the names of the
marks alone keep them from each other. They are apart as long as no mark is
reached from both (`Neighbours.Apart`), and they stay apart, since an event
changes only marks that its set reaches, and reaches none afterwards that it
did not reach before and did not make.
-/
import WriteBarrier.Proofs.Separation

namespace WriteBarrier

/-! ## A memory that has grown -/

/-- The registry over more marks. -/
def Registry.grownTo (r : Registry) (marks : Array DeferredMark) (h : r.marks.size ≤ marks.size) :
    Registry :=
  { r with
    marks
    ids_lt := fun entry hentry => Nat.lt_of_lt_of_le (r.ids_lt entry hentry) h }

theorem Registry.kept_size (n : Nat) : Kept (fun _ => True) fun r => n ≤ r.marks.size where
  enter r t h := by simpa using Nat.le_succ_of_le h
  erase r t h := h
  leave r t id h _ _ := by
    rw [size_marks_setMark]
    exact h
  assign r id p h _ _ := by
    rw [size_marks_setMark]
    exact h

namespace BarrierSet

variable {s s' : BarrierSet} {id : MarkId} {marks : Array DeferredMark}

theorem size_marks_step (s : BarrierSet) (e : Event) :
    s.registry.marks.size ≤ ((step e).run s).state.registry.marks.size :=
  (Registry.kept_size s.registry.marks.size).step (fun _ _ => trivial) s (Nat.le_refl _)

/-- The set over more marks. -/
def grownTo (s : BarrierSet) (marks : Array DeferredMark) (h : s.registry.marks.size ≤ marks.size) :
    BarrierSet :=
  { s with registry := s.registry.grownTo marks h }

theorem reaches_grownTo (h : s.registry.marks.size ≤ marks.size) :
    (s.grownTo marks h).Reaches id ↔ s.Reaches id := Iff.rfl

theorem Owned.grownTo (hs : Owned s) (h : s.registry.marks.size ≤ marks.size) :
    Owned (s.grownTo marks h) :=
  ⟨fun m hm => ⟨Nat.lt_of_lt_of_le (hs.held m hm).1 h, (hs.held m hm).2⟩, hs.nodup⟩

theorem Owned.lt_of_reaches (hs : Owned s) (h : s.Reaches id) : id < s.registry.marks.size := by
  rcases h with ⟨entry, hentry, rfl⟩ | ⟨m, hm, rfl⟩
  · exact s.registry.ids_lt entry hentry
  · exact (hs.held m hm).1

/-- All that the set can get at is in `s'` as it is in `s`. -/
structure Undisturbed (s s' : BarrierSet) : Prop where
  options_eq : s'.options = s.options
  table_eq : s'.table = s.table
  mutators_eq : s'.mutators = s.mutators
  entries_eq : s'.registry.entries = s.registry.entries
  mark_eq : ∀ id, s.Reaches id → s'.registry.mark id = s.registry.mark id

end BarrierSet

/-! ## Two sets over one memory -/

open BarrierSet (Event Owned Undisturbed)

/-- Two barrier sets that share their marks. -/
structure Neighbours where
  one : BarrierSet
  other : BarrierSet
  marks_eq : other.registry.marks = one.registry.marks

namespace Neighbours

/-- Whose event it is. -/
inductive Side where
  | one
  | other
  deriving DecidableEq

def Side.opposite : Side → Side
  | .one => .other
  | .other => .one

variable {n : Neighbours}

def set (n : Neighbours) : Side → BarrierSet
  | .one => n.one
  | .other => n.other

def swap (n : Neighbours) : Neighbours := ⟨n.other, n.one, n.marks_eq.symm⟩

/-- An event of the one set. The other set finds the marks as it leaves them. -/
def act (n : Neighbours) (e : Event) : Neighbours where
  one := ((BarrierSet.step e).run n.one).state
  other := n.other.grownTo ((BarrierSet.step e).run n.one).state.registry.marks (by
    rw [n.marks_eq]
    exact BarrierSet.size_marks_step n.one e)
  marks_eq := rfl

def step (n : Neighbours) (side : Side) (e : Event) : Neighbours :=
  match side with
  | .one => n.act e
  | .other => (n.swap.act e).swap

def run (n : Neighbours) (events : List (Side × Event)) : Neighbours :=
  events.foldl (fun n e => n.step e.1 e.2) n

/-- Each set's mutators own their marks, and no mark is reached from both sets. -/
structure Apart (n : Neighbours) : Prop where
  one : Owned n.one
  other : Owned n.other
  disjoint : ∀ id, n.one.Reaches id → ¬ n.other.Reaches id

namespace Apart

theorem swap (h : Apart n) : Apart n.swap :=
  ⟨h.other, h.one, fun id hother hone => h.disjoint id hone hother⟩

/-- What the other set reaches, an event of the one set leaves as it is, and does not get hold of. -/
theorem unreached {id : MarkId} (h : Apart n) (hid : n.other.Reaches id) (e : Event) :
    ((BarrierSet.step e).run n.one).state.registry.mark id = n.one.registry.mark id ∧
      ¬ ((BarrierSet.step e).run n.one).state.Reaches id := by
  have hlt : id < n.one.registry.marks.size := by
    rw [← n.marks_eq]
    exact h.other.lt_of_reaches hid
  have hone : ¬ n.one.Reaches id := fun hone => h.disjoint id hone hid
  exact (BarrierSet.unreached_step hlt hone e).2

theorem act (h : Apart n) (e : Event) :
    Apart (n.act e) ∧ Undisturbed n.other (n.act e).other := by
  refine ⟨⟨BarrierSet.keeps_owned_step e n.one h.one, h.other.grownTo _, fun id hone hother => ?_⟩, ?_⟩
  · exact (h.unreached ((BarrierSet.reaches_grownTo _).1 hother) e).2 hone
  · refine ⟨rfl, rfl, rfl, rfl, fun id hid => ?_⟩
    have hsame : n.other.registry.mark id = n.one.registry.mark id := by
      rw [Registry.mark, n.marks_eq, Registry.mark]
    rw [hsame]
    exact (h.unreached hid e).1

/-- **An event of one set** leaves the two apart, and the other set with all it had. -/
theorem step (h : Apart n) (side : Side) (e : Event) :
    Apart (n.step side e) ∧
      Undisturbed (n.set side.opposite) ((n.step side e).set side.opposite) := by
  cases side with
  | one => exact h.act e
  | other =>
    obtain ⟨hswapped, hsame⟩ := h.swap.act e
    exact ⟨hswapped.swap, hsame⟩

theorem run (h : Apart n) (events : List (Side × Event)) : Apart (n.run events) := by
  induction events generalizing n with
  | nil => exact h
  | cons e rest ih => exact ih (h.step e.1 e.2).1

end Apart

/-! ## From the start -/

variable {one other : BarrierSet} {options options' : Options} {covered covered' : Region}

/-- Two sets as they are built. There is no mark yet. -/
def ofCreate (hone : BarrierSet.create options covered = .ok one)
    (hother : BarrierSet.create options' covered' = .ok other) : Neighbours where
  one := one
  other := other
  marks_eq := by rw [(BarrierSet.create_eq_ok hone).2.2.1, (BarrierSet.create_eq_ok hother).2.2.1]

theorem apart_ofCreate (hone : BarrierSet.create options covered = .ok one)
    (hother : BarrierSet.create options' covered' = .ok other) : Apart (ofCreate hone hother) := by
  refine ⟨Owned.of_create hone, Owned.of_create hother, fun id hid => ?_⟩
  obtain ⟨-, -, hregistry, hmutators⟩ := BarrierSet.create_eq_ok hone
  simp [ofCreate, BarrierSet.Reaches, hregistry, hmutators, Registry.empty] at hid

/-- **Sets that share their marks keep out of each other's way.** Two sets are built over one memory of
marks, and threads attach to them, to one or to both, and do with them what they like, in any order,
faults and failed attaches included. At no point is a mark reached from both. An event of one set does
to that set what it would do by itself, and leaves the other with its options, its table, its mutators
and entries, and every mark that they lead to. -/
theorem sets_over_one_memory_stay_apart (hone : BarrierSet.create options covered = .ok one)
    (hother : BarrierSet.create options' covered' = .ok other) (events : List (Side × Event))
    (side : Side) (e : Event) :
    let n := (ofCreate hone hother).run events
    Apart n ∧
      (n.step side e).set side = ((BarrierSet.step e).run (n.set side)).state ∧
      Undisturbed (n.set side.opposite) ((n.step side e).set side.opposite) := by
  intro n
  have hapart : Apart n := (apart_ofCreate hone hother).run events
  refine ⟨hapart, ?_, (hapart.step side e).2⟩
  cases side <;> rfl

/-- One thread is attached to both sets, with marks 0 and 1 of the memory, and owes an object in each.
It attaches to the one set again, which fails and makes mark 2, and a safepoint of that set passes it
by: both objects are still owed. -/
example :
    let covered : Region := ⟨⟨0x1000⟩, ⟨0x1500⟩, by decide⟩
    let o : Region := ⟨⟨0x1000⟩, ⟨0x1210⟩, by decide⟩
    ∃ s, ∃ h : BarrierSet.create .default covered = .ok s,
      let n := (ofCreate h h).run [(.one, .attach ⟨1⟩), (.other, .attach ⟨1⟩),
        (.one, .fastAllocation ⟨⟨1⟩, 0⟩ o), (.other, .fastAllocation ⟨⟨1⟩, 1⟩ o),
        (.one, .attach ⟨1⟩), (.one, .safepoint)]
      n.one.registry.entries = [(⟨1⟩, 2)] ∧ n.other.registry.entries = [(⟨1⟩, 1)] ∧
        n.one.registry.marks = #[{ pending := some o }, { pending := some o }, {}] ∧
        n.other.table.dirtyCards = [] :=
  ⟨_, rfl, by decide +kernel⟩

end Neighbours

end WriteBarrier
