/-
Deferred card marks, and the registry through which a safepoint reaches them.

A deferred mark is at most one obligation: the object allocated last whose
initializing stores went unmarked. It is made when a thread attaches and is
shared from then on — by the mutator that owns it, and by the registry's entry
for the thread, until the thread detaches. A mark is therefore named by its
place among all marks made so far, and both holders carry the name.

The type keeps what every operation keeps: a thread has at most one entry, no
two entries share a mark, and every entry's mark exists. It does *not* keep an
entry for every mark: attaching an attached thread fails, but only after the
new entry has taken the place of the old one, and detaching a thread whose
mark is pending fails after the entry has gone.
-/
import WriteBarrier.Action

namespace WriteBarrier

/-- The deferred mark of one thread. -/
structure DeferredMark where
  /-- The object whose cards are still to be marked. -/
  pending : Option Region := none
  /-- Is the thread attached? -/
  attached : Bool := true
  deriving DecidableEq

/-- The name of a deferred mark. -/
abbrev MarkId := Nat

structure Registry where
  /-- All marks made so far, those of threads that have left included. -/
  marks : Array DeferredMark
  /-- The attached threads and their marks, in the order of attachment. -/
  entries : List (Thread × MarkId)
  threads_nodup : (entries.map Prod.fst).Nodup
  ids_nodup : (entries.map Prod.snd).Nodup
  ids_lt : ∀ entry ∈ entries, entry.2 < marks.size
  deriving DecidableEq

namespace Registry

/-- No threads, and no marks yet. -/
def empty : Registry := ⟨#[], [], .nil, .nil, by simp⟩

instance : Inhabited Registry := ⟨empty⟩

/-! ## Reading -/

/-- A mark. Where there is none of this name, a mark that is idle and detached. -/
def mark (r : Registry) (id : MarkId) : DeferredMark :=
  r.marks[id]?.getD { attached := false }

/-- The mark of an attached thread. -/
def get? (r : Registry) (t : Thread) : Option MarkId := r.entries.lookup t

/-- The mark of a thread that has to be attached. -/
def get (r : Registry) (t : Thread) : Except Fault MarkId :=
  match r.get? t with
  | some id => .ok id
  | none => .error (.notAttached t)

def isRegistered (r : Registry) (t : Thread) : Bool := (r.get? t).isSome

/-- The number of attached threads. -/
def size (r : Registry) : Nat := r.entries.length

def isEmpty (r : Registry) : Bool := r.entries.isEmpty

/-! ## Storing -/

/-- Overwrites a mark. -/
def setMark (r : Registry) (id : MarkId) (m : DeferredMark) : Registry :=
  { r with
    marks := r.marks.setIfInBounds id m
    ids_lt := fun entry h => by simpa using r.ids_lt entry h }

/-- Removes a thread's entry. Its mark stays. -/
def erase (r : Registry) (t : Thread) : Registry :=
  { r with
    entries := r.entries.filter fun entry => entry.1 ≠ t
    threads_nodup := r.threads_nodup.sublist (List.filter_sublist.map _)
    ids_nodup := r.ids_nodup.sublist (List.filter_sublist.map _)
    ids_lt := fun entry h => r.ids_lt entry (List.mem_filter.1 h).1 }

/-- Makes a mark, idle and attached, and enters it for the thread in place of any other. -/
def enter (r : Registry) (t : Thread) : Registry where
  marks := r.marks.push {}
  entries := (r.erase t).entries ++ [(t, r.marks.size)]
  threads_nodup := by
    rw [List.map_append, List.nodup_append]
    refine ⟨(r.erase t).threads_nodup, by simp, ?_⟩
    simp only [List.map_cons, List.map_nil, List.mem_singleton, List.mem_map]
    rintro _ ⟨entry, h, rfl⟩ _ rfl
    simpa using (List.mem_filter.1 h).2
  ids_nodup := by
    rw [List.map_append, List.nodup_append]
    refine ⟨(r.erase t).ids_nodup, by simp, ?_⟩
    simp only [List.map_cons, List.map_nil, List.mem_singleton, List.mem_map]
    rintro _ ⟨entry, h, rfl⟩ _ rfl
    exact Nat.ne_of_lt (r.ids_lt entry (List.mem_filter.1 h).1)
  ids_lt := by
    intro entry h
    rw [List.mem_append, List.mem_singleton] at h
    rw [Array.size_push]
    rcases h with h | rfl
    · exact Nat.lt_succ_of_lt (r.ids_lt entry (List.mem_filter.1 h).1)
    · exact Nat.lt_succ_self _

/-! ## Attaching and detaching -/

/-- Attaches a thread. To attach it twice is a fault, and the second mark has then replaced the first
one in the registry. -/
def register (t : Thread) : Action Registry MarkId := do
  let taken ← Action.view (·.isRegistered t)
  let id ← Action.view (·.marks.size)
  Action.update (·.enter t)
  if taken then Action.fault (.alreadyAttached t) else return id

/-- Detaches a thread whose mark is not pending. The entry goes first, also where the mark is pending
and the rest is a fault. -/
def unregister (t : Thread) : Action Registry Unit := do
  let id ← Action.inspect (·.get t)
  Action.update (·.erase t)
  let m ← Action.view (·.mark id)
  if m.pending.isSome then Action.fault (.undischarged t)
  else Action.update (·.setMark id { m with attached := false })

/-! ## Obligations -/

/-- Takes the obligation out of a mark, if there is one. The mark of a thread that has left cannot
be asked. -/
def takePending (id : MarkId) : Action Registry (Option Region) := do
  let m ← Action.view (·.mark id)
  if m.attached then
    Action.update (·.setMark id { m with pending := none })
    return m.pending
  else Action.fault .dischargingDetached

/-- Gives a mark its obligation. One that it still has is a fault, and stays. -/
def record (id : MarkId) (object : Region) : Action Registry Unit := do
  let m ← Action.view (·.mark id)
  match m.pending with
  | some owed => Action.fault (.stillOwing owed)
  | none => Action.update (·.setMark id { m with pending := some object })

/-! ## What the operations do to a mark -/

theorem mark_setMark {r : Registry} {id : MarkId} (h : id < r.marks.size) (m : DeferredMark) :
    (r.setMark id m).mark id = m := by
  simp [mark, setMark, h]

theorem mark_setMark_of_ne {r : Registry} {id other : MarkId} (h : other ≠ id) (m : DeferredMark) :
    (r.setMark id m).mark other = r.mark other := by
  simp [mark, setMark, Ne.symm h]

@[simp] theorem mark_erase (r : Registry) (t : Thread) (id : MarkId) :
    (r.erase t).mark id = r.mark id := rfl

@[simp] theorem mark_enter (r : Registry) (t : Thread) : (r.enter t).mark r.marks.size = {} := by
  simp [mark, enter]

theorem mark_enter_of_lt {r : Registry} {id : MarkId} (h : id < r.marks.size) (t : Thread) :
    (r.enter t).mark id = r.mark id := by
  simp [mark, enter, Array.getElem?_push, h, Nat.ne_of_lt h]

end Registry

end WriteBarrier
