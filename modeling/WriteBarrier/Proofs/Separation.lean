/-
Barrier sets keep out of each other's way, also where the same thread is
attached to several of them.

A thread's name leads to its mark through a registry, and the registry is that
of one set. Three things are needed for this to be enough. An operation on one
set is not an operation on another, so a set lives through a session as if it
were alone. The mutators of a set hold marks of that set, no two of them the
same, and an entry that leads to a mutator's mark is one of its own thread. And
an operation finds no mark but those that entries and mutators lead to: what
other marks there are, it neither changes nor gets hold of. A failed attach
breaks none of this, though it is just then that an entry is lost.
-/
import WriteBarrier.Proofs.CardSets
import WriteBarrier.Proofs.FailedAttach
import WriteBarrier.Proofs.Permanence

namespace WriteBarrier

open WriteBarrier.Action (Keeps)

/-! ## The marks of a barrier set -/

namespace BarrierSet

open Registry (Displaced)

variable {s : BarrierSet} {e : Event} {m : Mutator} {id : MarkId} {mutators : List Mutator}
  {options : Options} {covered : Region} {events : List Event}

/-- Does a way lead from the set to the mark, by an entry of its registry or by a mutator? -/
def Reaches (s : BarrierSet) (id : MarkId) : Prop :=
  (∃ entry ∈ s.registry.entries, entry.2 = id) ∨ ∃ m ∈ s.mutators, m.mark = id

theorem step_of_not_mem (he : e.mutator? = some m) (hm : m ∉ s.mutators) :
    (step e).run s = ⟨.ok .noMutator, s, []⟩ := by
  cases e <;> cases he <;> exact asMutator_of_not_mem hm _

theorem state_step_attach (s : BarrierSet) (t : Thread) :
    ((step (.attach t)).run s).state = s.enroll t ∨
      ((step (.attach t)).run s).state = { s with registry := s.registry.enter t } := by
  cases h : s.registry.isRegistered t with
  | false =>
    left
    simp [step, attach_ok h]
  | true =>
    right
    simp [step, attach_error h]

theorem mutators_step_sublist (he : ∀ t, e ≠ .attach t) (s : BarrierSet) :
    ((step e).run s).state.mutators.Sublist s.mutators := by
  have hparts : PartsKeep e fun s' => s'.mutators.Sublist s.mutators := {
    register := fun _ _ hs => hs
    unregister := fun _ _ hs => hs
    join := fun t ht => absurd ht (he t)
    leave := fun _ _ hs => List.erase_sublist.trans hs
    flush := fun _ _ _ hs => hs
    takeOn := fun _ _ _ => Keeps.bind (fun _ hs => hs) fun _ _ hs => hs
    flushAll := fun _ _ hs => hs
    perform := fun _ _ _ hs => hs
    table := fun _ _ _ hs => hs }
  exact hparts.step s (List.Sublist.refl _)

/-- A mutator that was not there before holds a mark that was not there. -/
theorem mem_mutators_step (hm : m ∈ ((step e).run s).state.mutators) :
    m ∈ s.mutators ∨ m.mark = s.registry.marks.size := by
  by_cases he : ∃ t, e = .attach t
  · rcases he with ⟨t, rfl⟩
    rcases state_step_attach s t with hstate | hstate <;> rw [hstate] at hm
    · rw [enroll, List.mem_append, List.mem_singleton] at hm
      rcases hm with hold | rfl
      · exact .inl hold
      · exact .inr rfl
    · exact .inl hm
  · exact .inl ((mutators_step_sublist (fun t ht => he ⟨t, ht⟩) s).subset hm)

/-- **What an event does not reach,** it does not change, and does not reach afterwards. -/
theorem unreached_step (hlt : id < s.registry.marks.size) (h : ¬ s.Reaches id) (e : Event) :
    id < ((step e).run s).state.registry.marks.size ∧
      ((step e).run s).state.registry.mark id = s.registry.mark id ∧
      ¬ ((step e).run s).state.Reaches id := by
  by_cases hnobody : ∃ m, e.mutator? = some m ∧ m ∉ s.mutators
  · rcases hnobody with ⟨m, he, hm⟩
    rw [step_of_not_mem he hm]
    exact ⟨hlt, rfl, h⟩
  have hnames : e.Names (· ≠ id) := by
    intro m he hmark
    have hm : m ∈ s.mutators := by
      by_contra hm
      exact hnobody ⟨m, he, hm⟩
    exact h (.inr ⟨m, hm, hmark⟩)
  -- To a registry the mark is one that nobody is entered with.
  have hdisplaced : Displaced s.registry id :=
    ⟨hlt, fun entry hentry heq => h (.inl ⟨entry, hentry, heq⟩)⟩
  have hstable : Registry.Stable (· ≠ id) fun r =>
      Displaced r id ∧ r.mark id = s.registry.mark id := by
    refine Displaced.stable (fun d => d = s.registry.mark id) (fun _ hj => hj) fun r j p hj hr => ?_
    rw [Registry.mark_setMark_of_ne hj.symm]
    exact hr
  obtain ⟨hdisplaced', hmark⟩ := hstable.kept.step hnames s ⟨hdisplaced, rfl⟩
  refine ⟨hdisplaced'.lt, hmark, ?_⟩
  rintro (⟨entry, hentry, heq⟩ | ⟨m, hm, heq⟩)
  · exact hdisplaced'.not_entered entry hentry heq
  · rcases mem_mutators_step hm with hold | hnew
    · exact h (.inr ⟨m, hold, heq⟩)
    · exact Nat.ne_of_lt hlt (heq.symm.trans hnew)

theorem unreached_run (hlt : id < s.registry.marks.size) (h : ¬ s.Reaches id) (events : List Event) :
    (s.run events).registry.mark id = s.registry.mark id ∧ ¬ (s.run events).Reaches id := by
  induction events generalizing s with
  | nil => exact ⟨rfl, h⟩
  | cons e rest ih =>
    obtain ⟨hlt', hmark, h'⟩ := unreached_step hlt h e
    rw [run_cons, ← hmark]
    exact ih hlt' h'

/-! ## Who holds which mark -/

end BarrierSet

/-- The mutators hold marks of the registry, and where an entry leads to one of them, it is under the
mutator's thread. -/
def Registry.HeldBy (r : Registry) (mutators : List Mutator) : Prop :=
  ∀ m ∈ mutators, m.mark < r.marks.size ∧
    ∀ entry ∈ r.entries, entry.2 = m.mark → entry.1 = m.thread

/-- Nothing that happens to a registry gives a mark that is held to another thread. -/
theorem Registry.kept_heldBy (mutators : List Mutator) :
    Kept (fun _ => True) fun r => r.HeldBy mutators where
  enter r t h m hm := by
    obtain ⟨hlt, hentries⟩ := h m hm
    refine ⟨by simpa using Nat.lt_succ_of_lt hlt, fun entry hentry heq => ?_⟩
    rcases mem_entries_enter.1 hentry with ⟨hold, -⟩ | rfl
    · exact hentries entry hold heq
    · exact absurd heq (Nat.ne_of_gt hlt)
  erase r t h m hm :=
    ⟨(h m hm).1, fun entry hentry => (h m hm).2 entry (mem_entries_erase.1 hentry).1⟩
  leave r t id h _ _ m hm := by
    have hlt : m.mark < (r.erase t).marks.size := (h m hm).1
    refine ⟨by simpa using hlt, fun entry hentry => ?_⟩
    exact (h m hm).2 entry (mem_entries_erase.1 hentry).1
  assign r id p h _ _ m hm := ⟨by simpa using (h m hm).1, (h m hm).2⟩

namespace BarrierSet

variable {s : BarrierSet} {options : Options} {covered : Region}

/-- **The mutators' marks are theirs:** marks of the set's own registry, no two mutators' the same, and
entered for no other thread. -/
structure Owned (s : BarrierSet) : Prop where
  held : s.registry.HeldBy s.mutators
  nodup : (s.mutators.map Mutator.mark).Nodup

theorem Owned.of_create (h : create options covered = .ok s) : Owned s := by
  obtain ⟨-, -, -, hmutators⟩ := create_eq_ok h
  constructor <;> simp [Registry.HeldBy, hmutators]

theorem Owned.enroll (h : Owned s) (t : Thread) : Owned (s.enroll t) := by
  have hkept := (Registry.kept_heldBy s.mutators).enter s.registry t h.held
  constructor
  · intro m hm
    rcases List.mem_append.1 hm with hold | hnew
    · exact hkept m hold
    · rw [List.mem_singleton.1 hnew]
      refine ⟨by simp [BarrierSet.enroll], fun entry hentry heq => ?_⟩
      rcases Registry.mem_entries_enter.1 hentry with ⟨hold, -⟩ | rfl
      · exact absurd heq (Nat.ne_of_lt (s.registry.ids_lt entry hold))
      · rfl
  · rw [BarrierSet.enroll, List.map_append, List.nodup_append]
    refine ⟨h.nodup, by simp, ?_⟩
    simp only [List.map_cons, List.map_nil, List.mem_singleton, List.mem_map]
    rintro _ ⟨m, hm, rfl⟩ _ rfl
    exact Nat.ne_of_lt (h.held m hm).1

theorem keeps_owned_step (e : Event) : Keeps Owned (step e) := by
  intro s h
  by_cases he : ∃ t, e = .attach t
  · rcases he with ⟨t, rfl⟩
    rcases state_step_attach s t with hstate | hstate <;> rw [hstate]
    · exact h.enroll t
    · exact ⟨(Registry.kept_heldBy s.mutators).enter s.registry t h.held, h.nodup⟩
  · have hsublist := mutators_step_sublist (fun t ht => he ⟨t, ht⟩) s
    have hkept := (Registry.kept_heldBy s.mutators).step (e := e) (fun _ _ => trivial) s h.held
    exact ⟨fun m hm => hkept m (hsublist.subset hm), h.nodup.sublist (hsublist.map _)⟩

/-- An operation on the marks of a set, with the set's own barrier. -/
def onOwnMarks {α : Type} (action : Barrier → Action (Registry × CardTable) α) :
    Action BarrierSet α := do
  let b ← Action.view barrier
  onMarks (action b)

end BarrierSet

/-! ## Sets of a session -/

namespace Session

open BarrierSet (Owned Reaches)

variable {α : Type} {P : BarrierSet → Prop} {S : Session} {i j k : Nat} {s : BarrierSet} {e : Event}
  {options : Options} {events later : List Event}

/-- Does the event have to do with set `j`? -/
def Event.Concerns (j : Nat) : Event → Prop
  | .on i _ => i = j
  | .register i _ => i = j
  | .unregister i _ => i = j
  | .discharge i _ k => i = j ∨ k = j
  | .flushAll i k => i = j ∨ k = j
  | _ => False

/-- **What has nothing to do with a set** keeps whatever is true of it, however it ends. -/
theorem keeps_at_step_of_not_concerns (he : ¬ e.Concerns j) : Keeps (At j P) (step e) := by
  cases e with
  | configure | setOption | setOptions | assignLogBytesInCard | init | build =>
    exact keeps_step_of_prepares (fun _ _ hS => hS) keeps_at_build trivial
  | on | register | unregister => exact keeps_replyWith (keeps_at_onSet? fun hi => absurd hi he)
  | discharge | flushAll =>
    exact keeps_replyWith (keeps_at_onMarks? (fun hi => absurd (.inl hi) he)
      fun hk => absurd (.inr hk) he)

/-! ### A set by itself -/

/-- The set that the event is one of, if it is one set, and what it does to it. -/
def Event.single? : Event → Option (Nat × Action BarrierSet Reply)
  | .on i e => some (i, .onSet <$> BarrierSet.step e)
  | .register i t => some (i, .registered <$> BarrierSet.onRegistry (Registry.register t))
  | .unregister i t => some (i, (fun _ => .done) <$> BarrierSet.onRegistry (Registry.unregister t))
  | .discharge i id k =>
    if k = i then
      some (i, (fun _ => .done) <$> BarrierSet.onOwnMarks fun b => Registry.discharge b id)
    else none
  | .flushAll i k =>
    if k = i then some (i, .discharged <$> BarrierSet.onOwnMarks fun b => Registry.flushAll b)
    else none
  | _ => none

/-- What the event does to set `j`, if it is one of that set alone. -/
def Event.own? (j : Nat) (e : Event) : Option (Action BarrierSet Reply) :=
  e.single?.bind fun (i, action) => if i = j then some action else none

/-- No marks are exchanged between set `j` and another set: none is discharged through a barrier that
is not its own set's. -/
def Event.KeepsApart (j : Nat) : Event → Prop
  | .discharge i _ k => i = j ↔ k = j
  | .flushAll i k => i = j ↔ k = j
  | _ => True

theorem run_replyWith_onSet? (h : S.sets[j]? = some s) (reply : α → Reply)
    (action : Action BarrierSet α) :
    ((replyWith reply (onSet? j action)).run S).answer = ((reply <$> action).run s).answer ∧
      ((replyWith reply (onSet? j action)).run S).state.sets[j]? =
        some ((reply <$> action).run s).state := by
  obtain ⟨hj, rfl⟩ := Array.getElem?_eq_some_iff.1 h
  cases hanswer : (action.run S.sets[j]).answer with
  | error f => simp [replyWith, onSet?, hj, hanswer, Except.map]
  | ok a => simp [replyWith, onSet?, hj, hanswer, Except.map]

theorem run_replyWith_onMarks? (h : S.sets[j]? = some s) (reply : α → Reply)
    (action : Barrier → Action (Registry × CardTable) α) :
    ((replyWith reply (onMarks? j j action)).run S).answer =
        ((reply <$> BarrierSet.onOwnMarks action).run s).answer ∧
      ((replyWith reply (onMarks? j j action)).run S).state.sets[j]? =
        some ((reply <$> BarrierSet.onOwnMarks action).run s).state := by
  cases hanswer : ((action s.barrier).run (s.registry, s.table)).answer with
  | error f =>
    simp [replyWith, Action.run_bind, onMarks?, BarrierSet.onOwnMarks, BarrierSet.onMarks, h, hanswer,
      Except.map, Array.getElem?_modify]
  | ok a =>
    simp [replyWith, Action.run_bind, onMarks?, BarrierSet.onOwnMarks, BarrierSet.onMarks, h, hanswer,
      Except.map, Array.getElem?_modify]

/-- An event of the set does to it, and answers, what it would if there were no other set. -/
theorem step_of_single (h : S.sets[i]? = some s) {action : Action BarrierSet Reply}
    (he : e.single? = some (i, action)) :
    ((step e).run S).answer = (action.run s).answer ∧
      ((step e).run S).state.sets[i]? = some (action.run s).state := by
  cases e with
  | on | register | unregister =>
    cases he
    exact run_replyWith_onSet? h _ _
  | discharge | flushAll =>
    rw [Event.single?, Option.ite_none_right_eq_some] at he
    rcases he with ⟨rfl, he⟩
    cases he
    exact run_replyWith_onMarks? h _ _
  | configure | setOption | setOptions | assignLogBytesInCard | init | build => cases he

theorem own?_eq_some_iff {action : Action BarrierSet Reply} :
    e.own? j = some action ↔ e.single? = some (j, action) := by
  unfold Event.own?
  cases e.single? with
  | none => simp
  | some single => simp [Prod.ext_iff]

theorem not_concerns_of_own?_eq_none (hapart : e.KeepsApart j) (he : e.own? j = none) :
    ¬ e.Concerns j := by
  cases e <;> simp [Event.own?, Event.single?, Event.Concerns, Event.KeepsApart] at hapart he ⊢ <;>
    omega

/-- What the events of set `j` alone answer in the course of a session. -/
def answersOf (j : Nat) : Session → List Event → List (Except Fault Reply)
  | _, [] => []
  | S, e :: rest =>
    let o := (step e).run S
    if (e.own? j).isSome then o.answer :: answersOf j o.state rest else answersOf j o.state rest

/-- **A set lives through a session as if it were alone:** what it comes to, and what its events answer,
is what its own events would make of it by themselves. -/
theorem alone_run (h : S.sets[j]? = some s) (hapart : ∀ e ∈ later, e.KeepsApart j) :
    (S.run later).sets[j]? = some (Action.after (later.filterMap (Event.own? j)) s) ∧
      answersOf j S later = Action.answers (later.filterMap (Event.own? j)) s := by
  induction later generalizing S s with
  | nil => exact ⟨h, rfl⟩
  | cons e rest ih =>
    have hrest : ∀ e' ∈ rest, e'.KeepsApart j := fun e' he' => hapart e' (List.mem_cons_of_mem _ he')
    have hrun : S.run (e :: rest) = ((step e).run S).state.run rest := rfl
    rw [hrun, answersOf]
    cases he : e.own? j with
    | none =>
      obtain ⟨_, hsame, rfl⟩ := keeps_at_step_of_not_concerns (P := (· = s))
        (not_concerns_of_own?_eq_none (hapart e List.mem_cons_self) he) S ⟨s, h, rfl⟩
      simpa [he] using ih hsame hrest
    | some action =>
      obtain ⟨hanswer, hstate⟩ := step_of_single h (own?_eq_some_iff.1 he)
      simpa [he, Action.after, Action.answers, hanswer] using ih hstate hrest

/-! ### All sets -/

/-- `P` holds of every set there is. -/
def Each (P : BarrierSet → Prop) (S : Session) : Prop := ∀ (i : Nat) s, S.sets[i]? = some s → P s

/-- Where no set is added, it is enough to look at those there were. -/
theorem keeps_each {action : Action Session α} (hat : ∀ i, Keeps (At i P) action)
    (hsize : ∀ S, (action.run S).state.sets.size = S.sets.size) : Keeps (Each P) action := by
  intro S hS i s' hset'
  have hlt : i < S.sets.size := by
    rw [← hsize S]
    exact (Array.getElem?_eq_some_iff.1 hset').1
  have hset : S.sets[i]? = some S.sets[i] := Array.getElem?_eq_getElem hlt
  obtain ⟨s, hsame, hs⟩ := hat i S ⟨_, hset, hS i _ hset⟩
  rw [hset'] at hsame
  cases hsame
  exact hs

theorem keeps_each_build (hcreate : ∀ options covered s, BarrierSet.create options covered = .ok s → P s)
    (covered : Region) : Keeps (Each P) (build covered) := by
  intro S hS
  rcases state_build S covered with hsame | ⟨new, hset, hpush⟩
  · rw [hsame]
    exact hS
  · rw [hpush]
    intro i s hs
    rw [Array.getElem?_push] at hs
    split at hs
    · cases hs
      exact hcreate _ _ _ hset
    · exact hS i s hs

theorem size_onSet? (i : Nat) (action : Action BarrierSet α) (S : Session) :
    ((onSet? i action).run S).state.sets.size = S.sets.size := by
  simp only [onSet?]
  split <;> simp

theorem size_onMarks? (i k : Nat) (action : Barrier → Action (Registry × CardTable) α) (S : Session) :
    ((onMarks? i k action).run S).state.sets.size = S.sets.size := by
  simp only [onMarks?]
  split <;> simp

/-- Every event keeps every mark with its mutator, in every set. -/
theorem keeps_owned_step (e : Event) : Keeps (Each Owned) (step e) := by
  have honSet : ∀ {α} i (action : Action BarrierSet α), Keeps Owned action →
      Keeps (Each Owned) (onSet? i action) := fun i action h =>
    keeps_each (fun _ => keeps_at_onSet? fun _ => h) (size_onSet? i action)
  have honRegistry : ∀ {α} {action : Action Registry α},
      (∀ mutators, Keeps (fun r => r.HeldBy mutators) action) →
      Keeps Owned (BarrierSet.onRegistry action) := fun h s hs =>
    ⟨h s.mutators s.registry hs.held, hs.nodup⟩
  have honMarks : ∀ {α} i k {action : Barrier → Action (Registry × CardTable) α},
      (∀ b mutators, Keeps (fun s => s.1.HeldBy mutators) (action b)) →
      Keeps (Each Owned) (onMarks? i k action) := fun i k action h =>
    keeps_each (fun _ => keeps_at_onMarks?
      (fun _ b s table hs => ⟨h b s.mutators (s.registry, table) hs.held, hs.nodup⟩)
      fun _ _ _ _ hs => ⟨hs.held, hs.nodup⟩) (size_onMarks? i k action)
  cases e with
  | configure | setOption | setOptions | assignLogBytesInCard | init | build =>
    exact keeps_step_of_prepares (fun _ _ hS => hS)
      (keeps_each_build fun _ _ _ => Owned.of_create) trivial
  | on i e => exact keeps_replyWith (honSet i _ (BarrierSet.keeps_owned_step e))
  | register i t =>
    exact keeps_replyWith (honSet i _ (honRegistry fun M => (Registry.kept_heldBy M).register t))
  | unregister i t =>
    exact keeps_replyWith (honSet i _ (honRegistry fun M => (Registry.kept_heldBy M).unregister t))
  | discharge i id k =>
    exact keeps_replyWith (honMarks i k fun b M => (Registry.kept_heldBy M).discharge trivial)
  | flushAll i k =>
    exact keeps_replyWith (honMarks i k fun b M => (Registry.kept_heldBy M).flushAll)

theorem owned_run (events : List Event) (hS : Each Owned S) : Each Owned (S.run events) := by
  induction events generalizing S with
  | nil => exact hS
  | cons e rest ih => exact ih (keeps_owned_step e S hS)

/-- **Barrier sets do not interfere.** Take a set of any session, whatever the session did, faults and
failed attaches included, and whoever is attached to how many sets. An event that has nothing to do
with the set leaves it as it is: table, registry, marks and mutators. In a run that discharges no marks
of one set through the barrier of another, the set comes to what its own events alone make of it, and
they answer what they would if it were alone. The mutators of the set hold marks of its own, no two
the same, and no entry leads another thread to one of them. And in any memory of marks, whosever they
are, the events of a set leave those alone that neither its entries nor its mutators lead to, and lead
to none of them afterwards. -/
theorem sets_do_not_interfere (hset : (run { options } events).sets[j]? = some s) :
    let S := run { options } events
    (∀ e, ¬ e.Concerns j → ((step e).run S).state.sets[j]? = some s) ∧
    (∀ later, (∀ e ∈ later, e.KeepsApart j) →
      (S.run later).sets[j]? = some (Action.after (later.filterMap (Event.own? j)) s) ∧
      answersOf j S later = Action.answers (later.filterMap (Event.own? j)) s) ∧
    Owned s ∧
    ∀ (t : BarrierSet) (id : MarkId), id < t.registry.marks.size → ¬ t.Reaches id →
      ∀ later, (t.run later).registry.mark id = t.registry.mark id ∧ ¬ (t.run later).Reaches id := by
  intro S
  refine ⟨fun e he => ?_, fun later => alone_run hset, ?_, fun t id => BarrierSet.unreached_run⟩
  · obtain ⟨_, hsame, rfl⟩ := keeps_at_step_of_not_concerns (P := (· = s)) he S ⟨s, hset, rfl⟩
    exact hsame
  · exact owned_run events (fun i s hs => by simp at hs) j s hset

/-- One thread is attached to two sets and owes an object in the second. It attaches to the first once
more, which fails, and leaves it at a safepoint: in the second set it still owes the object. -/
theorem sets_do_not_interfere_same_thread :
    let m : Mutator := ⟨⟨1⟩, 0⟩
    let o : Region := ⟨⟨0x1000⟩, ⟨0x1210⟩, by decide⟩
    let S := run { options := .default } [.build ⟨⟨0x1000⟩, ⟨0x1500⟩, by decide⟩,
      .build ⟨⟨0x1000⟩, ⟨0x1500⟩, by decide⟩, .on 0 (.attach ⟨1⟩), .on 1 (.attach ⟨1⟩),
      .on 1 (.fastAllocation m o)]
    let later : List Event := [.on 0 (.attach ⟨1⟩), .on 0 .safepoint, .on 0 (.detach m)]
    ∃ s, S.sets[1]? = some s ∧ s.pending m = some o ∧
      ((step (.on 0 (.attach ⟨1⟩))).run S).answer = .error (.alreadyAttached ⟨1⟩) ∧
      ((step (.on 0 (.attach ⟨1⟩))).run S).state.sets[1]? = some s ∧
      (S.run later).sets[1]? = some s ∧ Owned s := by
  intro m o S later
  have hset := Array.getElem?_eq_getElem (show 1 < S.sets.size by decide +kernel)
  obtain ⟨hframe, halone, howned, -⟩ := sets_do_not_interfere hset
  refine ⟨_, hset, by decide +kernel, ?_, hframe _ (by simp [Event.Concerns]), ?_, howned⟩
  · rfl
  · exact (halone later (by simp [later, Event.KeepsApart])).1

end Session

end WriteBarrier
