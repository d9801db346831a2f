/-
What becomes of a deferred mark when its thread leaves: nothing any more.

The registry asks that a mark be idle before it detaches it, and the mutator
that may still hold the mark cannot give it a new obligation, since it has to
discharge the old one first and a detached mark cannot be discharged. So a
detached mark owes nothing, and stays as it is for ever. All of this is about
the registry alone: it does not matter whether the card table has room for
what is marked, nor who attaches, nor in which order a safepoint goes through
the marks, since a run may also discharge them one by one.
-/
import WriteBarrier.Proofs.FailedAttach

namespace WriteBarrier

/-! ## Detached marks -/

namespace Registry

variable {r : Registry} {t : Thread} {id : MarkId}

/-- No mark is detached while it owes an object, nor owes one when it is detached. -/
theorem kept_idle :
    Kept (fun _ => True) fun r =>
      ∀ id, (r.mark id).attached = false → (r.mark id).pending = none where
  enter r t h id := by
    by_cases hnew : id = r.marks.size
    · simp [hnew]
    · rw [mark_enter_of_ne hnew]
      exact h id
  erase r t h := h
  leave r t j h hentry hidle id := by
    by_cases hj : id = j
    · subst hj
      have hlt : id < (r.erase t).marks.size := r.ids_lt _ hentry
      rw [mark_setMark hlt]
      exact fun _ => hidle
    · rw [mark_setMark_of_ne hj, mark_erase]
      exact h id
  assign r j p h _ hattached id := by
    by_cases hj : id = j
    · -- A mark that is assigned to is attached, and stays so.
      subst hj
      rw [attached_setPending, hattached]
      simp
    · rw [mark_setMark_of_ne hj]
      exact h id

/-- The mark exists, and its thread has left. -/
structure Detached (r : Registry) (id : MarkId) : Prop where
  lt : id < r.marks.size
  not_attached : (r.mark id).attached = false

/-- Nothing attaches a mark again: marks are attached only when they are made. -/
theorem kept_detached (id : MarkId) : Kept (fun _ => True) fun r => Detached r id where
  enter r t h := by
    refine ⟨by simpa using Nat.lt_succ_of_lt h.lt, ?_⟩
    rw [mark_enter_of_lt h.lt]
    exact h.not_attached
  erase r t h := ⟨h.lt, h.not_attached⟩
  leave r t j h _ _ := by
    have hlt : id < (r.erase t).marks.size := h.lt
    refine ⟨by simpa using hlt, ?_⟩
    by_cases hj : id = j
    · subst hj
      rw [mark_setMark hlt]
    · rw [mark_setMark_of_ne hj, mark_erase]
      exact h.not_attached
  assign r j p h _ _ := by
    refine ⟨by simpa using h.lt, ?_⟩
    rw [attached_setPending]
    exact h.not_attached

theorem isRegistered_unregister (r : Registry) (t : Thread) :
    ((unregister t).run r).state.isRegistered t = false := by
  cases hget : r.get? t with
  | none =>
    rw [unregister_of_get?_eq_none hget, isRegistered, hget]
    rfl
  | some id =>
    have hentry := get?_eq_some_iff.1 hget
    cases hpending : (r.mark id).pending with
    | none =>
      rw [unregister_ok hentry hpending]
      exact isRegistered_erase r t
    | some o =>
      rw [unregister_of_pending hentry hpending]
      exact isRegistered_erase r t

end Registry

/-! ## A barrier set with a detached mark -/

namespace BarrierSet

variable {s : BarrierSet} {m : Mutator} {t : Thread} {o : Region} {id : MarkId}

/-- The mark of a thread that has left: idle, entered for nobody, and refused to everybody. -/
structure Retired (s : BarrierSet) (id : MarkId) : Prop where
  lt : id < s.registry.marks.size
  mark_eq : s.registry.mark id = { pending := none, attached := false }
  not_entered : ∀ t, s.registry.get? t ≠ some id
  /-- Whatever the barrier, and whatever keeps its marks, a discharge fails and changes nothing. -/
  discharge : ∀ (σ : Type) [Tracker σ] (b : Barrier) (tracker : σ),
    (Registry.discharge b id).run (s.registry, tracker) =
      ⟨.error .dischargingDetached, (s.registry, tracker), []⟩
  /-- So do the discharges of a mutator that still holds the mark. -/
  flush : ∀ m : Mutator, m.mark = id →
    (flush m).run s = ⟨.error .dischargingDetached, s, []⟩ ∧
      (makeParsable m).run s = ⟨.error .dischargingDetached, s, []⟩
  /-- And so does every allocation that it would have to remember. -/
  allocation : s.policy = .deferred → ∀ (m : Mutator) (o : Region), m.mark = id →
    let f : Fault := if s.table.covered.containsRegion o = true then .dischargingDetached
      else .regionNotCovered o s.table.covered
    (recordFastPathAllocation m o).run s = ⟨.error f, s, []⟩ ∧
      (onSlowPathAllocation m o).run s = ⟨.error f, s, []⟩

/-- Attaching succeeds, with a mark that is none of those made before, attached and idle. -/
def AttachesAnew (s : BarrierSet) (t : Thread) : Prop :=
  ∃ m s', (attach t).run s = ⟨.ok m, s', [.attached t]⟩ ∧ m.thread = t ∧
    s'.registry.get? t = some m.mark ∧
    s'.registry.mark m.mark = { pending := none, attached := true } ∧
    ∀ id < s.registry.marks.size, id ≠ m.mark ∧ s'.registry.mark id = s.registry.mark id

theorem deferInitialMark_detached (hp : s.policy = .deferred)
    (h : (s.registry.mark m.mark).attached = false) :
    (deferInitialMark m o).run s =
      ⟨.error (if s.table.covered.containsRegion o = true then .dischargingDetached
        else .regionNotCovered o s.table.covered), s, []⟩ := by
  by_cases ho : s.table.covered.containsRegion o = true
  · simp [deferInitialMark, Action.run_bind, hp, onTable, CardLayout.checkRegion_eq_ok ho, ho,
      flush_detached h]
  · rw [deferInitialMark_error hp ho, if_neg ho]

theorem Retired.of_detached (hlt : id < s.registry.marks.size)
    (hdetached : (s.registry.mark id).attached = false)
    (hidle : (s.registry.mark id).pending = none)
    (hentered : ∀ entry ∈ s.registry.entries, (s.registry.mark entry.2).attached = true) :
    Retired s id where
  lt := hlt
  mark_eq := by rw [← hdetached, ← hidle]
  not_entered t hget := by
    have hattached := hentered _ (Registry.get?_eq_some_iff.1 hget)
    rw [hdetached] at hattached
    cases hattached
  discharge _ _ _ _ := Registry.discharge_detached hdetached
  flush m hm := by
    subst hm
    exact ⟨flush_detached hdetached, flush_detached hdetached⟩
  allocation hp m o hm := by
    subst hm
    exact ⟨deferInitialMark_detached hp hdetached, deferInitialMark_detached hp hdetached⟩

theorem attachesAnew (h : s.registry.isRegistered t = false) : AttachesAnew s t := by
  refine ⟨_, _, attach_ok h, rfl, Registry.get?_enter_self _ _, Registry.mark_enter _ _,
    fun id hlt => ⟨Nat.ne_of_lt hlt, Registry.mark_enter_of_lt hlt _⟩⟩

theorem isRegistered_detach (h : ((detach m).run s).answer = .ok ()) :
    ((detach m).run s).state.registry.isRegistered m.thread = false := by
  unfold detach at h ⊢
  simp only [Action.run_bind, Action.run_update, Action.run_report, List.nil_append] at h ⊢
  rcases hflush : (flush m).run { s with mutators := s.mutators.erase m } with ⟨f | _, s₁, log₁⟩
  · simp [hflush] at h
  · simpa [onRegistry] using Registry.isRegistered_unregister s₁.registry m.thread

end BarrierSet

/-! ## Sessions -/

namespace Session

open BarrierSet (Retired AttachesAnew attachesAnew)
open Registry (Detached)

variable {options : Options} {events : List Event} {i : Nat} {s : BarrierSet} {id : MarkId}

@[simp] theorem registry_start (options : Options) (i : Nat) :
    Session.registry { options } i = .empty := by
  simp [registry]

theorem run_append (S : Session) (events later : List Event) :
    S.run (events ++ later) = (S.run events).run later := List.foldl_append

/-- In whatever way a session has come to it, a mark that is detached owes nothing. -/
theorem idle_of_detached (hset : (run { options } events).sets[i]? = some s) :
    ∀ id, (s.registry.mark id).attached = false → (s.registry.mark id).pending = none := by
  have hidle := holds_run (i := i) Registry.kept_idle events
    (S := { options }) (by simp [Registry.empty, Registry.mark])
  rwa [registry_of_set hset] at hidle

theorem entered_attached (hset : (run { options } events).sets[i]? = some s) :
    ∀ entry ∈ s.registry.entries, (s.registry.mark entry.2).attached = true := by
  have hentered := holds_run (i := i) Registry.stable_entered_attached.kept events
    (S := { options }) (by simp [Registry.empty])
  rwa [registry_of_set hset] at hentered

theorem retired_of_detached (hset : (run { options } events).sets[i]? = some s)
    (h : Detached s.registry id) : Retired s id :=
  .of_detached h.lt h.not_attached (idle_of_detached hset id h.not_attached)
    (entered_attached hset)

/-- A set does not go away, and what is detached in it is detached for ever. -/
theorem detached_run {S : Session} (hset : S.sets[i]? = some s) (h : Detached s.registry id)
    (later : List Event) :
    ∃ s', (S.run later).sets[i]? = some s' ∧ Detached s'.registry id := by
  rw [← registry_of_set hset] at h
  have hlater := holds_run (Registry.kept_detached id) later h
  cases hset' : (S.run later).sets[i]? with
  | none =>
    have hlt := hlater.lt
    simp [registry, hset', Registry.empty] at hlt
  | some s' =>
    rw [registry_of_set hset'] at hlater
    exact ⟨s', rfl, hlater⟩

/-- **No obligation is left in a detached mark.** In every session, whatever it did, faults included,
a mark that is detached is retired in the state it is met in and in every later one: it owes nothing,
stays detached, and its discharge fails and changes nothing, whoever asks for it. A thread that has
left, in either way there is to leave, can attach again, and gets a mark that is another one than all
before. -/
theorem detached_marks_stay_retired (hset : (run { options } events).sets[i]? = some s) :
    (∀ id < s.registry.marks.size, (s.registry.mark id).attached = false →
      Retired s id ∧
      ∀ later, ∃ s', ((run { options } events).run later).sets[i]? = some s' ∧ Retired s' id) ∧
    (∀ t, AttachesAnew ((BarrierSet.onRegistry (Registry.unregister t)).run s).state t) ∧
    (∀ m, ((BarrierSet.detach m).run s).answer = .ok () →
      AttachesAnew ((BarrierSet.detach m).run s).state m.thread) ∧
    ∀ t, s.registry.isRegistered t = false → AttachesAnew s t := by
  refine ⟨fun id hlt hdetached => ?_, fun t => ?_, fun m hm => ?_, fun t => attachesAnew⟩
  · have h : Detached s.registry id := ⟨hlt, hdetached⟩
    refine ⟨retired_of_detached hset h, fun later => ?_⟩
    obtain ⟨s', hset', h'⟩ := detached_run hset h later
    refine ⟨s', hset', ?_⟩
    rw [← run_append] at hset'
    exact retired_of_detached hset' h'
  · exact attachesAnew (Registry.isRegistered_unregister s.registry t)
  · exact attachesAnew (BarrierSet.isRegistered_detach hm)

/-- A thread is taken out of the registry while its mutator lives: the object of the mutator's next
allocation is covered, but the mutator cannot owe it. Discharged in time, it left with nothing owed,
and the thread can attach again. -/
theorem detached_marks_stay_retired_live_mutator :
    let m : Mutator := ⟨⟨1⟩, 0⟩
    let o : Region := ⟨⟨0x1000⟩, ⟨0x1210⟩, by decide⟩
    ∃ s, (run { options := .default } [.build ⟨⟨0x1000⟩, ⟨0x1500⟩, by decide⟩, .on 0 (.attach ⟨1⟩),
          .on 0 (.fastAllocation m o), .on 0 .safepoint, .unregister 0 ⟨1⟩]).sets[0]? = some s ∧
      m ∈ s.mutators ∧ s.registry.isRegistered ⟨1⟩ = false ∧
      (0 < s.registry.marks.size ∧ (s.registry.mark 0).attached = false) ∧
      (BarrierSet.recordFastPathAllocation m o).run s = ⟨.error .dischargingDetached, s, []⟩ ∧
      AttachesAnew s ⟨1⟩ := by
  intro m o
  have hset := Array.getElem?_eq_getElem (show 0 < (run { options := .default }
      [.build ⟨⟨0x1000⟩, ⟨0x1500⟩, by decide⟩, .on 0 (.attach ⟨1⟩), .on 0 (.fastAllocation m o),
        .on 0 .safepoint, .unregister 0 ⟨1⟩]).sets.size by decide +kernel)
  obtain ⟨hretired, -, -, hattach⟩ := detached_marks_stay_retired hset
  refine ⟨_, hset, by decide +kernel, by decide +kernel, by decide +kernel, ?_,
    hattach ⟨1⟩ (by decide +kernel)⟩
  have hmark := (hretired 0 (by decide +kernel) (by decide +kernel)).1
  have hfails := (hmark.allocation (by decide +kernel) m o rfl).1
  rwa [if_pos (by decide +kernel)] at hfails

end Session

end WriteBarrier
