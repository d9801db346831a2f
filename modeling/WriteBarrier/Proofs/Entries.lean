/-
The entries of a registry: who has one, and what entering and leaving do to
them. That a thread has at most one entry, and a mark too, is in the type;
what follows from it is said here once.
-/
import Mathlib.Data.List.Nodup
import WriteBarrier.Registry

namespace WriteBarrier.Registry

variable {r r' : Registry} {t u : Thread} {id : MarkId} {entry : Thread × MarkId}

/-! ## Reading -/

theorem lookup_eq_some_iff {entries : List (Thread × MarkId)}
    (hnodup : (entries.map Prod.fst).Nodup) :
    entries.lookup t = some id ↔ (t, id) ∈ entries := by
  induction entries with
  | nil => simp
  | cons entry rest ih =>
    obtain ⟨u, j⟩ := entry
    rw [List.map_cons, List.nodup_cons] at hnodup
    by_cases hu : t = u
    · subst hu
      have hnot : (t, id) ∉ rest := fun hmem => hnodup.1 (List.mem_map.2 ⟨(t, id), hmem, rfl⟩)
      simp [hnot, eq_comm]
    · have hne : (t == u) = false := by simpa using hu
      simp [List.lookup_cons, hne, hu, ih hnodup.2]

theorem get?_eq_some_iff : r.get? t = some id ↔ (t, id) ∈ r.entries :=
  lookup_eq_some_iff r.threads_nodup

theorem isRegistered_eq_true_iff : r.isRegistered t = true ↔ ∃ id, (t, id) ∈ r.entries := by
  rw [isRegistered, Option.isSome_iff_exists]
  simp only [get?_eq_some_iff]

theorem eq_of_mem_entries (h : (t, id) ∈ r.entries) (hmem : entry ∈ r.entries)
    (heq : entry.1 = t) : entry = (t, id) :=
  List.inj_on_of_nodup_map r.threads_nodup hmem h heq

theorem ne_of_mem_entries (h : (t, id) ∈ r.entries) (hmem : entry ∈ r.entries)
    (hne : entry.1 ≠ t) : entry.2 ≠ id := by
  intro heq
  have hsame : entry = (t, id) := List.inj_on_of_nodup_map r.ids_nodup hmem h heq
  exact hne (congrArg Prod.fst hsame)

/-! ## Equal registries -/

theorem marks_eq_of_mark_eq (hsize : r.marks.size = r'.marks.size)
    (hmark : ∀ id, r.mark id = r'.mark id) : r.marks = r'.marks := by
  refine Array.ext hsize fun id hid hid' => ?_
  simpa [mark, hid, hid'] using hmark id

/-- Registries of the same entries whose marks are the same, mark by mark, are the same. -/
theorem eq_of_mark_eq (hentries : r.entries = r'.entries) (hsize : r.marks.size = r'.marks.size)
    (hmark : ∀ id, r.mark id = r'.mark id) : r = r' := by
  have hmarks := marks_eq_of_mark_eq hsize hmark
  cases r
  cases r'
  cases hentries
  cases hmarks
  rfl

@[simp] theorem setMark_mark (r : Registry) (id : MarkId) : r.setMark id (r.mark id) = r := by
  have hmarks : r.marks.setIfInBounds id (r.mark id) = r.marks := by
    by_cases hlt : id < r.marks.size
    · simp [mark, Array.setIfInBounds, hlt]
    · exact Array.setIfInBounds_eq_of_size_le (Nat.le_of_not_lt hlt)
  simp only [setMark, hmarks]

/-! ## Leaving -/

theorem mem_entries_erase : entry ∈ (r.erase t).entries ↔ entry ∈ r.entries ∧ entry.1 ≠ t := by
  simp [erase]

theorem entries_erase_of_mem (h : (t, id) ∈ r.entries) :
    (r.erase t).entries = r.entries.erase (t, id) := by
  rw [(List.Nodup.of_map _ r.threads_nodup).erase_eq_filter]
  refine List.filter_congr fun entry hmem => ?_
  by_cases heq : entry = (t, id)
  · simp [heq]
  · have hne : entry.1 ≠ t := fun ht => heq (eq_of_mem_entries h hmem ht)
    simp [heq, hne]

theorem entries_erase_of_isRegistered_eq_false (h : r.isRegistered t = false) :
    (r.erase t).entries = r.entries := by
  refine List.filter_eq_self.2 fun entry hmem => ?_
  rw [decide_eq_true_iff]
  intro heq
  have htaken : r.isRegistered t = true := isRegistered_eq_true_iff.2 ⟨entry.2, heq ▸ hmem⟩
  rw [htaken] at h
  cases h

theorem get?_erase (r : Registry) (t u : Thread) :
    (r.erase t).get? u = if u = t then none else r.get? u := by
  refine Option.ext fun id => ?_
  by_cases hu : u = t <;> simp [get?_eq_some_iff, mem_entries_erase, hu]

theorem isRegistered_erase (r : Registry) (t : Thread) : (r.erase t).isRegistered t = false := by
  rw [Bool.eq_false_iff]
  intro htaken
  obtain ⟨id, hmem⟩ := isRegistered_eq_true_iff.1 htaken
  exact (mem_entries_erase.1 hmem).2 rfl

theorem unregister_of_get?_eq_none (h : r.get? t = none) :
    (unregister t).run r = ⟨.error (.notAttached t), r, []⟩ := by
  have hget : r.get t = .error (.notAttached t) := by rw [get, h]
  rw [unregister, Action.run_inspect_bind_error (f := fun r : Registry => r.get t) hget]

theorem unregister_of_pending {o : Region} (hentry : (t, id) ∈ r.entries)
    (hpending : (r.mark id).pending = some o) :
    (unregister t).run r = ⟨.error (.undischarged t), r.erase t, []⟩ := by
  have hget : r.get t = .ok id := by
    rw [get, get?_eq_some_iff.2 hentry]
  rw [unregister, Action.run_inspect_bind_ok (f := fun r : Registry => r.get t) hget]
  simp [Action.run_bind, hpending]

theorem unregister_ok (hentry : (t, id) ∈ r.entries) (hidle : (r.mark id).pending = none) :
    (unregister t).run r =
      ⟨.ok (), (r.erase t).setMark id { r.mark id with attached := false }, []⟩ := by
  have hget : r.get t = .ok id := by
    rw [get, get?_eq_some_iff.2 hentry]
  rw [unregister, Action.run_inspect_bind_ok (f := fun r : Registry => r.get t) hget]
  simp [Action.run_bind, hidle]

/-! ## Entering -/

@[simp] theorem size_marks_enter (r : Registry) (t : Thread) :
    (r.enter t).marks.size = r.marks.size + 1 := by
  simp [enter]

@[simp] theorem size_marks_setMark (r : Registry) (id : MarkId) (m : DeferredMark) :
    (r.setMark id m).marks.size = r.marks.size := by
  simp [setMark]

theorem mark_enter_of_ne (h : id ≠ r.marks.size) (t : Thread) :
    (r.enter t).mark id = r.mark id := by
  simp [mark, enter, Array.getElem?_push, h]

theorem mem_entries_enter :
    entry ∈ (r.enter t).entries ↔
      entry ∈ r.entries ∧ entry.1 ≠ t ∨ entry = (t, r.marks.size) := by
  rw [enter, List.mem_append, List.mem_singleton, mem_entries_erase]

theorem get?_enter_self (r : Registry) (t : Thread) : (r.enter t).get? t = some r.marks.size :=
  get?_eq_some_iff.2 (mem_entries_enter.2 (.inr rfl))

theorem get?_enter_of_ne (h : u ≠ t) : (r.enter t).get? u = r.get? u := by
  refine Option.ext fun id => ?_
  rw [get?_eq_some_iff, get?_eq_some_iff, mem_entries_enter]
  simp [h]

/-- A thread that is attached keeps one entry. -/
theorem size_enter (h : (t, id) ∈ r.entries) : (r.enter t).size = r.size := by
  have hpos : 0 < r.entries.length := List.length_pos_of_mem h
  rw [size, size, enter, List.length_append, entries_erase_of_mem h, List.length_erase_of_mem h,
    List.length_singleton]
  omega

theorem register_ok (h : r.isRegistered t = false) :
    (register t).run r = ⟨.ok r.marks.size, r.enter t, []⟩ := by
  simp [register, Action.run_bind, h, Except.map]

theorem register_error (h : r.isRegistered t = true) :
    (register t).run r = ⟨.error (.alreadyAttached t), r.enter t, []⟩ := by
  simp [register, Action.run_bind, h]

end WriteBarrier.Registry
