/-
What holds of a registry whatever happens, faults included: a property that
four kinds of changes keep is kept by every event of a barrier set and of a
session, however the event ends and whoever attaches.

Coherence is not of this kind, since it is lost when an attached thread
attaches. What outlives that is found one change of the registry at a time.
-/
import WriteBarrier.Proofs.Lifecycle
import WriteBarrier.Session.Event

namespace WriteBarrier

/-! ## Operations that keep a property -/

namespace Action

variable {σ α β : Type} {holds : σ → Prop}

/-- However the operation ends, what held before holds of the state it leaves. -/
def Keeps (holds : σ → Prop) (action : Action σ α) : Prop :=
  ∀ s, holds s → holds (action.run s).state

theorem Keeps.answer (a : α) : Keeps holds (pure a : Action σ α) := fun _ h => h

theorem Keeps.view (f : σ → α) : Keeps holds (view f) := fun _ h => h

theorem Keeps.report (n : Notice) : Keeps holds (report n : Action σ Unit) := fun _ h => h

theorem Keeps.update {f : σ → σ} (hf : ∀ s, holds s → holds (f s)) : Keeps holds (update f) := hf

theorem Keeps.bind {x : Action σ α} {f : α → Action σ β} (hx : Keeps holds x)
    (hf : ∀ a, Keeps holds (f a)) : Keeps holds (x >>= f) := by
  intro s h
  have hafter := hx s h
  rw [run_bind]
  rcases hrun : x.run s with ⟨a | a, s₁, log₁⟩ <;> rw [hrun] at hafter
  · exact hafter
  · exact hf a s₁ hafter

end Action

open WriteBarrier.Action (Keeps)

/-! ## Properties of a registry -/

namespace Registry

variable {σ α : Type} {holds : Registry → Prop} {ids : MarkId → Prop} {b : Barrier} {id : MarkId}
  {t : Thread}

/-- A property that the changes to a registry keep, as long as what is pending changes only on marks
of `ids` and on those entered. -/
structure Kept (ids : MarkId → Prop) (holds : Registry → Prop) : Prop where
  enter : ∀ r t, holds r → holds (r.enter t)
  erase : ∀ r t, holds r → holds (r.erase t)
  /-- A thread leaves whose mark is idle, and the mark is detached. -/
  leave : ∀ r t id, holds r → (t, id) ∈ r.entries → (r.mark id).pending = none →
    holds ((r.erase t).setMark id { r.mark id with attached := false })
  /-- Only on an attached mark does it change what is pending. -/
  assign : ∀ r id p, holds r → ids id ∨ (∃ t, (t, id) ∈ r.entries) →
    (r.mark id).attached = true → holds (r.setMark id { r.mark id with pending := p })

/-- A property that is kept whatever the marks are like, as long as what is pending changes on marks
of `ids` only; and the entries name no others. -/
structure Stable (ids : MarkId → Prop) (holds : Registry → Prop) : Prop where
  enter : ∀ r t, holds r → holds (r.enter t)
  erase : ∀ r t, holds r → holds (r.erase t)
  /-- A thread leaves, and its mark with it. -/
  leave : ∀ r t id, holds r → (t, id) ∈ r.entries →
    holds ((r.erase t).setMark id { r.mark id with attached := false })
  setPending : ∀ r id p, holds r → ids id → holds (r.setMark id { r.mark id with pending := p })
  entered : ∀ r, holds r → ∀ entry ∈ r.entries, ids entry.2

theorem Stable.kept (h : Stable ids holds) : Kept ids holds where
  enter := h.enter
  erase := h.erase
  leave r t id hr hentry _ := h.leave r t id hr hentry
  assign r id p hr hid _ := by
    refine h.setPending r id p hr ?_
    rcases hid with hid | ⟨t, hentry⟩
    · exact hid
    · exact h.entered r hr (t, id) hentry

theorem keeps_onRegistry {action : Action Registry α} (h : Keeps holds action) :
    Keeps (fun s : Registry × σ => holds s.1) (onRegistry action) := fun s hs => h s.1 hs

section Discharging

variable [Tracker σ] {P : Registry → Prop}

/-- A discharge changes what its mark owes, if anything, whether or not the tracker takes the
object. -/
theorem keeps_discharge (h : ∀ r, P r → (r.mark id).attached = true →
      P (r.setMark id (r.mark id).settled)) :
    Keeps (fun s : Registry × σ => P s.1) (discharge b id) := by
  intro s hs
  cases hattached : (s.1.mark id).attached with
  | false =>
    rw [discharge_detached hattached]
    exact hs
  | true =>
    rw [registry_discharge hattached]
    exact h s.1 hs hattached

theorem keeps_dischargeEach {marks : List MarkId}
    (h : ∀ id ∈ marks, ∀ r, P r → (r.mark id).attached = true →
      P (r.setMark id (r.mark id).settled)) :
    Keeps (fun s : Registry × σ => P s.1) (dischargeEach b marks) := by
  induction marks with
  | nil => exact Keeps.answer 0
  | cons id rest ih =>
    refine Keeps.bind (keeps_onRegistry (Keeps.view _)) fun m => ?_
    refine Keeps.bind (keeps_discharge (h id List.mem_cons_self)) fun _ => ?_
    refine Keeps.bind (ih fun j hj => h j (List.mem_cons_of_mem _ hj)) fun others => ?_
    exact Keeps.answer _

end Discharging

namespace Kept

theorem register (h : Kept ids holds) (t : Thread) : Keeps holds (register t) := by
  refine Keeps.bind (Keeps.view _) fun taken => Keeps.bind (Keeps.view _) fun id => ?_
  refine Keeps.bind (Keeps.update fun r hr => h.enter r t hr) fun _ => ?_
  cases taken with
  | false => exact Keeps.answer id
  | true => exact fun _ hr => hr

theorem unregister (h : Kept ids holds) (t : Thread) : Keeps holds (unregister t) := by
  intro r hr
  cases hget : r.get? t with
  | none =>
    rw [unregister_of_get?_eq_none hget]
    exact hr
  | some id =>
    have hentry : (t, id) ∈ r.entries := get?_eq_some_iff.1 hget
    cases hpending : (r.mark id).pending with
    | none =>
      rw [unregister_ok hentry hpending]
      exact h.leave r t id hr hentry hpending
    | some o =>
      rw [unregister_of_pending hentry hpending]
      exact h.erase r t hr

variable [Tracker σ]

theorem discharge (h : Kept ids holds) (hid : ids id) :
    Keeps (fun s : Registry × σ => holds s.1) (discharge b id) :=
  keeps_discharge fun r hr hattached => h.assign r id none hr (.inl hid) hattached

/-- Discharging all that are entered keeps it: it names no mark but those. -/
theorem flushAll (h : Kept ids holds) :
    Keeps (fun s : Registry × σ => holds s.1) (flushAll b) := by
  intro s hs
  -- The marks are read off the entries once, and no discharge changes the entries.
  have heach : Keeps (fun s' : Registry × σ => holds s'.1 ∧ s'.1.entries = s.1.entries)
      (Registry.dischargeEach b (s.1.entries.map Prod.snd)) := by
    refine keeps_dischargeEach (P := fun r => holds r ∧ r.entries = s.1.entries) ?_
    intro id hid r hr hattached
    obtain ⟨⟨t, _⟩, hentry, rfl⟩ := List.mem_map.1 hid
    rw [← hr.2] at hentry
    exact ⟨h.assign r _ none hr.1 (.inr ⟨t, hentry⟩) hattached, hr.2⟩
  exact (heach s ⟨hs, rfl⟩).1

end Kept

end Registry

/-! ## Properties of the registry of a barrier set -/

namespace BarrierSet

variable {α : Type} {holds : Registry → Prop} {m : Mutator} {P : BarrierSet → Prop}
  {s : BarrierSet}

/-- An event of a mutator is one of a mutator whose mark is in `ids`. -/
def Event.Names (ids : MarkId → Prop) (e : Event) : Prop :=
  ∀ m, e.mutator? = some m → ids m.mark

theorem keeps_onTable (action : Action CardTable α) :
    Keeps (fun s : BarrierSet => holds s.registry) (onTable action) := fun _ hs => hs

theorem keeps_onRegistry {action : Action Registry α} (h : Keeps holds action) :
    Keeps (fun s : BarrierSet => holds s.registry) (onRegistry action) :=
  fun s hs => h s.registry hs

theorem keeps_onMarks {action : Action (Registry × CardTable) α}
    (h : Keeps (fun s => holds s.1) action) :
    Keeps (fun s : BarrierSet => holds s.registry) (onMarks action) :=
  fun s hs => h (s.registry, s.table) hs

theorem keeps_finish {action : Action BarrierSet Unit} (h : Keeps P action) :
    Keeps P (finish action) :=
  h.bind fun _ => Keeps.answer _

theorem keeps_asMutator {action : Action BarrierSet Unit} (h : Keeps P action) :
    Keeps P (asMutator m action) := by
  refine Keeps.bind (Keeps.view _) fun live => ?_
  cases live with
  | false => exact Keeps.answer _
  | true => exact keeps_finish h

/-- Everything that the event is made of keeps `P`, however it ends. -/
structure PartsKeep (e : Event) (P : BarrierSet → Prop) : Prop where
  register : ∀ t, Keeps P (onRegistry (Registry.register t))
  unregister : ∀ t, Keeps P (onRegistry (Registry.unregister t))
  /-- A thread gets its mutator. -/
  join : ∀ t, e = .attach t → ∀ id s, P s → P { s with mutators := s.mutators ++ [⟨t, id⟩] }
  /-- A mutator is given back. -/
  leave : ∀ m s, P s → P { s with mutators := s.mutators.erase m }
  flush : ∀ m, e.mutator? = some m → Keeps P (flush m)
  /-- An object is recorded after the one before is discharged, and not without that. -/
  takeOn : ∀ m, e.mutator? = some m → ∀ o,
    Keeps P (BarrierSet.flush m >>= fun _ => onRegistry (Registry.record m.mark o))
  flushAll : ∀ b, Keeps P (onMarks (Registry.flushAll b))
  perform : ∀ (b : Barrier) c, Keeps P (onTable (b.perform c))
  table : ∀ te, e = .table te → Keeps P (onTable (CardTable.step te))

namespace PartsKeep

variable {e : Event}

theorem attach {t : Thread} (h : PartsKeep (.attach t) P) : Keeps P (attach t) := by
  refine Keeps.bind (h.register t) fun id => Keeps.bind (Keeps.report _) fun _ => ?_
  exact Keeps.bind (Keeps.update (h.join t rfl id)) fun _ => Keeps.answer _

theorem detach (h : PartsKeep e P) (hm : e.mutator? = some m) : Keeps P (detach m) := by
  refine Keeps.bind (Keeps.update (h.leave m)) fun _ => Keeps.bind (Keeps.report _) fun _ => ?_
  exact Keeps.bind (h.flush m hm) fun _ => h.unregister m.thread

theorem deferInitialMark (h : PartsKeep e P) (hm : e.mutator? = some m) (o : Region) :
    Keeps P (deferInitialMark m o) := by
  refine Keeps.bind (Keeps.view _) fun p => ?_
  cases p with
  | immediate => exact Keeps.answer ()
  | deferred => exact Keeps.bind (fun _ hs => hs) fun _ => h.takeOn m hm o

theorem prepareForSafepoint (h : PartsKeep e P) : Keeps P prepareForSafepoint := by
  refine Keeps.bind (Keeps.view _) fun b => Keeps.bind (h.flushAll b) fun n => ?_
  exact Keeps.bind (Keeps.view _) fun threads => Keeps.report _

/-- **What the parts keep, the event keeps.** -/
theorem step (h : PartsKeep e P) : Keeps P (step e) := by
  cases e with
  | attach t => exact h.attach.bind fun m => Keeps.answer _
  | detach m => exact keeps_asMutator (h.detach rfl)
  | flush m => exact keeps_asMutator (h.flush m rfl)
  | makeParsable m => exact keeps_asMutator (h.flush m rfl)
  | fastAllocation m o => exact keeps_asMutator (h.deferInitialMark rfl o)
  | slowAllocation m o => exact keeps_asMutator (h.deferInitialMark rfl o)
  | call c => exact keeps_finish (Keeps.bind (Keeps.view _) fun b => h.perform b c)
  | safepoint => exact keeps_finish h.prepareForSafepoint
  | table te => exact keeps_finish (h.table te rfl)

end PartsKeep

end BarrierSet

namespace Registry.Kept

open BarrierSet

variable {holds : Registry → Prop} {ids : MarkId → Prop} {s : BarrierSet} {m : Mutator} {e : Event}

theorem flush (h : Kept ids holds) (hm : ids m.mark) :
    Keeps (fun s : BarrierSet => holds s.registry) (flush m) := by
  refine Keeps.bind (Keeps.view _) fun b => ?_
  exact keeps_onMarks (h.discharge hm)

/-- The flush before it has to succeed, so an object is recorded in an attached mark only. -/
theorem flush_record (h : Kept ids holds) (hm : ids m.mark) (o : Region) :
    Keeps (fun s : BarrierSet => holds s.registry)
      (BarrierSet.flush m >>= fun _ => BarrierSet.onRegistry (record m.mark o)) := by
  intro s hs
  cases hattached : (s.registry.mark m.mark).attached with
  | false =>
    rw [Action.run_bind_error (flush_detached hattached)]
    exact hs
  | true =>
    have hafter := h.flush hm s hs
    have hmark := mark_flush (s := s) hattached
    rw [Action.run_bind]
    rcases hrun : (BarrierSet.flush m).run s with ⟨a | a, s₁, log₁⟩ <;> rw [hrun] at hafter hmark
    · exact hafter
    · have hidle : (s₁.registry.mark m.mark).pending = none := by
        rw [show s₁.registry.mark m.mark = _ from hmark]
        rfl
      have hstill : (s₁.registry.mark m.mark).attached = true := by
        rw [show s₁.registry.mark m.mark = _ from hmark]
        exact hattached
      show holds ((record m.mark o).run s₁.registry).state
      rw [record_ok hidle]
      exact h.assign s₁.registry m.mark (some o) hafter (.inl hm) hstill

/-- **What the changes to a registry keep, every event keeps,** however it ends. -/
theorem step (h : Kept ids holds) (he : e.Names ids) :
    Keeps (fun s : BarrierSet => holds s.registry) (step e) := by
  refine PartsKeep.step ?_
  exact {
    register := fun t => BarrierSet.keeps_onRegistry (h.register t)
    unregister := fun t => BarrierSet.keeps_onRegistry (h.unregister t)
    join := fun _ _ _ _ hs => hs
    leave := fun _ _ hs => hs
    flush := fun m hm => h.flush (he m hm)
    takeOn := fun m hm o => h.flush_record (he m hm) o
    flushAll := fun _ => keeps_onMarks h.flushAll
    perform := fun _ _ => keeps_onTable _
    table := fun _ _ => keeps_onTable _ }

end Registry.Kept

namespace Registry.Stable

open BarrierSet

variable {holds : Registry → Prop} {ids : MarkId → Prop} {s : BarrierSet}

/-- A run keeps it too, as its events do. -/
theorem run (h : Stable ids holds) (events : List Event) (hevents : ∀ e ∈ events, e.Names ids)
    (hs : holds s.registry) : holds (s.run events).registry := by
  induction events generalizing s with
  | nil => exact hs
  | cons e rest ih =>
    rw [run_cons]
    exact ih (fun e' he' => hevents e' (List.mem_cons_of_mem _ he'))
      (h.kept.step (hevents e List.mem_cons_self) s hs)

end Registry.Stable

/-! ## Properties of the registries of a session -/

namespace Session

open Registry (Kept)

variable {α : Type} {holds : Registry → Prop} {S : Session} {i j k : Nat}

/-- The registry of set `i`, which is empty until the set is built. -/
def registry (S : Session) (i : Nat) : Registry := (S.sets[i]?.map BarrierSet.registry).getD .empty

theorem registry_of_set {s : BarrierSet} (h : S.sets[i]? = some s) :
    S.registry i = s.registry := by
  simp [registry, h]

theorem build_ok {s : BarrierSet} {covered : Region}
    (h : BarrierSet.create S.options covered = .ok s) :
    (build covered).run S = ⟨.ok S.sets.size, { S with sets := S.sets.push s },
      [.barrierInstalled s.barrierText, .tableReady s.table.text]⟩ := by
  rw [build, Action.run_inspect_bind_ok
    (f := fun s : Session => BarrierSet.create s.options covered) h]
  rfl

theorem build_error {f : Fault} {covered : Region}
    (h : BarrierSet.create S.options covered = .error f) :
    (build covered).run S = ⟨.error f, S, []⟩ := by
  rw [build, Action.run_inspect_bind_error
    (f := fun s : Session => BarrierSet.create s.options covered) h]

theorem state_build (S : Session) (covered : Region) :
    ((build covered).run S).state = S ∨
      ∃ s, BarrierSet.create S.options covered = .ok s ∧
        ((build covered).run S).state = { S with sets := S.sets.push s } := by
  cases hset : BarrierSet.create S.options covered with
  | error f => exact .inl (by rw [build_error hset])
  | ok s => exact .inr ⟨s, rfl, by rw [build_ok hset]⟩

theorem keeps_build (covered : Region) :
    Keeps (fun S : Session => holds (S.registry i)) (build covered) := by
  intro S hS
  rcases state_build S covered with hsame | ⟨s, hset, hpush⟩
  · rw [hsame]
    exact hS
  · rw [hpush]
    -- The registry of the new set is as empty as before it was built.
    have hempty := (BarrierSet.create_eq_ok hset).2.2.1
    have hsame : Session.registry { S with sets := S.sets.push s } i = S.registry i := by
      rw [registry, registry, Array.getElem?_push]
      split
      · next hi => simp [hi, hempty]
      · rfl
    rw [hsame]
    exact hS

theorem keeps_onSet? {action : Action BarrierSet α}
    (h : Keeps (fun s => holds s.registry) action) :
    Keeps (fun S : Session => holds (S.registry i)) (onSet? j action) := by
  intro S hS
  simp only [onSet?]
  split
  · next hj =>
    by_cases hi : j = i
    · subst hi
      have hbefore : holds S.sets[j].registry := by simpa [registry, hj] using hS
      simpa [registry, hj] using h S.sets[j] hbefore
    · simpa [registry, Array.getElem?_set, hi] using hS
  · exact hS

/-- Where the marks of one set are discharged through the barrier of another, the registry of the one
changes and the table of the other. -/
theorem keeps_onMarks? {action : Barrier → Action (Registry × CardTable) α}
    (h : ∀ b, Keeps (fun s => holds s.1) (action b)) :
    Keeps (fun S : Session => holds (S.registry i)) (onMarks? j k action) := by
  intro S hS
  simp only [onMarks?]
  split
  · next source target hsource htarget =>
    by_cases hi : j = i
    · subst hi
      rw [registry_of_set hsource] at hS
      have hafter := h target.barrier (source.registry, target.table) hS
      by_cases hk : k = j <;> simpa [registry, Array.getElem?_modify, hsource, hk] using hafter
    · by_cases hk : k = i <;>
        simpa [registry, Array.getElem?_modify, hi, hk, Function.comp_def] using hS
  · exact hS

theorem keeps_replyWith {reply : α → Reply} {action : Action Session (Option α)}
    {P : Session → Prop} (h : Keeps P action) : Keeps P (replyWith reply action) :=
  h.bind fun _ => Keeps.answer _

/-- Is the event about options, or about a set that is not there yet? -/
def Event.Prepares : Event → Prop
  | .configure _ => True
  | .setOption _ _ => True
  | .setOptions _ => True
  | .assignLogBytesInCard _ => True
  | .init _ => True
  | .build _ => True
  | _ => False

theorem keeps_step_of_prepares {P : Session → Prop} {e : Event}
    (hoptions : ∀ S options, P S → P { S with options }) (hbuild : ∀ covered, Keeps P (build covered))
    (he : e.Prepares) : Keeps P (step e) := by
  have honOptions : ∀ {α} (action : Action Options α), Keeps P (onOptions action) :=
    fun _ S hS => hoptions S _ hS
  cases e with
  | configure env =>
    refine Keeps.bind (Keeps.bind (Keeps.update fun S hS => hoptions S _ hS) fun _ => ?_) fun _ =>
      Keeps.answer _
    exact honOptions _
  | setOption name value => exact (honOptions _).bind fun made => Keeps.answer _
  | setOptions text => exact (honOptions _).bind fun made => Keeps.answer _
  | assignLogBytesInCard log =>
    exact Keeps.bind (Keeps.update fun S hS => hoptions S _ hS) fun _ => Keeps.answer _
  | init covered =>
    refine Keeps.bind (Keeps.bind (Keeps.report _) fun _ => ?_) fun number => Keeps.answer _
    exact hbuild covered
  | build covered => exact (hbuild covered).bind fun number => Keeps.answer _
  | on | register | unregister | discharge | flushAll => exact he.elim

/-- What the changes to a registry keep, whatever marks they are on, every event of a session keeps of
the registry of every set. -/
theorem keeps_step (h : Kept (fun _ => True) holds) (e : Event) :
    Keeps (fun S : Session => holds (S.registry i)) (step e) := by
  cases e with
  | configure | setOption | setOptions | assignLogBytesInCard | init | build =>
    exact keeps_step_of_prepares (fun _ _ hS => hS) keeps_build trivial
  | on set e => exact keeps_replyWith (keeps_onSet? (h.step fun _ _ => trivial))
  | register set t => exact keeps_replyWith (keeps_onSet? (BarrierSet.keeps_onRegistry (h.register t)))
  | unregister set t =>
    exact keeps_replyWith (keeps_onSet? (BarrierSet.keeps_onRegistry (h.unregister t)))
  | discharge set id barrierOf =>
    exact keeps_replyWith (keeps_onMarks? fun b => h.discharge trivial)
  | flushAll set barrierOf => exact keeps_replyWith (keeps_onMarks? fun b => h.flushAll)

/-- So does every run. -/
theorem holds_run (h : Kept (fun _ => True) holds) (events : List Event)
    (hS : holds (S.registry i)) : holds ((S.run events).registry i) := by
  induction events generalizing S with
  | nil => exact hS
  | cons e rest ih => exact ih (keeps_step h e S hS)

end Session

end WriteBarrier
