/-
Marks are for good: what is dirty stays dirty until the collector cleans it.

Nothing here asks whether an operation succeeds. All that marking ever does to a
table is to store one kind of card into a range, as far as there are cards, and
a property that this keeps is kept by every operation that leads down to it: a
range that runs off the end of a wrapped table, a discharge through another
set's barrier that is refused halfway, an attach that fails. Cleaning is the
one other thing that is stored, and only the collector's events do it.
-/
import WriteBarrier.Proofs.Stability

namespace WriteBarrier

open WriteBarrier.Action (Keeps)

theorem Action.Keeps.inspect {σ α : Type} {holds : σ → Prop} (f : σ → Except Fault α) :
    Keeps holds (Action.inspect f) := fun _ h => h

/-! ## Properties of a card table -/

namespace CardTable

variable {holds : CardTable → Prop} {clearing : Prop} {c : Card} {t t' : CardTable} {e : Event}
  {b : Barrier}

/-- Does the event clean cards? Only the collector's do. -/
def Event.Clears : Event → Prop
  | .clearRange _ => True
  | .clearCard _ => True
  | .clearAll => True
  | .markDirty _ => False
  | .markDirtyRange _ => False

/-- A property of tables that storing dirty cards keeps, and storing clean ones too if there is to be
`clearing`. -/
structure Kept (clearing : Prop) (holds : CardTable → Prop) : Prop where
  dirty : ∀ t first last, holds t → holds (t.fill .dirty first last)
  clean : clearing → ∀ t first last, holds t → holds (t.fill .clean first last)
  clearAll : clearing → ∀ t, holds t → holds (clearAll.run t).state

/-- Wherever the store into a region stops, all it has done is to fill a range. -/
theorem keeps_storeRegion (h : ∀ t first last, holds t → holds (t.fill c first last)) (r : Region) :
    Keeps holds (storeRegion c r) := by
  refine Keeps.bind (Keeps.inspect _) fun _ => ?_
  split
  · exact Keeps.answer ()
  · refine Keeps.bind (Keeps.inspect _) fun range => ?_
    exact Keeps.bind (Keeps.update fun t ht => h t range.1 range.2 ht) fun _ => Keeps.inspect _

namespace Kept

theorem markDirty (h : Kept clearing holds) (index : Nat) : Keeps holds (markDirty index) :=
  Keeps.bind (Keeps.inspect _) fun _ => Keeps.update fun t ht => h.dirty t index index ht

theorem markDirtyRange (h : Kept clearing holds) (r : Region) : Keeps holds (markDirtyRange r) :=
  keeps_storeRegion h.dirty r

theorem step (h : Kept clearing holds) (he : e.Clears → clearing) : Keeps holds (step e) := by
  cases e with
  | markDirty index => exact h.markDirty index
  | markDirtyRange r => exact h.markDirtyRange r
  | clearRange r => exact keeps_storeRegion (h.clean (he trivial)) r
  | clearCard index =>
    exact Keeps.bind (Keeps.inspect _) fun r => keeps_storeRegion (h.clean (he trivial)) r
  | clearAll => exact h.clearAll (he trivial)

theorem perform (h : Kept clearing holds) (b : Barrier) (call : Barrier.Call) :
    Keeps holds (b.perform call) := by
  have hregion : ∀ r, Keeps holds (b.invalidate r) := by
    intro r
    cases b with
    | noBarrier => exact Keeps.answer ()
    | cardTable d => exact h.markDirtyRange r
  rw [Barrier.perform_eq]
  cases call.target with
  | field w =>
    cases b with
    | noBarrier => exact Keeps.answer ()
    | cardTable d => exact Keeps.bind (Keeps.inspect _) fun index => h.markDirty index
  | elements r => exact hregion r
  | region r => exact hregion r

theorem discharge (h : Kept clearing holds) (id : MarkId) :
    Keeps (fun s : Registry × CardTable => holds s.2) (Registry.discharge b id) := by
  refine Keeps.bind (fun _ hs => hs) fun pending => ?_
  cases pending with
  | none => exact Keeps.answer ()
  | some o =>
    refine Keeps.bind (Keeps.report _) fun _ => ?_
    exact fun s hs => h.perform b (.writeRegion o) s.2 hs

theorem dischargeEach (h : Kept clearing holds) (ids : List MarkId) :
    Keeps (fun s : Registry × CardTable => holds s.2) (Registry.dischargeEach b ids) := by
  induction ids with
  | nil => exact Keeps.answer 0
  | cons id rest ih =>
    refine Keeps.bind (fun _ hs => hs) fun m => ?_
    exact Keeps.bind (h.discharge id) fun _ => Keeps.bind ih fun others => Keeps.answer _

theorem flushAll (h : Kept clearing holds) :
    Keeps (fun s : Registry × CardTable => holds s.2) (Registry.flushAll b) :=
  Keeps.bind (fun _ hs => hs) fun _ => h.dischargeEach _

end Kept

/-- `t'` came of `t` without cleaning: of the same layout, and dirty where `t` was. -/
structure Grown (t t' : CardTable) : Prop where
  layout : t'.toCardLayout = t.toCardLayout
  hasDirty : ∀ i, t.hasDirty i = true → t'.hasDirty i = true

/-- Dirtying any range only adds to what is dirty. -/
theorem kept_grown (t : CardTable) : Kept False (Grown t) where
  dirty u first last h := by
    refine ⟨h.layout, fun i hi => ?_⟩
    rw [hasDirty_fill]
    split
    · rfl
    · exact h.hasDirty i hi
  clean := False.elim
  clearAll := False.elim

/-- Not even the collector changes how a table is laid out, nor when it is scanned. -/
theorem kept_layout (l : CardLayout) (concurrent : Bool) :
    Kept True fun t => t.toCardLayout = l ∧ t.scannedConcurrently = concurrent where
  dirty _ _ _ h := h
  clean _ _ _ _ h := h
  clearAll _ _ h := h

end CardTable

/-! ## Properties of the table of a barrier set -/

namespace BarrierSet

open CardTable (Kept)

variable {α : Type} {holds : CardTable → Prop} {clearing : Prop} {m : Mutator} {e : Event}
  {s : BarrierSet} {events : List Event}

def Event.Clears : Event → Prop
  | .table e => e.Clears
  | _ => False

theorem keeps_table_onMarks {action : Action (Registry × CardTable) α}
    (h : Keeps (fun s => holds s.2) action) :
    Keeps (fun s : BarrierSet => holds s.table) (onMarks action) :=
  fun s hs => h (s.registry, s.table) hs

theorem keeps_table_onRegistry (action : Action Registry α) :
    Keeps (fun s : BarrierSet => holds s.table) (onRegistry action) := fun _ hs => hs

theorem keeps_table_flush (h : Kept clearing holds) (m : Mutator) :
    Keeps (fun s : BarrierSet => holds s.table) (flush m) :=
  Keeps.bind (Keeps.view _) fun _ => keeps_table_onMarks (h.discharge m.mark)

theorem keeps_table_step (h : Kept clearing holds) (he : e.Clears → clearing) :
    Keeps (fun s : BarrierSet => holds s.table) (step e) := by
  refine PartsKeep.step ?_
  exact {
    register := fun _ => keeps_table_onRegistry _
    unregister := fun _ => keeps_table_onRegistry _
    join := fun _ _ _ _ hs => hs
    leave := fun _ _ hs => hs
    flush := fun m _ => keeps_table_flush h m
    takeOn := fun m _ o => (keeps_table_flush h m).bind fun _ => keeps_table_onRegistry _
    flushAll := fun _ => keeps_table_onMarks h.flushAll
    perform := fun b c s hs => h.perform b c s.table hs
    table := fun te hte s hs => h.step (fun hclears => he (hte ▸ hclears)) s.table hs }

theorem keeps_table_run (h : Kept clearing holds) (hevents : ∀ e ∈ events, e.Clears → clearing)
    (hs : holds s.table) : holds (s.run events).table := by
  induction events generalizing s with
  | nil => exact hs
  | cons e rest ih =>
    refine ih (fun e' he' => hevents e' (List.mem_cons_of_mem _ he')) ?_
    exact keeps_table_step h (hevents e List.mem_cons_self) s hs

end BarrierSet

/-! ## Properties of a barrier set of a session -/

namespace Session

open CardTable (Kept Grown)

variable {α : Type} {P : BarrierSet → Prop} {holds : CardTable → Prop} {clearing : Prop}
  {S : Session} {i j k : Nat} {s : BarrierSet} {e : Event} {events : List Event}

/-- There is a set of number `i`, and `P` holds of it. -/
def At (i : Nat) (P : BarrierSet → Prop) (S : Session) : Prop := ∃ s, S.sets[i]? = some s ∧ P s

theorem keeps_at_build (covered : Region) : Keeps (At i P) (build covered) := by
  rintro S ⟨s, hset, hs⟩
  rcases state_build S covered with hsame | ⟨new, -, hpush⟩
  · rw [hsame]
    exact ⟨s, hset, hs⟩
  · have hlt : i < S.sets.size := (Array.getElem?_eq_some_iff.1 hset).1
    rw [hpush]
    refine ⟨s, ?_, hs⟩
    rw [Array.getElem?_push, if_neg (Nat.ne_of_lt hlt), hset]

theorem keeps_at_onSet? {action : Action BarrierSet α} (h : j = i → Keeps P action) :
    Keeps (At i P) (onSet? j action) := by
  rintro S ⟨s, hset, hs⟩
  simp only [onSet?]
  split
  · next hj =>
    by_cases hi : j = i
    · subst hi
      obtain ⟨hlt, rfl⟩ := Array.getElem?_eq_some_iff.1 hset
      exact ⟨(action.run S.sets[j]).state, by simp [hj], h rfl _ hs⟩
    · exact ⟨s, by simp [hi, hset], hs⟩
  · exact ⟨s, hset, hs⟩

/-- Where the marks of one set go through the barrier of another, the one changes in its registry and
the other in its table; if they are one set, it changes in both. -/
theorem keeps_at_onMarks? {action : Barrier → Action (Registry × CardTable) α}
    (hsource : j = i → ∀ b s table, P s →
      P { s with registry := ((action b).run (s.registry, table)).state.1 })
    (htarget : k = i → ∀ b s registry, P s →
      P { s with table := ((action b).run (registry, s.table)).state.2 }) :
    Keeps (At i P) (onMarks? j k action) := by
  rintro S ⟨s, hset, hs⟩
  simp only [onMarks?]
  split
  · next source target hj hk =>
    by_cases hji : j = i
    · subst hji
      rw [hset] at hj
      cases hj
      have hafter := hsource rfl target.barrier s target.table hs
      by_cases hkj : k = j
      · subst hkj
        rw [hset] at hk
        cases hk
        refine ⟨_, ?_, htarget rfl s.barrier _ s.registry hafter⟩
        simp [Array.getElem?_modify, hset]
      · refine ⟨_, ?_, hafter⟩
        simp [Array.getElem?_modify, hset, hkj]
    · by_cases hki : k = i
      · subst hki
        rw [hset] at hk
        cases hk
        refine ⟨_, ?_, htarget rfl s.barrier s source.registry hs⟩
        simp [Array.getElem?_modify, hset, hji]
      · exact ⟨s, by simp [Array.getElem?_modify, hset, hji, hki], hs⟩
  · exact ⟨s, hset, hs⟩

/-- Does the event clean cards? -/
def Event.Clears : Event → Prop
  | .on _ e => e.Clears
  | _ => False

theorem keeps_table_step (h : Kept clearing holds) (he : e.Clears → clearing) :
    Keeps (At i fun s => holds s.table) (step e) := by
  cases e with
  | configure | setOption | setOptions | assignLogBytesInCard | init | build =>
    exact keeps_step_of_prepares (fun _ _ hS => hS) keeps_at_build trivial
  | on set e =>
    exact keeps_replyWith (keeps_at_onSet? fun _ => BarrierSet.keeps_table_step h he)
  | register set t =>
    exact keeps_replyWith (keeps_at_onSet? fun _ => BarrierSet.keeps_table_onRegistry _)
  | unregister set t =>
    exact keeps_replyWith (keeps_at_onSet? fun _ => BarrierSet.keeps_table_onRegistry _)
  | discharge set id barrierOf =>
    refine keeps_replyWith (keeps_at_onMarks? (fun _ _ _ _ hs => hs) fun _ b s registry hs => ?_)
    exact h.discharge id (registry, s.table) hs
  | flushAll set barrierOf =>
    refine keeps_replyWith (keeps_at_onMarks? (fun _ _ _ _ hs => hs) fun _ b s registry hs => ?_)
    exact h.flushAll (registry, s.table) hs

theorem at_run (h : Kept clearing holds) (hevents : ∀ e ∈ events, e.Clears → clearing)
    (hS : At i (fun s => holds s.table) S) : At i (fun s => holds s.table) (S.run events) := by
  induction events generalizing S with
  | nil => exact hS
  | cons e rest ih =>
    refine ih (fun e' he' => hevents e' (List.mem_cons_of_mem _ he')) ?_
    exact keeps_table_step h (hevents e List.mem_cons_self) S hS

/-- **A mark is for good, unless the collector cleans it.** Take any session in any state, and any run
on from there, whatever ends in a fault on the way. A set that is there stays, and its table keeps its
layout and its number of cards. If no event of the run cleans cards, all that was dirty in the table
before the run is dirty after it. -/
theorem marks_are_permanent (hset : S.sets[i]? = some s) (events : List Event) :
    ∃ s', (S.run events).sets[i]? = some s' ∧
      s'.table.toCardLayout = s.table.toCardLayout ∧ s'.table.cards.size = s.table.cards.size ∧
      ((∀ e ∈ events, ¬ e.Clears) →
        ∀ card, s.table.hasDirty card = true → s'.table.hasDirty card = true) := by
  have hkept : At i _ (S.run events) :=
    at_run (CardTable.kept_layout s.table.toCardLayout s.table.scannedConcurrently)
      (fun _ _ _ => trivial) ⟨s, hset, rfl, rfl⟩
  obtain ⟨s', hset', hlayout, -⟩ := hkept
  refine ⟨s', hset', hlayout, ?_, fun hspared card hdirty => ?_⟩
  · rw [s'.table.size_cards, s.table.size_cards, hlayout]
  · obtain ⟨s'', hset'', hgrown⟩ :=
      at_run (CardTable.kept_grown s.table) hspared ⟨s, hset, rfl, fun _ => id⟩
    rw [hset'] at hset''
    cases hset''
    exact hgrown.hasDirty card hdirty

/-- A card is dirty when its thread attaches once more, a store misses the heap, and a mark is
discharged through the barrier of a set that covers less: it is dirty after all these faults. -/
theorem marks_are_permanent_over_faults :
    let m : Mutator := ⟨⟨1⟩, 0⟩
    let o : Region := ⟨⟨0x1000⟩, ⟨0x1210⟩, by decide⟩
    let S := run { options := .default } [.build ⟨⟨0x1000⟩, ⟨0x1500⟩, by decide⟩,
      .build ⟨⟨0x1000⟩, ⟨0x1200⟩, by decide⟩, .on 0 (.attach ⟨1⟩), .on 0 (.fastAllocation m o),
      .on 0 .safepoint, .on 0 (.fastAllocation m o)]
    let later : List Event := [.on 0 (.attach ⟨1⟩), .on 0 (.call (.invalidate ⟨⟨0⟩, ⟨8⟩, by decide⟩)),
      .discharge 0 0 1]
    (∀ e ∈ later, ¬ e.Clears) ∧
      ∃ s s', S.sets[0]? = some s ∧ s.table.hasDirty 1 = true ∧ (S.run later).sets[0]? = some s' ∧
        s'.table.hasDirty 1 = true := by
  intro m o S later
  have hset := Array.getElem?_eq_getElem (show 0 < S.sets.size by decide +kernel)
  have hspared : ∀ e ∈ later, ¬ e.Clears := by
    simp [later, Event.Clears, BarrierSet.Event.Clears]
  have hdirty : S.sets[0].table.hasDirty 1 = true := by decide +kernel
  obtain ⟨s', hset', -, -, hkept⟩ := marks_are_permanent hset later
  exact ⟨hspared, _, s', hset, hdirty, hset', hkept hspared 1 hdirty⟩

end Session

end WriteBarrier
