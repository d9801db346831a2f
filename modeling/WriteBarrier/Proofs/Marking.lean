/-
What the operations of a card table do to its dirty cards, and what a call to
a barrier does to the table it marks.

Most of it is for layouts whose rounding does not wrap (`CardLayout.Fits`).
There the only faults are the range checks, made before the first store: an
operation either changes nothing or does all it says. Where the rounding wraps
there are no cards to change, and a region that is not empty is a fault whether
or not it passes the check; so which regions a barrier can mark is known of
every table (`Barrier.CanMark`).
-/
import WriteBarrier.CardTable.Event
import WriteBarrier.Barrier.Call
import WriteBarrier.Proofs.Cards

namespace WriteBarrier

namespace CardTable

variable {t t' t'' : CardTable} {c : Card} {r : Region} {i : Nat}

/-! ## Reading -/

theorem cards_eq_of_hasDirty (hsize : t.numCards = t'.numCards)
    (h : ∀ i, t.hasDirty i = true ↔ t'.hasDirty i = true) : t.cards = t'.cards := by
  have hsize' : t.cards.size = t'.cards.size := by rw [t.size_cards, t'.size_cards, hsize]
  refine Array.ext hsize' fun i hi hi' => ?_
  have hiff := h i
  simp only [hasDirty, beq_iff_eq, Array.getElem?_eq_getElem hi, Array.getElem?_eq_getElem hi',
    Option.some.injEq] at hiff
  cases hc : t.cards[i] <;> cases hc' : t'.cards[i] <;> simp_all

theorem eq_of_hasDirty (hlayout : t.toCardLayout = t'.toCardLayout)
    (hconcurrent : t.scannedConcurrently = t'.scannedConcurrently)
    (h : ∀ i, t.hasDirty i = true ↔ t'.hasDirty i = true) : t = t' := by
  have hcards : t.cards = t'.cards := cards_eq_of_hasDirty (by rw [hlayout]) h
  cases t
  cases t'
  cases hlayout
  cases hconcurrent
  cases hcards
  rfl

theorem create_eq_ok {covered : Region} {log : Nat} {concurrent : Bool}
    (h : create covered log concurrent = .ok t) :
    CardLayout.ofCovered covered log = .ok t.toCardLayout ∧ ∀ i, t.hasDirty i = false := by
  unfold create at h
  cases hl : CardLayout.ofCovered covered log with
  | error f =>
    rw [hl] at h
    cases h
  | ok layout =>
    rw [hl] at h
    cases h
    refine ⟨rfl, fun i => ?_⟩
    simp only [hasDirty, Array.getElem?_replicate]
    split <;> rfl

theorem scannedConcurrently_of_create {covered : Region} {log : Nat} {concurrent : Bool}
    (h : create covered log concurrent = .ok t) : t.scannedConcurrently = concurrent := by
  unfold create at h
  cases hl : CardLayout.ofCovered covered log with
  | error f =>
    rw [hl] at h
    cases h
  | ok layout =>
    rw [hl] at h
    cases h
    rfl

/-! ## Storing -/

/-- The table after `c` is stored into the cards that a region touches. -/
def paint (c : Card) (r : Region) (t : CardTable) : CardTable :=
  if r.isEmpty then t else t.fill c (t.card r.start.toNat) (t.card (r.stop.toNat - 1))

@[simp] theorem toCardLayout_paint (c : Card) (r : Region) (t : CardTable) :
    (t.paint c r).toCardLayout = t.toCardLayout := by
  unfold paint
  split <;> rfl

/-- A painted table differs from the one before in the cards that the region touches, which then hold
what was stored. -/
theorem hasDirty_paint (hfits : t.Fits) (hin : t.covered.containsRegion r = true) :
    (t.paint c r).hasDirty i = true ↔
      t.hasDirty i = true ∧ ¬ t.Touches i r ∨ c = .dirty ∧ t.Touches i r := by
  by_cases hempty : r.isEmpty = true
  · have hno : ¬ t.Touches i r := CardLayout.not_touches_of_isEmpty hempty
    rw [paint, if_pos hempty]
    simp [hno]
  · have hne : r.isEmpty = false := by simpa using hempty
    have hiff : t.Touches i r ↔ t.card r.start.toNat ≤ i ∧ i ≤ t.card (r.stop.toNat - 1) :=
      CardLayout.touches_iff hne (Region.containsRegion_iff.1 hin).1
    have hlast := hfits.lastCard_lt hne hin
    rw [← t.size_cards] at hlast
    rw [paint, if_neg hempty, hasDirty_fill, hiff]
    by_cases hi : t.card r.start.toNat ≤ i ∧ i ≤ t.card (r.stop.toNat - 1)
    · rw [if_pos ⟨hi.1, hi.2, by omega⟩]
      simp [hi]
    · rw [if_neg fun h => hi ⟨h.1, h.2.1⟩]
      simp [hi]

theorem storeRegion_eq_ok (hfits : t.Fits) (hin : t.covered.containsRegion r = true) :
    (storeRegion c r).run t = ⟨.ok (), t.paint c r, []⟩ := by
  rw [storeRegion, Action.run_inspect_bind_ok (f := fun t : CardTable => t.checkRegion r)
    (CardLayout.checkRegion_eq_ok hin)]
  by_cases hempty : r.isEmpty = true
  · simp [hempty, paint]
  · have hne : r.isEmpty = false := by simpa using hempty
    have hlast := hfits.lastCard_lt hne hin
    rw [← t.size_cards] at hlast
    simp [hne, paint, Action.run_bind, storeRange, CardLayout.cardRange_eq_ok hne hin, fill,
      size_fillFrom, hlast]

theorem storeRegion_eq_error (h : ¬ t.covered.containsRegion r = true) :
    (storeRegion c r).run t = ⟨.error (.regionNotCovered r t.covered), t, []⟩ := by
  rw [storeRegion, Action.run_inspect_bind_error (f := fun t : CardTable => t.checkRegion r)
    (CardLayout.checkRegion_eq_error h)]

theorem fill_of_no_cards (h : t.numCards = 0) (first last : Nat) : t.fill c first last = t := by
  have hsize : t.cards.size = 0 := by rw [t.size_cards, h]
  have hcount : min (last + 1) t.cards.size - first = 0 := by omega
  simp only [fill, hcount, fillFrom]

theorem storeRegion_of_isEmpty (hempty : r.isEmpty = true)
    (hin : t.covered.containsRegion r = true) : (storeRegion c r).run t = ⟨.ok (), t, []⟩ := by
  rw [storeRegion, Action.run_inspect_bind_ok (f := fun t : CardTable => t.checkRegion r)
    (CardLayout.checkRegion_eq_ok hin)]
  simp [hempty]

/-- **In a table whose rounding wraps, a region that passes the check runs off the end** at its first
card. -/
theorem storeRegion_of_not_fits (hwraps : ¬ t.Fits) (hne : r.isEmpty = false)
    (hin : t.covered.containsRegion r = true) :
    (storeRegion c r).run t = ⟨.error (.storeOutOfBounds 0 (t.card r.start.toNat)), t, []⟩ := by
  have hnone := CardLayout.numCards_eq_zero hwraps
  have hsize : t.cards.size = 0 := by rw [t.size_cards, hnone]
  rw [storeRegion, Action.run_inspect_bind_ok (f := fun t : CardTable => t.checkRegion r)
    (CardLayout.checkRegion_eq_ok hin)]
  simp [hne, Action.run_bind, storeRange, CardLayout.cardRange_eq_ok hne hin,
    fill_of_no_cards hnone, hsize]

theorem markDirty_eq_ok (h : i < t.numCards) :
    (markDirty i).run t = ⟨.ok (), t.fill .dirty i i, []⟩ := by
  rw [markDirty, Action.run_inspect_bind_ok (f := fun t : CardTable => t.checkIndex i) (if_pos h)]
  rfl

theorem markDirty_eq_error (h : ¬ i < t.numCards) :
    (markDirty i).run t = ⟨.error (.noCard i t.numCards), t, []⟩ := by
  rw [markDirty, Action.run_inspect_bind_error (f := fun t : CardTable => t.checkIndex i) (if_neg h)]

/-- `t'` is `t` with more cards dirty: those of `marks`. -/
structure Marked (marks : Nat → Prop) (t t' : CardTable) : Prop where
  layout : t'.toCardLayout = t.toCardLayout
  hasDirty_iff : ∀ i, t'.hasDirty i = true ↔ t.hasDirty i = true ∨ marks i

theorem Marked.refl {marks : Nat → Prop} (h : ∀ i, ¬ marks i) : Marked marks t t :=
  ⟨rfl, fun i => by simp [h i]⟩

theorem Marked.trans {marks marks' : Nat → Prop} (h : Marked marks t t')
    (h' : Marked marks' t' t'') : Marked (fun i => marks i ∨ marks' i) t t'' := by
  refine ⟨h'.layout.trans h.layout, fun i => ?_⟩
  rw [h'.hasDirty_iff, h.hasDirty_iff, or_assoc]

theorem Marked.congr {marks marks' : Nat → Prop} (h : Marked marks t t')
    (hiff : ∀ i, marks i ↔ marks' i) : Marked marks' t t' :=
  ⟨h.layout, fun i => by rw [h.hasDirty_iff, hiff]⟩

theorem Marked.fits {marks : Nat → Prop} (h : Marked marks t t') (hfits : t.Fits) : t'.Fits := by
  rw [h.layout]
  exact hfits

theorem marked_paint (hfits : t.Fits) (hin : t.covered.containsRegion r = true) :
    Marked (fun i => t.Touches i r) t (t.paint .dirty r) := by
  refine ⟨toCardLayout_paint .dirty r t, fun i => ?_⟩
  rw [hasDirty_paint hfits hin]
  by_cases h : t.Touches i r <;> simp [h]

theorem marked_fill (h : i < t.numCards) : Marked (fun j => i = j) t (t.fill .dirty i i) := by
  rw [← t.size_cards] at h
  refine ⟨rfl, fun j => ?_⟩
  rw [hasDirty_fill]
  by_cases hj : i = j
  · subst hj
    simp [h]
  · rw [if_neg (by omega)]
    simp [hj]

/-! ## Events -/

/-- The cards that an event dirties where it succeeds. -/
def Event.Marks (l : CardLayout) : Event → Nat → Prop
  | .markDirty index, i => index = i
  | .markDirtyRange r, i => l.Touches i r
  | _, _ => False

/-- The cards that an event cleans where it succeeds. -/
def Event.Cleans (l : CardLayout) : Event → Nat → Prop
  | .clearRange r, i => l.Touches i r
  | .clearCard index, i => ∃ r, l.cardRegion index = .ok r ∧ l.Touches i r
  | .clearAll, _ => True
  | _, _ => False

theorem hasDirty_clearAll (t : CardTable) (i : Nat) :
    (clearAll.run t).state.hasDirty i = false := by
  simp only [clearAll, Action.run_update, hasDirty, Array.getElem?_replicate]
  split <;> rfl

theorem storeRegion_clean_cases (hfits : t.Fits) (r : Region) :
    (∃ f, (storeRegion .clean r).run t = ⟨.error f, t, []⟩) ∨
      ∃ t', (storeRegion .clean r).run t = ⟨.ok (), t', []⟩ ∧
        t'.toCardLayout = t.toCardLayout ∧
        ∀ i, t'.hasDirty i = true ↔ t.hasDirty i = true ∧ ¬ t.Touches i r := by
  by_cases hin : t.covered.containsRegion r = true
  · refine .inr ⟨t.paint .clean r, storeRegion_eq_ok hfits hin, toCardLayout_paint _ _ _, ?_⟩
    intro i
    rw [hasDirty_paint hfits hin]
    simp
  · exact .inl ⟨_, storeRegion_eq_error hin⟩

/-- **An event of a table** is a fault that changes nothing, or it cleans its cards, dirties its cards,
and keeps all others. -/
theorem step_cases (hfits : t.Fits) (e : Event) :
    (∃ f, (step e).run t = ⟨.error f, t, []⟩) ∨
      ∃ t', (step e).run t = ⟨.ok (), t', []⟩ ∧ t'.toCardLayout = t.toCardLayout ∧
        ∀ i, t'.hasDirty i = true ↔
          t.hasDirty i = true ∧ ¬ e.Cleans t.toCardLayout i ∨ e.Marks t.toCardLayout i := by
  cases e with
  | markDirty index =>
    by_cases hlt : index < t.numCards
    · have hmarked := marked_fill hlt
      refine .inr ⟨t.fill .dirty index index, markDirty_eq_ok hlt, hmarked.layout, fun i => ?_⟩
      rw [hmarked.hasDirty_iff]
      simp [Event.Cleans, Event.Marks]
    · exact .inl ⟨_, markDirty_eq_error hlt⟩
  | markDirtyRange r =>
    by_cases hin : t.covered.containsRegion r = true
    · have hmarked := marked_paint hfits hin
      refine .inr ⟨t.paint .dirty r, storeRegion_eq_ok hfits hin, hmarked.layout, fun i => ?_⟩
      rw [hmarked.hasDirty_iff]
      simp [Event.Cleans, Event.Marks]
    · exact .inl ⟨_, storeRegion_eq_error hin⟩
  | clearRange r =>
    obtain hfault | ⟨t', hrun, hlayout, hdirty⟩ := storeRegion_clean_cases hfits r
    · exact .inl hfault
    · exact .inr ⟨t', hrun, hlayout, fun i => by simp [hdirty, Event.Cleans, Event.Marks]⟩
  | clearCard index =>
    cases hregion : t.cardRegion index with
    | error f =>
      refine .inl ⟨f, ?_⟩
      show (clearCard index).run t = _
      rw [clearCard, Action.run_inspect_bind_error (f := fun t : CardTable => t.cardRegion index) hregion]
    | ok r =>
      have hclear : (clearCard index).run t = (storeRegion .clean r).run t := by
        rw [clearCard, Action.run_inspect_bind_ok (f := fun t : CardTable => t.cardRegion index) hregion]
        rfl
      obtain ⟨f, hfault⟩ | ⟨t', hrun, hlayout, hdirty⟩ := storeRegion_clean_cases hfits r
      · exact .inl ⟨f, hclear.trans hfault⟩
      · refine .inr ⟨t', hclear.trans hrun, hlayout, fun i => ?_⟩
        simp [hdirty, Event.Cleans, Event.Marks, hregion]
  | clearAll =>
    refine .inr ⟨(clearAll.run t).state, rfl, rfl, fun i => ?_⟩
    rw [hasDirty_clearAll]
    simp [Event.Cleans, Event.Marks]

end CardTable

/-! ## Calls to a barrier -/

namespace Barrier

open CardTable

variable {b : Barrier} {c : Call} {t : CardTable}

/-- Does the barrier take a store there? The barrier that marks no cards takes any. -/
def Admits (b : Barrier) (l : CardLayout) (target : WriteTarget) : Prop :=
  match b, target with
  | noBarrier, _ => True
  | cardTable _, .field w => l.covered.contains w.object = true
  | cardTable _, .elements r => l.covered.containsRegion r = true
  | cardTable _, .region r => l.covered.containsRegion r = true

instance (b : Barrier) (l : CardLayout) (target : WriteTarget) : Decidable (b.Admits l target) :=
  match b, target with
  | noBarrier, _ => isTrue trivial
  | cardTable _, .field w => inferInstanceAs (Decidable (l.covered.contains w.object = true))
  | cardTable _, .elements r => inferInstanceAs (Decidable (l.covered.containsRegion r = true))
  | cardTable _, .region r => inferInstanceAs (Decidable (l.covered.containsRegion r = true))

/-- Is card `i` one that a store there dirties? A field stands for the start of its object. -/
def Dirties (b : Barrier) (l : CardLayout) (target : WriteTarget) (i : Nat) : Prop :=
  match b, target with
  | noBarrier, _ => False
  | cardTable _, .field w => l.OnCard i w.object.toNat
  | cardTable _, .elements r => l.Touches i r
  | cardTable _, .region r => l.Touches i r

/-- The fault of a store that the barrier does not take. -/
def refusal (l : CardLayout) : WriteTarget → Fault
  | .field w => .addressNotCovered w.object l.covered
  | .elements r => .regionNotCovered r l.covered
  | .region r => .regionNotCovered r l.covered

theorem invalidate_ok {r : Region} (hfits : t.Fits) (h : b.Admits t.toCardLayout (.region r)) :
    ∃ t', (b.invalidate r).run t = ⟨.ok (), t', []⟩ ∧
      Marked (b.Dirties t.toCardLayout (.region r)) t t' := by
  cases b with
  | noBarrier => exact ⟨t, rfl, Marked.refl fun _ => id⟩
  | cardTable d => exact ⟨t.paint .dirty r, storeRegion_eq_ok hfits h, marked_paint hfits h⟩

/-- Can the barrier mark the region? The card-marking barrier needs it covered, and room in the table
for its cards. -/
def CanMark (b : Barrier) (l : CardLayout) (r : Region) : Prop :=
  match b with
  | noBarrier => True
  | cardTable _ => l.covered.containsRegion r = true ∧ (l.Fits ∨ r.isEmpty = true)

theorem Admits.canMark {l : CardLayout} {r : Region} (h : b.Admits l (.region r)) (hfits : l.Fits) :
    b.CanMark l r := by
  cases b with
  | noBarrier => trivial
  | cardTable d => exact ⟨h, .inl hfits⟩

theorem invalidate_of_canMark {r : Region} (h : b.CanMark t.toCardLayout r) :
    ∃ t', (b.invalidate r).run t = ⟨.ok (), t', []⟩ ∧
      Marked (b.Dirties t.toCardLayout (.region r)) t t' := by
  cases b with
  | noBarrier => exact ⟨t, rfl, Marked.refl fun _ => id⟩
  | cardTable d =>
    obtain ⟨hin, hfits | hempty⟩ := h
    · exact invalidate_ok hfits hin
    · exact ⟨t, storeRegion_of_isEmpty hempty hin,
        Marked.refl fun _ => CardLayout.not_touches_of_isEmpty hempty⟩

theorem invalidate_of_not_canMark {r : Region} (h : ¬ b.CanMark t.toCardLayout r) :
    ∃ f, (b.invalidate r).run t = ⟨.error f, t, []⟩ := by
  cases b with
  | noBarrier => exact absurd trivial h
  | cardTable d =>
    by_cases hin : t.covered.containsRegion r = true
    · have hwraps : ¬ t.Fits := fun hfits => h ⟨hin, .inl hfits⟩
      have hne : r.isEmpty = false := by
        rw [Bool.eq_false_iff]
        exact fun hempty => h ⟨hin, .inr hempty⟩
      exact ⟨_, storeRegion_of_not_fits hwraps hne hin⟩
    · exact ⟨_, storeRegion_eq_error hin⟩

/-- The faults of marking a region, in any table: it is not covered, or the table has no cards. -/
theorem invalidate_fault {r : Region} {f : Fault} (h : ((b.invalidate r).run t).answer = .error f) :
    f = .regionNotCovered r t.covered ∨ f = .storeOutOfBounds 0 (t.card r.start.toNat) := by
  cases b with
  | noBarrier => cases h
  | cardTable d =>
    change ((storeRegion .dirty r).run t).answer = .error f at h
    by_cases hin : t.covered.containsRegion r = true
    · by_cases hfits : t.Fits
      · rw [storeRegion_eq_ok hfits hin] at h
        cases h
      · cases hempty : r.isEmpty with
        | true =>
          rw [storeRegion_of_isEmpty hempty hin] at h
          cases h
        | false =>
          rw [storeRegion_of_not_fits hfits hempty hin] at h
          cases h
          exact .inr rfl
    · rw [storeRegion_eq_error hin] at h
      cases h
      exact .inl rfl

theorem canMark_iff {r : Region} :
    b.CanMark t.toCardLayout r ↔ ((b.invalidate r).run t).answer = .ok () := by
  refine ⟨fun h => ?_, fun h => ?_⟩
  · obtain ⟨t', hrun, -⟩ := invalidate_of_canMark h
    rw [hrun]
  · by_contra hcannot
    obtain ⟨f, hrun⟩ := invalidate_of_not_canMark hcannot
    rw [hrun] at h
    cases h

theorem fieldWrite_ok {w : FieldWrite} (hfits : t.Fits) (h : b.Admits t.toCardLayout (.field w)) :
    ∃ t', (b.fieldWrite w).run t = ⟨.ok (), t', []⟩ ∧
      Marked (b.Dirties t.toCardLayout (.field w)) t t' := by
  cases b with
  | noBarrier => exact ⟨t, rfl, Marked.refl fun _ => id⟩
  | cardTable d =>
    have hlt : t.card w.object.toNat < t.numCards := hfits.card_lt h
    have hindex : (Tracker.indexOf w.object : Action CardTable Nat).run t =
        ⟨.ok (t.card w.object.toNat), t, []⟩ := by
      show Outcome.mk (t.indexOf w.object) t [] = _
      rw [CardLayout.indexOf_eq_ok h]
    have hmark : (Tracker.markDirty (t.card w.object.toNat) : Action CardTable Unit).run t =
        ⟨.ok (), t.fill .dirty (t.card w.object.toNat) (t.card w.object.toNat), []⟩ :=
      markDirty_eq_ok hlt
    refine ⟨t.fill .dirty (t.card w.object.toNat) (t.card w.object.toNat), ?_, ?_⟩
    · rw [fieldWrite, Action.run_bind_ok hindex, hmark]
      rfl
    · refine (marked_fill hlt).congr fun i => ?_
      exact (CardLayout.onCard_iff_card (Region.contains_iff.1 h).1).symm

/-- **A call that the barrier takes** succeeds, and dirties the cards of its target besides those that
were dirty. -/
theorem perform_ok (hfits : t.Fits) (h : b.Admits t.toCardLayout c.target) :
    ∃ t', (b.perform c).run t = ⟨.ok (), t', []⟩ ∧
      Marked (b.Dirties t.toCardLayout c.target) t t' := by
  rw [perform_eq]
  cases hc : c.target with
  | field w =>
    rw [hc] at h
    exact fieldWrite_ok hfits h
  | elements r =>
    rw [hc] at h
    cases b with
    | noBarrier => exact invalidate_ok (b := noBarrier) (r := r) hfits trivial
    | cardTable d => exact invalidate_ok (b := cardTable d) (r := r) hfits h
  | region r =>
    rw [hc] at h
    exact invalidate_ok hfits h

/-- **A call that the barrier refuses** is a fault that names the target, and changes nothing. -/
theorem perform_error (h : ¬ b.Admits t.toCardLayout c.target) :
    (b.perform c).run t = ⟨.error (refusal t.toCardLayout c.target), t, []⟩ := by
  cases b with
  | noBarrier => exact absurd trivial h
  | cardTable d =>
    rw [perform_eq]
    cases hc : c.target with
    | field w =>
      rw [hc] at h
      have hindex : (Tracker.indexOf w.object : Action CardTable Nat).run t =
          ⟨.error (.addressNotCovered w.object t.covered), t, []⟩ := by
        show Outcome.mk (t.indexOf w.object) t [] = _
        rw [CardLayout.indexOf_eq_error h]
      exact Action.run_bind_error hindex
    | elements r =>
      rw [hc] at h
      exact storeRegion_eq_error h
    | region r =>
      rw [hc] at h
      exact storeRegion_eq_error h

end Barrier

end WriteBarrier
