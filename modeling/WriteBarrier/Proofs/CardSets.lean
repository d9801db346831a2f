/-
A card table as the set of its dirty cards.

On sets of numbers the calls of a table are said without words, shifts or
loops: a region is the cards it shares an address with, and what is out of
range is refused before anything changes. Honestly told, the set is the easy
half. What ties the table to it is that the first and the last card of a region
are computed with words, that the loop between them stays inside the array, and
that both hold up to the last, partial card and for an empty region at the
very end; `WriteBarrier.Proofs.Marking` has all of that, operation by operation.
-/
import WriteBarrier.Proofs.Marking

namespace WriteBarrier

/-! ## Runs of operations, and operations that answer alike -/

namespace Action

variable {σ τ α γ : Type} {R : σ → τ → Prop}

/-- What the operations of a run answer, one after the other. A fault ends its operation only. -/
def answers : List (Action σ α) → σ → List (Except Fault α)
  | [], _ => []
  | a :: rest, s => (a.run s).answer :: answers rest (a.run s).state

/-- The state after a run of operations. -/
def after : List (Action σ α) → σ → σ
  | [], s => s
  | a :: rest, s => after rest (a.run s).state

/-- Goes on only where `p` holds. -/
def require (p : Prop) [Decidable p] (f : Fault) : Action σ Unit :=
  if p then return () else fault f

theorem run_require_bind_ok {p : Prop} [Decidable p] {f : Fault} {g : Unit → Action σ α} {s : σ}
    (h : p) : (require p f >>= g).run s = (g ()).run s := by
  rw [require, if_pos h]
  rfl

theorem run_require_bind_error {p : Prop} [Decidable p] {f : Fault} {g : Unit → Action σ α} {s : σ}
    (h : ¬ p) : (require p f >>= g).run s = ⟨.error f, s, []⟩ := by
  rw [require, if_neg h]
  rfl

/-- From related states the two answer alike, and they leave related states. -/
def Simulates (R : σ → τ → Prop) (x : Action σ α) (y : Action τ α) : Prop :=
  ∀ s d, R s d → (x.run s).answer = (y.run d).answer ∧ R (x.run s).state (y.run d).state

/-- **What simulates step by step, simulates run by run.** -/
theorem Simulates.runs {f : γ → Action σ α} {g : γ → Action τ α}
    (h : ∀ c, Simulates R (f c) (g c)) (calls : List γ) {s : σ} {d : τ} (hR : R s d) :
    answers (calls.map f) s = answers (calls.map g) d ∧
      R (after (calls.map f) s) (after (calls.map g) d) := by
  induction calls generalizing s d with
  | nil => exact ⟨rfl, hR⟩
  | cons c rest ih =>
    obtain ⟨hanswer, hstate⟩ := h c s d hR
    obtain ⟨hanswers, hafter⟩ := ih hstate
    refine ⟨?_, hafter⟩
    simp only [List.map_cons, answers]
    rw [hanswer, hanswers]

theorem Simulates.map {β : Type} {x : Action σ α} {y : Action τ α} (h : Simulates R x y)
    (k : α → β) : Simulates R (k <$> x) (k <$> y) := by
  intro s d hR
  obtain ⟨hanswer, hstate⟩ := h s d hR
  simp only [run_map]
  exact ⟨congrArg (Except.map k) hanswer, hstate⟩

end Action

open WriteBarrier.Action (Simulates)

/-! ## The calls -/

namespace CardTable

/-- A call to a card table: a change, or the question whether a card is dirty. -/
inductive Call where
  | change (e : Event)
  | isDirty (index : Nat)
  deriving DecidableEq

/-- What a call does to a table, and answers if it is a question. -/
def serve : Call → Action CardTable (Option Bool)
  | .change e => (fun _ => none) <$> step e
  | .isDirty index => some <$> Action.inspect fun t => t.isDirty index

end CardTable

/-- Cards, by their numbers. -/
abbrev CardSet := Set Nat

namespace CardSet

/-- The region lies between the bounds of what is covered. -/
def Spans (l : CardLayout) (r : Region) : Prop :=
  l.covered.start.toNat ≤ r.start.toNat ∧ r.stop.toNat ≤ l.covered.stop.toNat

instance (l : CardLayout) (r : Region) : Decidable (Spans l r) := inferInstanceAs (Decidable (_ ∧ _))

/-- What an event does to a set of dirty cards. -/
def step (l : CardLayout) : CardTable.Event → Action CardSet Unit
  | .markDirty index => do
    Action.require (index < l.numCards) (.noCard index l.numCards)
    Action.update fun cards => insert index cards
  | .markDirtyRange r => do
    Action.require (Spans l r) (.regionNotCovered r l.covered)
    Action.update fun cards => cards ∪ {i | l.Touches i r}
  | .clearRange r => clearRange r
  | .clearCard index => do
    let r ← Action.inspect fun _ => l.cardRegion index
    clearRange r
  | .clearAll => Action.update fun _ => ∅
where
  clearRange (r : Region) : Action CardSet Unit := do
    Action.require (Spans l r) (.regionNotCovered r l.covered)
    Action.update fun cards => cards \ {i | l.Touches i r}

open Classical in
/-- What a call does to a set of dirty cards, and answers if it is a question. -/
noncomputable def serve (l : CardLayout) : CardTable.Call → Action CardSet (Option Bool)
  | .change e => (fun _ => none) <$> step l e
  | .isDirty index => some <$> do
    Action.require (index < l.numCards) (.noCard index l.numCards)
    Action.view fun cards => decide (index ∈ cards)

end CardSet

/-! ## The table and its set -/

namespace CardTable

variable {l : CardLayout} {t t₀ : CardTable} {cards : CardSet} {r : Region} {index : Nat}
  {covered : Region} {log : Nat} {concurrent : Bool}

/-- The table has this layout, and these cards are dirty. -/
structure Shows (l : CardLayout) (t : CardTable) (cards : CardSet) : Prop where
  layout : t.toCardLayout = l
  mem_iff : ∀ i, i ∈ cards ↔ t.hasDirty i = true

theorem spans_iff : CardSet.Spans l r ↔ l.covered.containsRegion r = true :=
  Region.containsRegion_iff.symm

theorem simulates_markDirty (l : CardLayout) (index : Nat) :
    Simulates (Shows l) (markDirty index) (CardSet.step l (.markDirty index)) := by
  rintro t cards ⟨rfl, hmem⟩
  by_cases hlt : index < t.numCards
  · have hmarked := marked_fill hlt
    rw [markDirty_eq_ok hlt, CardSet.step, Action.run_require_bind_ok hlt, Action.run_update]
    refine ⟨rfl, hmarked.layout, fun i => ?_⟩
    rw [Set.mem_insert_iff, hmem, hmarked.hasDirty_iff]
    tauto
  · rw [markDirty_eq_error hlt, CardSet.step, Action.run_require_bind_error hlt]
    exact ⟨rfl, rfl, hmem⟩

theorem simulates_markDirtyRange {l : CardLayout} (hfits : l.Fits) (r : Region) :
    Simulates (Shows l) (markDirtyRange r) (CardSet.step l (.markDirtyRange r)) := by
  rintro t cards ⟨rfl, hmem⟩
  by_cases hin : t.covered.containsRegion r = true
  · rw [markDirtyRange, storeRegion_eq_ok hfits hin, CardSet.step,
      Action.run_require_bind_ok (spans_iff.2 hin), Action.run_update]
    refine ⟨rfl, toCardLayout_paint _ _ _, fun i => ?_⟩
    rw [Set.mem_union, hmem, hasDirty_paint hfits hin, Set.mem_ofPred_eq]
    tauto
  · rw [markDirtyRange, storeRegion_eq_error hin, CardSet.step,
      Action.run_require_bind_error fun h => hin (spans_iff.1 h)]
    exact ⟨rfl, rfl, hmem⟩

theorem simulates_clearRange {l : CardLayout} (hfits : l.Fits) (r : Region) :
    Simulates (Shows l) (clearRange r) (CardSet.step.clearRange l r) := by
  rintro t cards ⟨rfl, hmem⟩
  by_cases hin : t.covered.containsRegion r = true
  · rw [clearRange, storeRegion_eq_ok hfits hin, CardSet.step.clearRange,
      Action.run_require_bind_ok (spans_iff.2 hin), Action.run_update]
    refine ⟨rfl, toCardLayout_paint _ _ _, fun i => ?_⟩
    rw [Set.mem_sdiff, hmem, hasDirty_paint hfits hin, Set.mem_ofPred_eq]
    simp
  · rw [clearRange, storeRegion_eq_error hin, CardSet.step.clearRange,
      Action.run_require_bind_error fun h => hin (spans_iff.1 h)]
    exact ⟨rfl, rfl, hmem⟩

/-- **Every event does to a table what it does to its set.** -/
theorem simulates_step {l : CardLayout} (hfits : l.Fits) (e : Event) :
    Simulates (Shows l) (step e) (CardSet.step l e) := by
  cases e with
  | markDirty index => exact simulates_markDirty l index
  | markDirtyRange r => exact simulates_markDirtyRange hfits r
  | clearRange r => exact simulates_clearRange hfits r
  | clearCard index =>
    intro t cards h
    have hlayout := h.layout
    subst hlayout
    show ((clearCard index).run t).answer = _ ∧ Shows _ ((clearCard index).run t).state _
    simp only [clearCard, CardSet.step, Action.run_bind, Action.run_inspect]
    cases hregion : t.cardRegion index with
    | error f => exact ⟨rfl, h⟩
    | ok r => exact simulates_clearRange hfits r t cards h
  | clearAll =>
    rintro t cards ⟨rfl, -⟩
    refine ⟨rfl, rfl, fun i => ?_⟩
    simp [step, CardSet.step, hasDirty_clearAll]

theorem simulates_isDirty (l : CardLayout) (index : Nat) :
    Simulates (Shows l) (serve (.isDirty index)) (CardSet.serve l (.isDirty index)) := by
  refine Simulates.map ?_ some
  rintro t cards ⟨rfl, hmem⟩
  by_cases hlt : index < t.numCards
  · have hcheck : t.checkIndex index = .ok () := if_pos hlt
    have hanswer : t.isDirty index = .ok (t.hasDirty index) := by
      rw [isDirty, hcheck]
      rfl
    rw [Action.run_require_bind_ok hlt, Action.run_inspect, Action.run_view, hanswer]
    refine ⟨?_, rfl, hmem⟩
    simp [hmem]
  · have hcheck : t.checkIndex index = .error (.noCard index t.numCards) := if_neg hlt
    have hanswer : t.isDirty index = .error (.noCard index t.numCards) := by
      rw [isDirty, hcheck]
      rfl
    rw [Action.run_require_bind_error hlt, Action.run_inspect, hanswer]
    exact ⟨rfl, rfl, hmem⟩

theorem simulates_serve {l : CardLayout} (hfits : l.Fits) (c : Call) :
    Simulates (Shows l) (serve c) (CardSet.serve l c) := by
  cases c with
  | change e => exact (simulates_step hfits e).map _
  | isDirty index => exact simulates_isDirty l index

theorem state_serve_of_error (hfits : t.Fits) {c : Call} {f : Fault}
    (h : ((serve c).run t).answer = .error f) : ((serve c).run t).state = t := by
  cases c with
  | isDirty index => rw [serve, Action.run_map, Action.run_inspect]
  | change e =>
    simp only [serve, Action.run_map] at h ⊢
    obtain ⟨f', hrun⟩ | ⟨t', hrun, -⟩ := step_cases hfits e
    · rw [hrun]
    · rw [hrun] at h
      cases h

theorem Shows.mem_dirtyCards (h : Shows l t cards) (i : Nat) : i ∈ t.dirtyCards ↔ i ∈ cards := by
  rw [CardTable.mem_dirtyCards, h.mem_iff]

theorem Shows.dirtyCardCount_eq (h : Shows l t cards) : t.dirtyCardCount = cards.ncard := by
  have hnodup : t.dirtyCards.Nodup := t.pairwise_dirtyCards.imp Nat.ne_of_lt
  have hcards : cards = (t.dirtyCards.toFinset : Set Nat) := by
    ext i
    rw [Finset.mem_coe, List.mem_toFinset, h.mem_dirtyCards]
  rw [hcards, Set.ncard_coe_finset, List.toFinset_card_of_nodup hnodup, dirtyCardCount]

/-- **A card table is the set of its dirty cards.** Take a new table whose rounding does not wrap, and
any run of calls. The answers are those of the set that starts empty, faults and what they name
included; the table keeps its layout, and its dirty cards are listed in ascending order, each once,
and are those of the set. A call that is a fault leaves the table as it was. -/
theorem card_table_refines_card_set (hcreate : create covered log concurrent = .ok t₀)
    (hfits : t₀.Fits) (calls : List Call) :
    let l := t₀.toCardLayout
    let t := Action.after (calls.map serve) t₀
    let cards := Action.after (calls.map (CardSet.serve l)) ∅
    l.covered = covered ∧ l.logBytesInCard = log ∧ t.toCardLayout = l ∧
    Action.answers (calls.map serve) t₀ = Action.answers (calls.map (CardSet.serve l)) ∅ ∧
    t.dirtyCards.Pairwise (· < ·) ∧ (∀ i, i ∈ t.dirtyCards ↔ i ∈ cards) ∧
    t.dirtyCardCount = cards.ncard ∧ (∀ i ∈ cards, i < l.numCards) ∧
    ∀ c f, ((serve c).run t).answer = .error f → ((serve c).run t).state = t := by
  intro l t cards
  obtain ⟨hlayout, hclean⟩ := create_eq_ok hcreate
  obtain ⟨hcovered, hlog⟩ := CardLayout.ofCovered_eq_ok hlayout
  have hstart : Shows l t₀ ∅ := ⟨rfl, fun i => by simp [hclean]⟩
  obtain ⟨hanswers, hshows⟩ := Simulates.runs (simulates_serve hfits) calls hstart
  refine ⟨hcovered, hlog, hshows.layout, hanswers, t.pairwise_dirtyCards, hshows.mem_dirtyCards,
    hshows.dirtyCardCount_eq, fun i hi => ?_, fun c f hf => ?_⟩
  · have hdirty := (hshows.mem_iff i).1 hi
    have hlt := (Array.getElem?_eq_some_iff.1 (beq_iff_eq.1 hdirty)).1
    rw [size_cards, hshows.layout] at hlt
    exact hlt
  · refine state_serve_of_error ?_ hf
    rw [hshows.layout]
    exact hfits

/-- Three cards, the last of them half covered: a region that starts and ends inside cards, an empty
one at the very end, a card and a region that are not there, and a card cleaned again. -/
theorem card_table_refines_card_set_partial_card :
    ∃ t₀, create ⟨⟨0x1000⟩, ⟨0x1500⟩, by decide⟩ 9 false = .ok t₀ ∧ t₀.Fits ∧
      let outside : Region := ⟨⟨0x1400⟩, ⟨0x1600⟩, by decide⟩
      let calls : List Call := [.change (.markDirtyRange ⟨⟨0x11f8⟩, ⟨0x1408⟩, by decide⟩),
        .change (.markDirtyRange ⟨⟨0x1500⟩, ⟨0x1500⟩, by decide⟩), .isDirty 2,
        .change (.markDirty 3), .change (.markDirtyRange outside),
        .change (.clearRange ⟨⟨0x1000⟩, ⟨0x1200⟩, by decide⟩)]
      Action.answers (calls.map (CardSet.serve t₀.toCardLayout)) ∅ =
          [.ok none, .ok none, .ok (some true), .error (.noCard 3 3),
            .error (.regionNotCovered outside ⟨⟨0x1000⟩, ⟨0x1500⟩, by decide⟩), .ok none] ∧
        (Action.after (calls.map serve) t₀).dirtyCards = [1, 2] ∧
        ∀ i, i ∈ Action.after (calls.map (CardSet.serve t₀.toCardLayout)) ∅ ↔ i ∈ [1, 2] := by
  have hcreate : create ⟨⟨0x1000⟩, ⟨0x1500⟩, by decide⟩ 9 false = .ok _ := rfl
  refine ⟨_, hcreate, by decide, ?_⟩
  intro outside calls
  obtain ⟨-, -, -, hanswers, -, hmem, -⟩ :=
    card_table_refines_card_set hcreate (by decide) calls
  refine ⟨hanswers.symm.trans (by decide +kernel), by decide +kernel, fun i => ?_⟩
  exact (hmem i).symm.trans (iff_of_eq (congrArg (i ∈ ·) (by decide +kernel)))

end CardTable

end WriteBarrier
