/-
How precise the store barrier is, over runs of stores by any routes.

What a call does depends on one thing: the start of the object for a field,
the region for everything else (`perform_eq_markAt`). That is an equation of
operations, for any tracker, so slots and routes cannot be told apart by what
they do, whatever was stored before. What it comes to on a card table is one
step lemma, `perform_marked`: the call is answered by the layout alone, and
dirties the cards of its target or, refused, none. The layout never changes, so
over a run every call is answered as if it were the only one.
-/
import WriteBarrier.Proofs.CardSets

namespace WriteBarrier

/-- What the marking of a store depends on: of a field its object, and not the slot; of anything else
the region. -/
def WriteTarget.place : WriteTarget → Address ⊕ Region
  | .field w => .inl w.object
  | .elements r => .inr r
  | .region r => .inr r

namespace Barrier

open CardTable (Marked)

variable {σ : Type} [Tracker σ] {b : Barrier} {c : Call} {calls calls' : List Call} {t : CardTable}
  {deferred : Bool}

/-! ## Slots and routes -/

/-- What a store at a place makes the barrier do. -/
def markAt (b : Barrier) : Address ⊕ Region → Action σ Unit
  | .inl object => b.fieldWrite ⟨object, object⟩
  | .inr r => b.invalidate r

/-- **What a call does depends on the place alone,** not on the slot or the route, over any tracker. -/
theorem perform_eq_markAt (b : Barrier) (c : Call) :
    (b.perform c : Action σ Unit) = b.markAt c.target.place := by
  rw [perform_eq]
  cases c.target with
  | field w => cases b <;> rfl
  | elements r => rfl
  | region r => rfl

theorem map_perform_eq (b : Barrier)
    (h : calls'.map (·.target.place) = calls.map (·.target.place)) :
    (calls'.map b.perform : List (Action σ Unit)) = calls.map b.perform := by
  have hplaces : ∀ calls : List Call, (calls.map b.perform : List (Action σ Unit)) =
      (calls.map (·.target.place)).map b.markAt := by
    intro calls
    rw [List.map_map]
    exact List.map_congr_left fun c _ => perform_eq_markAt b c
  rw [hplaces, hplaces, h]

/-! ## Runs on a card table -/

/-- The answer to a store: a refusal, if the barrier does not take it. -/
def verdict (b : Barrier) (l : CardLayout) (target : WriteTarget) : Except Fault Unit :=
  if b.Admits l target then .ok () else .error (refusal l target)

/-- The cards that a store dirties: none, if the barrier does not take it. -/
def Marks (b : Barrier) (l : CardLayout) (target : WriteTarget) (i : Nat) : Prop :=
  b.Admits l target ∧ b.Dirties l target i

/-- **A call is answered by the layout alone,** and dirties the cards of its target, or none. -/
theorem perform_marked (hfits : t.Fits) (b : Barrier) (c : Call) :
    ∃ t', (b.perform c).run t = ⟨b.verdict t.toCardLayout c.target, t', []⟩ ∧
      Marked (b.Marks t.toCardLayout c.target) t t' := by
  by_cases hadmits : b.Admits t.toCardLayout c.target
  · obtain ⟨t', hrun, hmarked⟩ := perform_ok hfits hadmits
    refine ⟨t', ?_, hmarked.congr fun i => (and_iff_right hadmits).symm⟩
    rw [verdict, if_pos hadmits, hrun]
  · refine ⟨t, ?_, Marked.refl fun i hi => hadmits hi.1⟩
    rw [verdict, if_neg hadmits, perform_error hadmits]

/-- Over a run of calls each is answered as if it were the only one, and all that they dirty is dirty
in the end. -/
theorem run_marked (hfits : t.Fits) (b : Barrier) (calls : List Call) :
    Action.answers (calls.map b.perform) t = calls.map (fun c => b.verdict t.toCardLayout c.target) ∧
      Marked (fun i => ∃ c ∈ calls, b.Marks t.toCardLayout c.target i) t
        (Action.after (calls.map b.perform) t) := by
  induction calls generalizing t with
  | nil => exact ⟨rfl, Marked.refl fun i => by simp⟩
  | cons c rest ih =>
    obtain ⟨t', hrun, hmarked⟩ := perform_marked hfits b c
    obtain ⟨hanswers, hrest⟩ := ih (hmarked.fits hfits)
    rw [hmarked.layout] at hanswers hrest
    simp only [List.map_cons, Action.answers, Action.after, hrun]
    refine ⟨congrArg _ hanswers, (hmarked.trans hrest).congr fun i => ?_⟩
    simp only [List.exists_mem_cons_iff]

/-- A refused call might as well not have been made. -/
theorem after_filter_admits (hfits : t.Fits) (b : Barrier) (calls : List Call) :
    Action.after ((calls.filter fun c => b.Admits t.toCardLayout c.target).map b.perform) t =
      Action.after (calls.map b.perform) t := by
  induction calls generalizing t with
  | nil => rfl
  | cons c rest ih =>
    obtain ⟨t', hrun, hmarked⟩ := perform_marked hfits b c
    have hrest := ih (hmarked.fits hfits)
    rw [hmarked.layout] at hrest
    by_cases hadmits : b.Admits t.toCardLayout c.target
    · rw [List.filter_cons_of_pos (by simpa using hadmits)]
      simp only [List.map_cons, Action.after, hrun]
      exact hrest
    · rw [List.filter_cons_of_neg (by simpa using hadmits)]
      have hsame : t' = t := congrArg Outcome.state (hrun.symm.trans (perform_error hadmits))
      subst hsame
      simp only [List.map_cons, Action.after, hrun]
      exact hrest

/-! ## What a tracker is asked -/

/-- What the card-marking barrier asks of a tracker for a store at a place: for an object its card, and
then, if there is an answer, to dirty that card; for a region to dirty what it touches. -/
def requests (s : σ) : Address ⊕ Region → List TrackerCall
  | .inl object => .indexOf object ::
      match ((Tracker.indexOf object : Action σ Nat).run s).answer with
      | .ok index => [.markDirty index]
      | .error _ => []
  | .inr r => [.markDirtyRange r]

/-- What a run of calls asks of a tracker. -/
def requestsOf (b : Barrier) : List Call → σ → List TrackerCall
  | [], _ => []
  | c :: rest, s => requests s c.target.place ++ requestsOf b rest ((b.perform c).run s).state

omit [Tracker σ] in
theorem run_pass {α : Type} (call : TrackerCall) (answer : Action σ α) (o : Observed σ) :
    (Observed.pass call answer).run o =
      ⟨(answer.run o.tracker).answer, ⟨(answer.run o.tracker).state, o.calls ++ [call]⟩,
        (answer.run o.tracker).log⟩ := rfl

/-- **A store asks for its card, or its region, and for nothing else,** dirty or clean; and is answered
as without an observer. -/
theorem perform_observed (c : Call) (o : Observed σ) :
    ((cardTable deferred).perform c).run o =
      ⟨(((cardTable deferred).perform c).run o.tracker).answer,
        ⟨(((cardTable deferred).perform c).run o.tracker).state,
          o.calls ++ requests o.tracker c.target.place⟩,
        (((cardTable deferred).perform c).run o.tracker).log⟩ := by
  rw [perform_eq_markAt, perform_eq_markAt]
  cases c.target.place with
  | inr r => exact run_pass (.markDirtyRange r) (Tracker.markDirtyRange r) o
  | inl object =>
    have hindex : (Tracker.indexOf object : Action (Observed σ) Nat).run o = _ :=
      run_pass (.indexOf object) (Tracker.indexOf object) o
    simp only [markAt, fieldWrite, requests]
    cases hanswer : (Tracker.indexOf object : Action σ Nat).run o.tracker with
    | mk answer s log =>
      rw [hanswer] at hindex
      cases answer with
      | error f => rw [Action.run_bind_error hanswer, Action.run_bind_error hindex]
      | ok index =>
        have hmark : (Tracker.markDirty index : Action (Observed σ) Unit).run
            ⟨s, o.calls ++ [.indexOf object]⟩ = _ :=
          run_pass (.markDirty index) (Tracker.markDirty index) _
        rw [Action.run_bind_ok hanswer, Action.run_bind_ok hindex, hmark]
        simp only [List.append_assoc, List.cons_append, List.nil_append]

theorem run_observed (calls : List Call) (o : Observed σ) :
    Action.answers (calls.map (cardTable deferred).perform) o =
        Action.answers (calls.map (cardTable deferred).perform) o.tracker ∧
      Action.after (calls.map (cardTable deferred).perform) o =
        ⟨Action.after (calls.map (cardTable deferred).perform) o.tracker,
          o.calls ++ requestsOf (cardTable deferred) calls o.tracker⟩ := by
  induction calls generalizing o with
  | nil => exact ⟨rfl, by simp [Action.after, requestsOf]⟩
  | cons c rest ih =>
    obtain ⟨hanswers, hafter⟩ := ih (((cardTable deferred).perform c).run o).state
    simp only [List.map_cons, Action.answers, Action.after, requestsOf]
    rw [hanswers, hafter, perform_observed]
    exact ⟨rfl, by rw [List.append_assoc]⟩

/-! ## Precision -/

/-- **The store barrier is as precise as it says, on every route.** Take a card table whose rounding does
not wrap, with any cards dirty, a card-marking barrier over it, and any run of calls, faults caught. A
field is refused exactly if its object's start is not covered, and otherwise dirties the card of that
start; elements and regions are refused exactly if they are not inside the covered region, and otherwise
dirty the cards they touch. So each call is answered as if it were the only one, and the dirty cards in
the end are those at the start and those of the calls that were not refused; the refused ones might as
well not have been made. Calls that differ in slots and routes only come to the same answers and the same
table. And over any tracker, a field asks for the card of its object and then to dirty that card, anything
else to dirty its region, each call anew and nothing besides; an observer changes nothing. -/
theorem stores_mark_exactly_their_place (hfits : t.Fits) (deferred : Bool) (calls : List Call) :
    let b := cardTable deferred
    let l := t.toCardLayout
    let t' := Action.after (calls.map b.perform) t
    Action.answers (calls.map b.perform) t = calls.map (fun c => b.verdict l c.target) ∧
    t'.toCardLayout = l ∧
    (∀ i, t'.hasDirty i = true ↔
      t.hasDirty i = true ∨ ∃ c ∈ calls, b.Admits l c.target ∧ b.Dirties l c.target i) ∧
    Action.after ((calls.filter fun c => b.Admits l c.target).map b.perform) t = t' ∧
    (∀ calls' : List Call, calls'.map (·.target.place) = calls.map (·.target.place) →
      Action.answers (calls'.map b.perform) t = Action.answers (calls.map b.perform) t ∧
      Action.after (calls'.map b.perform) t = t') ∧
    ∀ (σ : Type) [Tracker σ] (o : Observed σ),
      Action.answers (calls.map b.perform) o = Action.answers (calls.map b.perform) o.tracker ∧
      Action.after (calls.map b.perform) o =
        ⟨Action.after (calls.map b.perform) o.tracker, o.calls ++ requestsOf b calls o.tracker⟩ := by
  intro b l t'
  obtain ⟨hanswers, hmarked⟩ := run_marked hfits b calls
  refine ⟨hanswers, hmarked.layout, hmarked.hasDirty_iff, after_filter_admits hfits b calls,
    fun calls' h => ?_, fun σ _ o => run_observed calls o⟩
  have hsame : (calls'.map b.perform : List (Action CardTable Unit)) = calls.map b.perform :=
    map_perform_eq b h
  rw [hsame]
  exact ⟨rfl, rfl⟩

/-- Stores by five routes to three cards, the last of them half covered: a field whose slot is nowhere
near the heap, an object that starts where the heap stops, elements across a boundary, a bulk write that
reaches past the heap, and an empty one at its stop. The same stores with another slot and by other
routes come to the same table. -/
theorem stores_mark_exactly_their_place_mixed_routes :
    let far : Region := ⟨⟨0x1400⟩, ⟨0x1600⟩, by decide⟩
    let elements : Region := ⟨⟨0x11f8⟩, ⟨0x1208⟩, by decide⟩
    let nothing : Region := ⟨⟨0x1500⟩, ⟨0x1500⟩, by decide⟩
    let calls : List Call := [.postWrite .plainField ⟨⟨0x11f0⟩, ⟨0x9000⟩⟩, .fieldWrite ⟨⟨0x1500⟩, ⟨0x1000⟩⟩,
      .regionCopied elements, .bulkChanged far, .postWriteTarget (.region nothing)]
    let others : List Call := [.objectStored ⟨⟨0x11f0⟩, ⟨0x11f8⟩⟩, .postWriteTarget (.field ⟨⟨0x1500⟩, ⟨0⟩⟩),
      .invalidate elements, .arrayWrite far, .writeRegion nothing]
    let b := cardTable true
    ∃ t, CardTable.create ⟨⟨0x1000⟩, ⟨0x1500⟩, by decide⟩ 9 false = .ok t ∧ t.Fits ∧
      Action.answers (calls.map b.perform) t = [.ok (), .error (.addressNotCovered ⟨0x1500⟩ t.covered),
        .ok (), .error (.regionNotCovered far t.covered), .ok ()] ∧
      (Action.after (calls.map b.perform) t).dirtyCards = [0, 1] ∧
      Action.after (others.map b.perform) t = Action.after (calls.map b.perform) t ∧
      (Action.after (calls.map b.perform) (⟨t, []⟩ : Observed CardTable)).calls =
        [.indexOf ⟨0x11f0⟩, .markDirty 0, .indexOf ⟨0x1500⟩, .markDirtyRange elements,
          .markDirtyRange far, .markDirtyRange nothing] := by
  intro far elements nothing calls others b
  have hcreate : CardTable.create ⟨⟨0x1000⟩, ⟨0x1500⟩, by decide⟩ 9 false = .ok _ := rfl
  have hfits : ∀ t, CardTable.create ⟨⟨0x1000⟩, ⟨0x1500⟩, by decide⟩ 9 false = .ok t → t.Fits := by
    intro t h
    obtain ⟨hcovered, hlog⟩ := CardLayout.ofCovered_eq_ok (CardTable.create_eq_ok h).1
    rw [CardLayout.Fits, hcovered, hlog]
    decide
  obtain ⟨hanswers, -, -, -, hplaces, hobserved⟩ :=
    stores_mark_exactly_their_place (hfits _ hcreate) true calls
  refine ⟨_, hcreate, hfits _ hcreate, hanswers.trans (by decide +kernel), by decide +kernel,
    (hplaces others rfl).2, ?_⟩
  rw [(hobserved CardTable ⟨_, []⟩).2]
  decide +kernel

end Barrier

end WriteBarrier
