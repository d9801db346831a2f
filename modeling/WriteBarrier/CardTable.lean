/-
The card table: one card, clean or dirty, for every card of the layout.

Marking dirties cards and never cleans one; clearing is the collector's. Both
check the region against the covered region before the first store. A table
whose card count wrapped to zero still accepts covered regions, and then the
first store is out of bounds.
-/
import WriteBarrier.CardLayout
import WriteBarrier.Action

namespace WriteBarrier

/-- The state of one card. -/
inductive Card where
  | clean
  | dirty
  deriving DecidableEq, Inhabited

/-- The byte that stands for a card's state in memory. -/
def Card.byte : Card → UInt8
  | clean => 0xff
  | dirty => 0

/-- A layout with a state for each of its cards. -/
structure CardTable extends CardLayout where
  /-- Does the collector scan cards while mutators run? -/
  scannedConcurrently : Bool
  cards : Array Card
  size_cards : cards.size = toCardLayout.numCards

namespace CardTable

/-- A table over `covered` with cards of `2 ^ log` bytes, all clean. -/
def create (covered : Region) (log : Nat) (scannedConcurrently : Bool) : Except Fault CardTable := do
  let layout ← CardLayout.ofCovered covered log
  return { layout with
    scannedConcurrently
    cards := Array.replicate layout.numCards .clean
    size_cards := Array.size_replicate }

/-! ## Reading -/

/-- Is there a card of this number, and is it dirty? Every operation of the table is described by what
it does to this. -/
def hasDirty (t : CardTable) (index : Nat) : Bool := t.cards[index]? == some .dirty

/-- The state of a card. -/
def isDirty (t : CardTable) (index : Nat) : Except Fault Bool := do
  t.checkIndex index
  return t.hasDirty index

/-- The numbers of the dirty cards, ascending. -/
def dirtyCards (t : CardTable) : List Nat := (List.range t.cards.size).filter t.hasDirty

def dirtyCardCount (t : CardTable) : Nat := t.dirtyCards.length

theorem mem_dirtyCards {t : CardTable} {i : Nat} : i ∈ t.dirtyCards ↔ t.hasDirty i = true := by
  rw [dirtyCards, List.mem_filter, List.mem_range]
  refine ⟨And.right, fun h => ⟨?_, h⟩⟩
  rw [hasDirty, beq_iff_eq] at h
  exact (Array.getElem?_eq_some_iff.1 h).1

theorem pairwise_dirtyCards (t : CardTable) : t.dirtyCards.Pairwise (· < ·) :=
  List.pairwise_lt_range.filter _

def text (t : CardTable) : String :=
  s!"CardTable {t.covered} ({t.cards.size} cards of {t.bytesInCard} bytes, {t.dirtyCardCount} dirty)"

instance : ToString CardTable := ⟨text⟩

/-! ## Storing -/

/-- Stores `c` into the `count` cards from `first` on, as far as there are any. -/
def fillFrom (c : Card) (cards : Array Card) (first : Nat) : Nat → Array Card
  | 0 => cards
  | count + 1 => fillFrom c (cards.setIfInBounds first c) (first + 1) count

theorem size_fillFrom (c : Card) (cards : Array Card) (first count : Nat) :
    (fillFrom c cards first count).size = cards.size := by
  induction count generalizing cards first with
  | zero => rfl
  | succ count ih => simp [fillFrom, ih]

/-- A filled card holds `c`, and the others what they held. -/
theorem getElem?_fillFrom (c : Card) (cards : Array Card) (first count i : Nat) :
    (fillFrom c cards first count)[i]? =
      if first ≤ i ∧ i < first + count ∧ i < cards.size then some c else cards[i]? := by
  induction count generalizing cards first with
  | zero =>
    rw [fillFrom, if_neg (by omega)]
  | succ count ih =>
    rw [fillFrom, ih, Array.size_setIfInBounds, Array.getElem?_setIfInBounds]
    by_cases hi : first = i
    · subst hi
      rw [if_neg (by omega), if_pos rfl]
      by_cases hs : first < cards.size
      · rw [if_pos hs, if_pos (by omega)]
      · rw [if_neg hs, if_neg (by omega), Array.getElem?_eq_none (by omega)]
    · rw [if_neg hi]
      have : (first + 1 ≤ i ∧ i < first + 1 + count ∧ i < cards.size) ↔
          (first ≤ i ∧ i < first + (count + 1) ∧ i < cards.size) := by omega
      simp only [this]

/-- Stores `c` into the cards from `first` to `last`, as far as there are any. -/
def fill (c : Card) (first last : Nat) (t : CardTable) : CardTable :=
  { t with
    cards := fillFrom c t.cards first (min (last + 1) t.cards.size - first)
    size_cards := (size_fillFrom c t.cards first _).trans t.size_cards }

/-- What a fill leaves dirty. -/
theorem hasDirty_fill (c : Card) (first last : Nat) (t : CardTable) (i : Nat) :
    (t.fill c first last).hasDirty i =
      if first ≤ i ∧ i ≤ last ∧ i < t.cards.size then c == .dirty else t.hasDirty i := by
  simp only [fill, hasDirty, getElem?_fillFrom]
  have : (first ≤ i ∧ i < first + (min (last + 1) t.cards.size - first) ∧ i < t.cards.size) ↔
      (first ≤ i ∧ i ≤ last ∧ i < t.cards.size) := by omega
  simp only [this]
  split <;> rfl

/-- Stores `c` into the cards from `first` to `last`, one after the other. The first card that is not
there ends it. -/
def storeRange (c : Card) (first last : Nat) : Action CardTable Unit := do
  Action.update (fill c first last)
  Action.inspect fun t =>
    if last < t.cards.size then .ok ()
    else .error (.storeOutOfBounds t.cards.size (max first t.cards.size))

/-- Stores `c` into the cards that a covered region touches. -/
def storeRegion (c : Card) (r : Region) : Action CardTable Unit := do
  Action.inspect fun t => t.checkRegion r
  if r.isEmpty then return ()
  let range ← Action.inspect fun t => t.cardRange r
  storeRange c range.1 range.2

def markDirty (index : Nat) : Action CardTable Unit := do
  Action.inspect fun t => t.checkIndex index
  Action.update (fill .dirty index index)

/-- Dirties the cards that a covered region touches. -/
def markDirtyRange (r : Region) : Action CardTable Unit := storeRegion .dirty r

/-- Cleans the cards that a covered region touches. -/
def clearRange (r : Region) : Action CardTable Unit := storeRegion .clean r

/-- Cleans one card, named by its region. -/
def clearCard (index : Nat) : Action CardTable Unit := do
  let region ← Action.inspect fun t => t.cardRegion index
  clearRange region

def clearAll : Action CardTable Unit :=
  Action.update fun t =>
    { t with
      cards := Array.replicate t.numCards .clean
      size_cards := Array.size_replicate }

end CardTable

end WriteBarrier
