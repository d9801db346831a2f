/-
How a covered region is cut into cards: which card an address lies on, where a
card starts, which cards a region touches.

A card holds `2 ^ logBytesInCard` bytes, and card `i` starts `i` cards above
the start of the covered region. The last card may reach past the region's
stop. Where the rounding of the region's size to whole cards wraps — a region
of more than `2 ^ 64 - 2 ^ logBytesInCard` bytes — the layout has no cards at
all, although the region has addresses.
-/
import WriteBarrier.Checked

namespace WriteBarrier

/-! ## Cards by number -/

/-- The number of cards for `bytes` bytes, rounded up; the rounding wraps. -/
def cardsNeeded (bytes : Word) (log : Nat) : Word :=
  bytes.alignUp (Word.twoPow log) >>> log.toUInt64

/-- As `cardsNeeded`, where the size of the card may be no word. -/
def cardsToCover (bytes : Word) (log : Nat) : Except Fault Word :=
  if log < 64 then .ok (cardsNeeded bytes log) else .error .leftShiftOverflow

/-- The number of the card on which `a` lies, counted from `base`. -/
def cardIndex (base a : Address) (log : Nat) : Except Fault Word := do
  let distance ← a.distanceFrom base
  distance.checkedShiftRight log

/-- Where the card of number `index` starts, counted from `base`. -/
def cardAddress (base : Address) (index : Word) (log : Nat) : Except Fault Address := do
  let offset ← index.checkedShiftLeft log
  base.plus offset

/-! ## The layout of a covered region -/

/-- A covered region and the size of its cards. The region starts at a multiple of that size. -/
structure CardLayout where
  covered : Region
  logBytesInCard : Nat
  log_lt : logBytesInCard < 64
  start_aligned : covered.start.isAligned (Word.twoPow logBytesInCard) = true
  deriving DecidableEq

namespace CardLayout

/-- The layout with cards of `2 ^ log` bytes. -/
def ofCovered (covered : Region) (log : Nat) : Except Fault CardLayout :=
  if hlog : log < 64 then
    if haligned : covered.start.isAligned (Word.twoPow log) = true then
      .ok ⟨covered, log, hlog, haligned⟩
    else .error (.misalignedTable covered.start (Word.twoPow log))
  else .error .leftShiftOverflow

def bytesInCard (l : CardLayout) : Word := Word.twoPow l.logBytesInCard

def numCards (l : CardLayout) : Nat := (cardsNeeded l.covered.size l.logBytesInCard).toNat

def isCovered (l : CardLayout) (a : Address) : Bool := l.covered.contains a

/-- Passes for the numbers of cards. -/
def checkIndex (l : CardLayout) (index : Nat) : Except Fault Unit :=
  if index < l.numCards then .ok () else .error (.noCard index l.numCards)

/-- Passes for the regions inside the covered region, empty ones at its stop included. -/
def checkRegion (l : CardLayout) (r : Region) : Except Fault Unit :=
  if l.covered.containsRegion r then .ok () else .error (.regionNotCovered r l.covered)

/-- The card of a covered address. -/
def indexOf (l : CardLayout) (a : Address) : Except Fault Nat :=
  if l.isCovered a then (cardIndex l.covered.start a l.logBytesInCard).map UInt64.toNat
  else .error (.addressNotCovered a l.covered)

/-- The first address of a card. -/
def cardStart (l : CardLayout) (index : Nat) : Except Fault Address := do
  l.checkIndex index
  cardAddress l.covered.start (UInt64.ofNat index) l.logBytesInCard

/-- All addresses of a card. Those of the last card may lie past the covered region. -/
def cardRegion (l : CardLayout) (index : Nat) : Except Fault Region := do
  let start ← l.cardStart index
  Region.sized start l.bytesInCard

/-- The first and the last card that a region touches. -/
def cardRange (l : CardLayout) (r : Region) : Except Fault (Nat × Nat) :=
  if r.isEmpty then .error .cardsOfEmpty
  else do
    let first ← l.indexOf r.start
    let last ← l.indexOf (← r.last)
    return (first, last)

end CardLayout

end WriteBarrier
