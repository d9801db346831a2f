/-
Why an operation can fail. Every fault is a cause with what it is about; the
wording is in `Fault.message` and nowhere else.

A fault ends the operation that met it, and what that operation had already
stored stays stored (`WriteBarrier.Action`).
-/
import WriteBarrier.Region
import WriteBarrier.Thread

namespace WriteBarrier

inductive Fault where
  /-- A sum leaves the word. -/
  | sumOverflow
  /-- A difference would be negative. -/
  | differenceOverflow
  /-- A shift to the left by the width of a word or more. -/
  | leftShiftOverflow
  /-- A shift to the right by the width of a word or more. -/
  | rightShiftOverflow
  /-- The distance from `base` is asked of an address below it. -/
  | belowBase (a base : Address)
  /-- A region's start lies above its stop. -/
  | invertedRegion (start stop : Address)
  /-- The last address of an empty region. -/
  | lastOfEmpty
  /-- The range of cards of an empty region. -/
  | cardsOfEmpty
  /-- A table's covered region does not start at a multiple of the card size. -/
  | misalignedTable (start : Address) (bytesInCard : Word)
  | addressNotCovered (a : Address) (covered : Region)
  | regionNotCovered (r covered : Region)
  /-- No such card. -/
  | noCard (index numCards : Nat)
  /-- A store past the end of the card array. -/
  | storeOutOfBounds (numCards index : Nat)
  /-- The deferred mark to discharge belongs to a thread that has left. -/
  | dischargingDetached
  | alreadyAttached (t : Thread)
  | notAttached (t : Thread)
  /-- A thread leaves the registry while its deferred mark is pending. -/
  | undischarged (t : Thread)
  /-- A deferred mark takes on an object while it owes another. -/
  | stillOwing (owed : Region)
  deriving DecidableEq

def Fault.message : Fault → String
  | sumOverflow => "attempt to add with overflow"
  | differenceOverflow => "attempt to subtract with overflow"
  | leftShiftOverflow => "attempt to shift left with overflow"
  | rightShiftOverflow => "attempt to shift right with overflow"
  | belowBase a base => s!"for (addr_a - addr_b), a({a}) needs to be larger than b({base})"
  | invertedRegion start stop => s!"Invalid region: start {start} is above end {stop}"
  | lastOfEmpty => "assertion failed: !self.is_empty()"
  | cardsOfEmpty => "assertion failed: !region.is_empty()"
  | misalignedTable start bytesInCard =>
      s!"Card table start {start} is not aligned to the card size {bytesInCard}"
  | addressNotCovered a covered =>
      s!"Address {a} is outside the range {covered} covered by the card table"
  | regionNotCovered r covered =>
      s!"Region {r} is outside the range {covered} covered by the card table"
  | noCard index numCards =>
      s!"Card index {index} is out of range (the table has {numCards} cards)"
  | storeOutOfBounds numCards index =>
      s!"index out of bounds: the len is {numCards} but the index is {index}"
  | dischargingDetached =>
      "Discharging the deferred card mark of a thread that is not attached"
  | alreadyAttached t => s!"Thread {t} is already attached"
  | notAttached t => s!"Thread {t} is not attached"
  | undischarged t => s!"Thread {t} detached with an undischarged card mark"
  | stillOwing owed => s!"Some({owed}) was not discharged"

end WriteBarrier
