/-
What the operations of a layout answer, in unbounded numbers. The card of a
covered address is a quotient; the cards of a region are an interval; and in
a layout whose rounding does not wrap (`CardLayout.Fits`) every card that an
address or a region inside the covered region reaches has a number below
`numCards`.
-/
import WriteBarrier.CardLayout.Extent
import WriteBarrier.Proofs.Alignment

namespace WriteBarrier.CardLayout

variable {l : CardLayout} {i : Nat} {a : Address} {r : Region}

/-- The card on which `a` lies, counted from the start of the covered region. -/
def card (l : CardLayout) (a : Nat) : Nat := (a - l.covered.start.toNat) / 2 ^ l.logBytesInCard

theorem onCard_iff_card (h : l.covered.start.toNat ≤ a.toNat) :
    l.OnCard i a.toNat ↔ l.card a.toNat = i := by
  rw [onCard_iff]
  exact and_iff_right h

/-! ## Answers -/

theorem ofCovered_eq_ok {covered : Region} {log : Nat} (h : ofCovered covered log = .ok l) :
    l.covered = covered ∧ l.logBytesInCard = log := by
  unfold ofCovered at h
  split at h
  · split at h
    · cases h
      exact ⟨rfl, rfl⟩
    · cases h
  · cases h

/-- Where a card can have this size, it is the start of the covered region that decides. -/
theorem ofCovered_of_dvd {covered : Region} {log : Nat} (hlog : log < 64)
    (h : 2 ^ log ∣ covered.start.toNat) : ∃ l, ofCovered covered log = .ok l := by
  have haligned : covered.start.isAligned (Word.twoPow log) = true :=
    (Word.isAligned_iff covered.start.word hlog).2 h
  exact ⟨_, by rw [ofCovered, dif_pos hlog, dif_pos haligned]⟩

theorem ofCovered_of_not_dvd {covered : Region} {log : Nat} (hlog : log < 64)
    (h : ¬ 2 ^ log ∣ covered.start.toNat) :
    ofCovered covered log = .error (.misalignedTable covered.start (Word.twoPow log)) := by
  have hmisaligned : ¬ covered.start.isAligned (Word.twoPow log) = true := fun haligned =>
    h ((Word.isAligned_iff covered.start.word hlog).1 haligned)
  rw [ofCovered, dif_pos hlog, dif_neg hmisaligned]

theorem indexOf_eq_ok (h : l.covered.contains a = true) : l.indexOf a = .ok (l.card a.toNat) := by
  have hle := (Region.contains_iff.1 h).1
  have hindex : cardIndex l.covered.start a l.logBytesInCard =
      .ok ((a.word - l.covered.start.word) >>> l.logBytesInCard.toUInt64) := by
    rw [cardIndex, Address.distanceFrom_eq_ok hle]
    exact Word.checkedShiftRight_eq_ok l.log_lt
  rw [indexOf, isCovered, if_pos h, hindex]
  show Except.ok _ = Except.ok _
  rw [Word.toNat_shiftRight _ l.log_lt, Word.toNat_sub_of_le hle]
  rfl

theorem indexOf_eq_error (h : ¬ l.covered.contains a = true) :
    l.indexOf a = .error (.addressNotCovered a l.covered) := if_neg h

theorem checkRegion_eq_ok (h : l.covered.containsRegion r = true) : l.checkRegion r = .ok () :=
  if_pos h

theorem checkRegion_eq_error (h : ¬ l.covered.containsRegion r = true) :
    l.checkRegion r = .error (.regionNotCovered r l.covered) := if_neg h

theorem cardRange_eq_ok (hne : r.isEmpty = false) (hin : l.covered.containsRegion r = true) :
    l.cardRange r = .ok (l.card r.start.toNat, l.card (r.stop.toNat - 1)) := by
  have hlt := Region.toNat_lt_of_isEmpty_eq_false hne
  obtain ⟨hstart, hstop⟩ := Region.containsRegion_iff.1 hin
  have hlast : (⟨r.stop.word - 1⟩ : Address).toNat = r.stop.toNat - 1 :=
    Word.toNat_sub_of_le (a := r.stop.word) (b := 1) (show 1 ≤ r.stop.toNat by omega)
  have hfirstIn : l.covered.contains r.start = true := Region.contains_iff.2 ⟨hstart, by omega⟩
  have hlastIn : l.covered.contains ⟨r.stop.word - 1⟩ = true :=
    Region.contains_iff.2 ⟨by omega, by omega⟩
  rw [cardRange, hne, if_neg Bool.false_ne_true, indexOf_eq_ok hfirstIn, Region.last_eq_ok hne]
  show (l.indexOf ⟨r.stop.word - 1⟩ >>= fun last => .ok (l.card r.start.toNat, last)) = _
  rw [indexOf_eq_ok hlastIn, hlast]
  rfl

/-! ## The cards there are -/

theorem Fits.numCards_eq (hfits : l.Fits) :
    l.numCards = (l.covered.size.toNat + 2 ^ l.logBytesInCard - 1) / 2 ^ l.logBytesInCard :=
  toNat_cardsNeeded l.log_lt hfits

theorem numCards_eq_zero (h : ¬ l.Fits) : l.numCards = 0 :=
  toNat_cardsNeeded_of_wraps l.log_lt h

theorem Fits.card_lt (hfits : l.Fits) (h : l.covered.contains a = true) :
    l.card a.toNat < l.numCards := by
  obtain ⟨hstart, hstop⟩ := Region.contains_iff.1 h
  have hpos : 0 < 2 ^ l.logBytesInCard := Nat.two_pow_pos _
  have hsize := l.covered.toNat_size
  rw [hfits.numCards_eq, card, Nat.lt_iff_add_one_le, Nat.le_div_iff_mul_le hpos, Nat.add_mul]
  have hbelow := Nat.div_mul_le_self (a.toNat - l.covered.start.toNat) (2 ^ l.logBytesInCard)
  omega

theorem Fits.lastCard_lt (hfits : l.Fits) (hne : r.isEmpty = false)
    (hin : l.covered.containsRegion r = true) : l.card (r.stop.toNat - 1) < l.numCards := by
  have hlt := Region.toNat_lt_of_isEmpty_eq_false hne
  obtain ⟨hstart, hstop⟩ := Region.containsRegion_iff.1 hin
  have hlast : (⟨r.stop.word - 1⟩ : Address).toNat = r.stop.toNat - 1 :=
    Word.toNat_sub_of_le (a := r.stop.word) (b := 1) (show 1 ≤ r.stop.toNat by omega)
  rw [← hlast]
  exact hfits.card_lt (Region.contains_iff.2 ⟨by omega, by omega⟩)

end WriteBarrier.CardLayout
