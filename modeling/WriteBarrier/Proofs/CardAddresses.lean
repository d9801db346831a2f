/-
From addresses to cards and back.

The card of an address is found by subtracting and shifting right, the start
of a card by shifting left and adding. On words either way can go wrong: a
shift to the left drops the bits that leave the word without a fault, and the
sum can leave it. Neither happens to a card that is there, and for one reason:
its start lies below the stop of the covered region (`Fits.lt_numCards_iff`), so
all that is computed on the way is below that stop too. That the two ways are
inverse is then arithmetic on quotients; only that a card's start is an
aligned address needs the alignment of the covered region.
-/
import WriteBarrier.Proofs.Marking

namespace WriteBarrier

/-! ## Words and addresses -/

theorem Word.toNat_shiftLeft {w : Word} {k : Nat} (hk : k < 64) (h : w.toNat * 2 ^ k < 2 ^ 64) :
    (w <<< k.toUInt64).toNat = w.toNat * 2 ^ k := by
  have hmod : k.toUInt64.toNat % 64 = k := by
    rw [Nat.toUInt64, UInt64.toNat_ofNat']
    omega
  rw [UInt64.toNat_shiftLeft, hmod, Nat.shiftLeft_eq, Nat.mod_eq_of_lt h]

namespace Address

theorem exists_toNat_eq {n : Nat} (h : n < 2 ^ 64) : ∃ a : Address, a.toNat = n :=
  ⟨⟨UInt64.ofNat n⟩, UInt64.toNat_ofNat_of_lt' h⟩

theorem plus_eq_ok {a : Address} {bytes : Word} (h : a.toNat + bytes.toNat < 2 ^ 64) :
    ∃ b, a.plus bytes = .ok b ∧ b.toNat = a.toNat + bytes.toNat := by
  refine ⟨⟨a.word + bytes⟩, ?_, ?_⟩
  · rw [plus, Word.checkedAdd_eq_ok_iff.2 ⟨h, rfl⟩]
    rfl
  · show (a.word + bytes).toNat = a.word.toNat + bytes.toNat
    rw [UInt64.toNat_add]
    exact Nat.mod_eq_of_lt h

theorem toNat_alignDown (a : Address) {k : Nat} (hk : k < 64) :
    (a.alignDown (Word.twoPow k)).toNat = a.toNat / 2 ^ k * 2 ^ k :=
  Word.toNat_alignDown a.word hk

end Address

/-! ## Cards -/

namespace CardLayout

variable {l : CardLayout} {i j : Nat} {a b : Address} {r : Region}

theorem dvd_start (l : CardLayout) : 2 ^ l.logBytesInCard ∣ l.covered.start.toNat :=
  (Word.isAligned_iff l.covered.start.word l.log_lt).1 l.start_aligned

theorem fits_of_lt (hi : i < l.numCards) : l.Fits := by
  by_contra hwraps
  rw [numCards_eq_zero hwraps] at hi
  omega

theorem Fits.lt_numCards_iff (hfits : l.Fits) :
    i < l.numCards ↔ i * 2 ^ l.logBytesInCard < l.covered.size.toNat := by
  have hpos : 0 < 2 ^ l.logBytesInCard := Nat.two_pow_pos _
  rw [hfits.numCards_eq, Nat.lt_iff_add_one_le, Nat.le_div_iff_mul_le hpos, Nat.add_mul]
  omega

/-- A card starts inside the covered region, in unbounded numbers. -/
theorem start_lt_stop (hi : i < l.numCards) :
    l.covered.start.toNat + i * 2 ^ l.logBytesInCard < l.covered.stop.toNat := by
  have hbelow := (fits_of_lt hi).lt_numCards_iff.1 hi
  rw [Region.toNat_size] at hbelow
  omega

theorem toNat_offset (hi : i < l.numCards) :
    (UInt64.ofNat i <<< l.logBytesInCard.toUInt64).toNat = i * 2 ^ l.logBytesInCard := by
  have hpos : 0 < 2 ^ l.logBytesInCard := Nat.two_pow_pos _
  have hstop : l.covered.stop.toNat < 2 ^ 64 := l.covered.stop.toNat_lt
  have hbelow := start_lt_stop hi
  have hle : i ≤ i * 2 ^ l.logBytesInCard := Nat.le_mul_of_pos_right i hpos
  have hindex : (UInt64.ofNat i).toNat = i := UInt64.toNat_ofNat_of_lt' (show i < 2 ^ 64 by omega)
  rw [Word.toNat_shiftLeft l.log_lt (by rw [hindex]; omega), hindex]

/-- **A card that is there has a start,** as many card sizes above the start of the covered region as
its number says. -/
theorem cardStart_eq_ok (hi : i < l.numCards) : ∃ a, l.cardStart i = .ok a ∧
    a.toNat = l.covered.start.toNat + i * 2 ^ l.logBytesInCard := by
  have hoffset := toNat_offset hi
  have hstop : l.covered.stop.toNat < 2 ^ 64 := l.covered.stop.toNat_lt
  have hbelow := start_lt_stop hi
  have hsum : l.covered.start.toNat + (UInt64.ofNat i <<< l.logBytesInCard.toUInt64).toNat < 2 ^ 64 := by
    rw [hoffset]
    omega
  obtain ⟨a, hplus, ha⟩ := Address.plus_eq_ok hsum
  have hcheck : l.checkIndex i = .ok () := if_pos hi
  refine ⟨a, ?_, by rw [ha, hoffset]⟩
  rw [cardStart, hcheck]
  show cardAddress l.covered.start (UInt64.ofNat i) l.logBytesInCard = .ok a
  rw [cardAddress, Word.checkedShiftLeft_eq_ok l.log_lt]
  exact hplus

theorem contains_of_start (hi : i < l.numCards)
    (ha : a.toNat = l.covered.start.toNat + i * 2 ^ l.logBytesInCard) :
    l.covered.contains a = true := by
  have hbelow := start_lt_stop hi
  exact Region.contains_iff.2 ⟨by omega, by omega⟩

theorem card_of_start (l : CardLayout) (i : Nat) :
    l.card (l.covered.start.toNat + i * 2 ^ l.logBytesInCard) = i := by
  rw [card, Nat.add_sub_cancel_left, Nat.mul_div_cancel _ (Nat.two_pow_pos _)]

theorem start_of_card (ha : l.covered.contains a = true) :
    l.covered.start.toNat + l.card a.toNat * 2 ^ l.logBytesInCard =
      a.toNat / 2 ^ l.logBytesInCard * 2 ^ l.logBytesInCard := by
  have hpos : 0 < 2 ^ l.logBytesInCard := Nat.two_pow_pos _
  obtain ⟨hstart, -⟩ := Region.contains_iff.1 ha
  obtain ⟨c, hc⟩ := l.dvd_start
  obtain ⟨d, hd⟩ := Nat.le.dest hstart
  rw [card, ← hd, Nat.add_sub_cancel_left, hc, Nat.mul_add_div hpos, Nat.add_mul, Nat.mul_comm]

theorem cardStart_card (hfits : l.Fits) (ha : l.covered.contains a = true) :
    l.cardStart (l.card a.toNat) = .ok (a.alignDown (Word.twoPow l.logBytesInCard)) := by
  obtain ⟨b, hb, hstart⟩ := cardStart_eq_ok (hfits.card_lt ha)
  rw [hb, ← Address.toNat_inj.1 (hstart.trans ((start_of_card ha).trans
    (a.toNat_alignDown l.log_lt).symm))]

theorem card_mono {m n : Nat} (h : m ≤ n) : l.card m ≤ l.card n :=
  Nat.div_le_div_right (Nat.sub_le_sub_right h _)

theorem between_iff_exists_index (hne : r.isEmpty = false)
    (hin : l.covered.containsRegion r = true) :
    (l.card r.start.toNat ≤ i ∧ i ≤ l.card (r.stop.toNat - 1)) ↔
      ∃ a, r.contains a = true ∧ l.indexOf a = .ok i := by
  obtain ⟨hstart, hstop⟩ := Region.containsRegion_iff.1 hin
  refine (touches_iff hne hstart).symm.trans
    ⟨fun ⟨n, hlo, hhi, hcard⟩ => ?_, fun ⟨a, ha, hindex⟩ => ?_⟩
  · have hlt : n < 2 ^ 64 := hhi.trans r.stop.toNat_lt
    obtain ⟨a, rfl⟩ := Address.exists_toNat_eq hlt
    refine ⟨a, Region.contains_iff.2 ⟨hlo, hhi⟩, ?_⟩
    rw [indexOf_eq_ok (Region.contains_iff.2 ⟨by omega, by omega⟩),
      (onCard_iff_card (by omega)).1 hcard]
  · obtain ⟨hlo, hhi⟩ := Region.contains_iff.1 ha
    rw [indexOf_eq_ok (Region.contains_iff.2 ⟨by omega, by omega⟩)] at hindex
    exact ⟨a.toNat, hlo, hhi, (onCard_iff_card (by omega)).2 (Except.ok.inj hindex)⟩

end CardLayout

/-! ## The two ways -/

namespace CardTable

variable {t : CardTable} {covered : Region} {log : Nat} {concurrent : Bool}

/-- **From a card to its start and from an address to its card are inverse, and neither overflows,** in
every new table whose rounding does not wrap. A card that is there starts where unbounded numbers say,
inside the covered region, and its start is on it, so each card is the card of an address. The card of
a covered address is there, and starts at the address rounded down, less than one card below it. Cards
ascend with their addresses. And the cards of a region that is not empty, first to last, are the cards
of its addresses. -/
theorem cards_and_addresses_inverse (hcreate : create covered log concurrent = .ok t)
    (hfits : covered.size.toNat ≤ 2 ^ 64 - 2 ^ log) :
    (∀ i < t.numCards, ∃ a, t.cardStart i = .ok a ∧
      a.toNat = covered.start.toNat + i * 2 ^ log ∧
      (UInt64.ofNat i <<< log.toUInt64).toNat = i * 2 ^ log ∧
      covered.contains a = true ∧ t.indexOf a = .ok i) ∧
    (∀ a, covered.contains a = true → ∃ i < t.numCards, t.indexOf a = .ok i ∧
      t.cardStart i = .ok (a.alignDown (Word.twoPow log)) ∧
      (a.alignDown (Word.twoPow log)).toNat ≤ a.toNat ∧
      a.toNat < (a.alignDown (Word.twoPow log)).toNat + 2 ^ log) ∧
    (∀ a b i j, covered.contains a = true → covered.contains b = true → a ≤ b →
      t.indexOf a = .ok i → t.indexOf b = .ok j → i ≤ j) ∧
    (∀ r, r.isEmpty = false → covered.containsRegion r = true → ∃ first last,
      t.cardRange r = .ok (first, last) ∧
      ∀ i, (first ≤ i ∧ i ≤ last) ↔ ∃ a, r.contains a = true ∧ t.indexOf a = .ok i) := by
  obtain ⟨rfl, rfl⟩ := CardLayout.ofCovered_eq_ok (create_eq_ok hcreate).1
  replace hfits : t.Fits := hfits
  refine ⟨fun i hi => ?_, fun a ha => ?_, fun a b i j ha hb hab hi hj => ?_, fun r hne hin => ?_⟩
  · obtain ⟨a, hstart, ha⟩ := CardLayout.cardStart_eq_ok hi
    have hin := CardLayout.contains_of_start hi ha
    refine ⟨a, hstart, ha, CardLayout.toNat_offset hi, hin, ?_⟩
    rw [CardLayout.indexOf_eq_ok hin, ha, CardLayout.card_of_start]
  · have hpos : 0 < 2 ^ t.logBytesInCard := Nat.two_pow_pos _
    have hbelow := Nat.div_mul_le_self a.toNat (2 ^ t.logBytesInCard)
    have habove := Nat.lt_div_mul_add (a := a.toNat) hpos
    refine ⟨t.card a.toNat, hfits.card_lt ha, CardLayout.indexOf_eq_ok ha,
      CardLayout.cardStart_card hfits ha, ?_⟩
    rw [a.toNat_alignDown t.log_lt]
    exact ⟨hbelow, habove⟩
  · rw [CardLayout.indexOf_eq_ok ha] at hi
    rw [CardLayout.indexOf_eq_ok hb] at hj
    cases hi
    cases hj
    exact CardLayout.card_mono (Address.le_iff.1 hab)
  · exact ⟨_, _, CardLayout.cardRange_eq_ok hne hin,
      fun i => CardLayout.between_iff_exists_index hne hin⟩

/-- A heap that ends one byte below the end of the address space: the start of its last card, the card
of its last address, and the cards of a region across a boundary. -/
theorem cards_and_addresses_inverse_top_of_memory :
    let covered : Region := ⟨⟨0xfffffffffffff000⟩, ⟨0xffffffffffffffff⟩, by decide⟩
    let last : Address := ⟨0xfffffffffffffffe⟩
    let r : Region := ⟨⟨0xfffffffffffffdf8⟩, ⟨0xfffffffffffffe01⟩, by decide⟩
    ∃ t, create covered 9 false = .ok t ∧ covered.size.toNat ≤ 2 ^ 64 - 2 ^ 9 ∧
      (∃ a, t.cardStart 7 = .ok a ∧ a.toNat = 2 ^ 64 - 512) ∧
      (∃ i < 8, t.indexOf last = .ok i ∧ t.cardStart i = .ok ⟨0xfffffffffffffe00⟩) ∧
      ∃ first last, t.cardRange r = .ok (first, last) ∧ first ≤ 6 ∧ 7 ≤ last := by
  intro covered last r
  have hcreate : create ⟨⟨0xfffffffffffff000⟩, ⟨0xffffffffffffffff⟩, by decide⟩ 9 false = .ok _ := rfl
  have hfits : covered.size.toNat ≤ 2 ^ 64 - 2 ^ 9 := by decide
  obtain ⟨hcards, haddresses, -, hregions⟩ := cards_and_addresses_inverse hcreate hfits
  obtain ⟨a, hstart, ha, -⟩ := hcards 7 (by decide)
  have hdown : last.alignDown (Word.twoPow 9) = ⟨0xfffffffffffffe00⟩ := by decide
  obtain ⟨i, hi, hindex, hcard, -⟩ := haddresses last (by decide)
  obtain ⟨first, final, hrange, hbetween⟩ := hregions r (by decide) (by decide)
  have h6 := (hbetween 6).2 ⟨⟨0xfffffffffffffdf8⟩, by decide, by decide⟩
  have h7 := (hbetween 7).2 ⟨⟨0xfffffffffffffe00⟩, by decide, by decide⟩
  exact ⟨_, hcreate, hfits, ⟨a, hstart, ha.trans (by decide)⟩,
    ⟨i, hi, hindex, hcard.trans (congrArg _ hdown)⟩, first, final, hrange, h6.1, h7.2⟩

end CardTable

end WriteBarrier
