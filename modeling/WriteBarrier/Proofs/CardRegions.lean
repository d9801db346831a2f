/-
The region of a card, and clearing a card through it.

A card's region is one card size from the card's start on, whatever the heap
does there. That is what the card covers of the heap as long as the card ends
inside it. The last card need not: where the heap stops in the middle of a card,
the card's region goes on past the stop, names addresses that are nobody's, and
is refused by the clearing pass, which checks regions against the heap; and
where the card reaches the end of the address space there is no region at all,
since its stop is no address. So a partial last card cannot be cleaned by its
region. Every other card can (`CardLayout.whole_iff`).
-/
import WriteBarrier.Proofs.CardAddresses

namespace WriteBarrier

/-! ## Regions of a given size -/

theorem Address.plus_eq_error {a : Address} {bytes : Word} (h : 2 ^ 64 ≤ a.toNat + bytes.toNat) :
    a.plus bytes = .error .sumOverflow := by
  have hover : ¬ a.word.toNat + bytes.toNat < UInt64.size := Nat.not_lt.2 h
  rw [plus, Word.checkedAdd, if_neg hover]
  rfl

namespace Region

variable {start : Address} {bytes : Word}

theorem sized_eq_ok (h : start.toNat + bytes.toNat < 2 ^ 64) : ∃ r, sized start bytes = .ok r ∧
    r.start = start ∧ r.stop.toNat = start.toNat + bytes.toNat := by
  obtain ⟨stop, hplus, hstop⟩ := Address.plus_eq_ok h
  have hle : start ≤ stop := Address.le_iff.2 (by omega)
  refine ⟨⟨start, stop, hle⟩, ?_, rfl, hstop⟩
  rw [sized, hplus]
  exact between_eq_ok hle

theorem sized_eq_error (h : 2 ^ 64 ≤ start.toNat + bytes.toNat) :
    sized start bytes = .error .sumOverflow := by
  rw [sized, Address.plus_eq_error h]
  rfl

end Region

/-! ## The region of a card -/

namespace CardLayout

variable {l : CardLayout} {i j : Nat} {a : Address} {r : Region}

/-- The end of card `i`, in unbounded numbers. -/
def cardStop (l : CardLayout) (i : Nat) : Nat :=
  l.covered.start.toNat + (i + 1) * 2 ^ l.logBytesInCard

/-- Card `i` ends inside the covered region. -/
def Whole (l : CardLayout) (i : Nat) : Prop := l.cardStop i ≤ l.covered.stop.toNat

/-- The region of card `i` is what the card has of the covered region. -/
def NamesCard (l : CardLayout) (i : Nat) : Prop :=
  ∃ r, l.cardRegion i = .ok r ∧
    ∀ a, r.contains a = true ↔ l.covered.contains a = true ∧ l.indexOf a = .ok i

theorem cardStop_eq (l : CardLayout) (i : Nat) : l.cardStop i =
    l.covered.start.toNat + i * 2 ^ l.logBytesInCard + 2 ^ l.logBytesInCard := by
  rw [cardStop, Nat.add_mul, Nat.one_mul, Nat.add_assoc]

theorem whole_iff_le_size : l.Whole i ↔ (i + 1) * 2 ^ l.logBytesInCard ≤ l.covered.size.toNat := by
  have hle := l.covered.toNat_le
  rw [Whole, cardStop, Region.toNat_size]
  omega

/-- **Every card is whole but the last, and the last is where the covered bytes are a multiple of the
card size.** -/
theorem whole_iff (hi : i < l.numCards) :
    l.Whole i ↔ i + 1 < l.numCards ∨ 2 ^ l.logBytesInCard ∣ l.covered.size.toNat := by
  have hfits := fits_of_lt hi
  have hbelow := hfits.lt_numCards_iff.1 hi
  rw [whole_iff_le_size, hfits.lt_numCards_iff]
  constructor
  · intro hwhole
    obtain hlt | heq := Nat.lt_or_eq_of_le hwhole
    · exact .inl hlt
    · exact .inr (heq ▸ Nat.dvd_mul_left _ _)
  · rintro (hlt | ⟨c, hc⟩)
    · exact Nat.le_of_lt hlt
    · rw [hc, Nat.mul_comm] at hbelow
      have hic : i < c := Nat.lt_of_mul_lt_mul_left hbelow
      rw [hc, Nat.mul_comm]
      exact Nat.mul_le_mul_left _ hic

theorem cardRegion_eq_sized (hi : i < l.numCards) :
    ∃ start, l.cardRegion i = Region.sized start l.bytesInCard ∧
      start.toNat = l.covered.start.toNat + i * 2 ^ l.logBytesInCard ∧
      start.toNat + l.bytesInCard.toNat = l.cardStop i := by
  have hbytes : l.bytesInCard.toNat = 2 ^ l.logBytesInCard := Word.toNat_twoPow l.log_lt
  obtain ⟨start, hstart, hstartNat⟩ := cardStart_eq_ok hi
  refine ⟨start, ?_, hstartNat, by rw [hstartNat, hbytes, cardStop_eq]⟩
  rw [cardRegion, hstart]
  rfl

theorem cardRegion_eq_ok (hi : i < l.numCards) (hstop : l.cardStop i < 2 ^ 64) :
    ∃ r, l.cardRegion i = .ok r ∧
      r.start.toNat = l.covered.start.toNat + i * 2 ^ l.logBytesInCard ∧
      r.stop.toNat = l.cardStop i := by
  obtain ⟨start, hregion, hstart, hsum⟩ := cardRegion_eq_sized hi
  obtain ⟨r, hsized, rfl, hend⟩ := Region.sized_eq_ok (hsum ▸ hstop)
  exact ⟨r, hregion.trans hsized, hstart, hend.trans hsum⟩

/-- A card that reaches the end of the address space has no region. -/
theorem cardRegion_eq_error (hi : i < l.numCards) (hstop : 2 ^ 64 ≤ l.cardStop i) :
    l.cardRegion i = .error .sumOverflow := by
  obtain ⟨start, hregion, -, hsum⟩ := cardRegion_eq_sized hi
  exact hregion.trans (Region.sized_eq_error (hsum ▸ hstop))

theorem contains_and_indexOf_iff :
    (l.covered.contains a = true ∧ l.indexOf a = .ok i) ↔
      l.covered.contains a = true ∧ l.OnCard i a.toNat := by
  refine and_congr_right fun ha => ?_
  rw [indexOf_eq_ok ha, onCard_iff_card (Region.contains_iff.1 ha).1]
  exact ⟨Except.ok.inj, congrArg _⟩

theorem onCard_iff_between {n : Nat}
    (hstart : r.start.toNat = l.covered.start.toNat + i * 2 ^ l.logBytesInCard)
    (hstop : r.stop.toNat = l.cardStop i) :
    l.OnCard i n ↔ r.start.toNat ≤ n ∧ n < r.stop.toNat := by
  rw [hstart, hstop]
  exact Iff.rfl

theorem contains_iff_onCard (hstart : r.start.toNat = l.covered.start.toNat + i * 2 ^ l.logBytesInCard)
    (hstop : r.stop.toNat = l.cardStop i) : r.contains a = true ↔ l.OnCard i a.toNat :=
  Region.contains_iff.trans (onCard_iff_between hstart hstop).symm

theorem Whole.contains (h : l.Whole i) (ha : l.OnCard i a.toNat) : l.covered.contains a = true := by
  obtain ⟨hlo, hhi⟩ := ha
  exact Region.contains_iff.2 ⟨by omega, Nat.lt_of_lt_of_le hhi h⟩

theorem Whole.lt (h : l.Whole i) : l.cardStop i < 2 ^ 64 :=
  Nat.lt_of_le_of_lt h l.covered.stop.toNat_lt

theorem NamesCard.contains_iff (h : l.NamesCard i) (hr : l.cardRegion i = .ok r) :
    r.contains a = true ↔ l.covered.contains a = true ∧ l.indexOf a = .ok i := by
  obtain ⟨r', hr', hnames⟩ := h
  rw [hr] at hr'
  cases hr'
  exact hnames a

/-- **The region of a card names the card exactly where the card is whole.** -/
theorem namesCard_iff (hi : i < l.numCards) : l.NamesCard i ↔ l.Whole i := by
  constructor
  · intro hnames
    by_contra hpartial
    have hcut : l.covered.stop.toNat < l.cardStop i := Nat.not_le.1 hpartial
    obtain hstop | hover := Nat.lt_or_ge (l.cardStop i) (2 ^ 64)
    · obtain ⟨r, hr, hstart, hend⟩ := cardRegion_eq_ok hi hstop
      -- The stop of the covered region is on the card, but not covered.
      have hon : l.OnCard i l.covered.stop.toNat := ⟨Nat.le_of_lt (start_lt_stop hi), hcut⟩
      have hcovered := ((hnames.contains_iff hr).1 ((contains_iff_onCard hstart hend).2 hon)).1
      exact Nat.lt_irrefl _ (Region.contains_iff.1 hcovered).2
    · obtain ⟨r, hr, -⟩ := hnames
      rw [cardRegion_eq_error hi hover] at hr
      cases hr
  · intro hwhole
    obtain ⟨r, hr, hstart, hend⟩ := cardRegion_eq_ok hi hwhole.lt
    refine ⟨r, hr, fun a => ?_⟩
    rw [contains_iff_onCard hstart hend, contains_and_indexOf_iff]
    exact ⟨fun ha => ⟨hwhole.contains ha, ha⟩, And.right⟩

theorem namesCard_of_dvd (h : 2 ^ l.logBytesInCard ∣ l.covered.size.toNat) (hi : i < l.numCards) :
    l.NamesCard i :=
  (namesCard_iff hi).2 ((whole_iff hi).2 (.inr h))

theorem touches_iff_eq (hstart : r.start.toNat = l.covered.start.toNat + i * 2 ^ l.logBytesInCard)
    (hstop : r.stop.toNat = l.cardStop i) : l.Touches j r ↔ j = i := by
  have hpos : 0 < 2 ^ l.logBytesInCard := Nat.two_pow_pos _
  have hend := l.cardStop_eq i
  have hlt : r.start.toNat < r.stop.toNat := by omega
  constructor
  · rintro ⟨n, hlo, hhi, hj⟩
    have hi : l.OnCard i n := (onCard_iff_between hstart hstop).2 ⟨hlo, hhi⟩
    rw [← (onCard_iff.1 hj).2, (onCard_iff.1 hi).2]
  · rintro rfl
    exact ⟨r.start.toNat, Nat.le_refl _, hlt,
      (onCard_iff_between hstart hstop).2 ⟨Nat.le_refl _, hlt⟩⟩

theorem fits_of_dvd (h : 2 ^ l.logBytesInCard ∣ l.covered.size.toNat) : l.Fits := by
  have hlt : l.covered.size.toNat < 2 ^ 64 := UInt64.toNat_lt _
  have hdvd : 2 ^ l.logBytesInCard ∣ 2 ^ 64 := Nat.pow_dvd_pow 2 (Nat.le_of_lt l.log_lt)
  have hgap := Nat.le_of_dvd (Nat.sub_pos_of_lt hlt) (Nat.dvd_sub hdvd h)
  unfold Fits
  omega

/-- **The regions of whole cards are the covered region, cut into pieces:** each covered address is in
the region of exactly one card, and no other address is. -/
theorem contains_iff_existsUnique_card (h : 2 ^ l.logBytesInCard ∣ l.covered.size.toNat) :
    l.covered.contains a = true ↔
      ∃! i, i < l.numCards ∧ ∃ r, l.cardRegion i = .ok r ∧ r.contains a = true := by
  constructor
  · intro ha
    have hlt := (fits_of_dvd h).card_lt ha
    have hindex := indexOf_eq_ok ha
    obtain ⟨r, hr, hnames⟩ := namesCard_of_dvd h hlt
    refine ⟨l.card a.toNat, ⟨hlt, r, hr, (hnames a).2 ⟨ha, hindex⟩⟩, ?_⟩
    rintro j ⟨hj, r', hr', hin⟩
    obtain ⟨-, hindex'⟩ := ((namesCard_of_dvd h hj).contains_iff hr').1 hin
    exact Except.ok.inj (hindex'.symm.trans hindex)
  · rintro ⟨i, ⟨hi, r, hr, hin⟩, -⟩
    exact (((namesCard_of_dvd h hi).contains_iff hr).1 hin).1

end CardLayout

/-! ## Clearing through the region -/

namespace CardTable

variable {t t₀ : CardTable} {i : Nat} {r covered : Region} {log : Nat} {concurrent : Bool}

/-- Clearing card `i` through its region cleans it, and leaves every other card as it was. -/
def ClearsCard (t : CardTable) (i : Nat) : Prop :=
  ∃ t', (clearCard i).run t = ⟨.ok (), t', []⟩ ∧ t'.toCardLayout = t.toCardLayout ∧
    ∀ j, t'.hasDirty j = true ↔ t.hasDirty j = true ∧ j ≠ i

theorem clearCard_eq_clearRange (h : t.cardRegion i = .ok r) :
    (clearCard i).run t = (clearRange r).run t := by
  rw [clearCard, Action.run_inspect_bind_ok (f := fun t : CardTable => t.cardRegion i) h]

theorem clearCard_eq_error {f : Fault} (h : t.cardRegion i = .error f) :
    (clearCard i).run t = ⟨.error f, t, []⟩ := by
  rw [clearCard, Action.run_inspect_bind_error (f := fun t : CardTable => t.cardRegion i) h]

theorem clearsCard_of_whole (hi : i < t.numCards) (hwhole : t.Whole i) : t.ClearsCard i := by
  have hfits := CardLayout.fits_of_lt hi
  obtain ⟨r, hr, hstart, hstop⟩ := CardLayout.cardRegion_eq_ok hi hwhole.lt
  have hin : t.covered.containsRegion r = true :=
    Region.containsRegion_iff.2 ⟨by omega, hstop ▸ hwhole⟩
  refine ⟨t.paint .clean r, ?_, toCardLayout_paint _ _ _, fun j => ?_⟩
  · rw [clearCard_eq_clearRange hr, clearRange, storeRegion_eq_ok hfits hin]
  · rw [hasDirty_paint hfits hin, CardLayout.touches_iff_eq hstart hstop]
    simp

/-- A card that ends outside the covered region is refused, although it is there. -/
theorem clearCard_of_not_whole (hpartial : ¬ t.Whole i) (hr : t.cardRegion i = .ok r)
    (hstop : r.stop.toNat = t.cardStop i) :
    (clearCard i).run t = ⟨.error (.regionNotCovered r t.covered), t, []⟩ := by
  rw [clearCard_eq_clearRange hr, clearRange, storeRegion_eq_error]
  intro hin
  have hend := (Region.containsRegion_iff.1 hin).2
  rw [hstop] at hend
  exact hpartial hend

/-- **A card can be cleaned through its region exactly where it is whole.** -/
theorem clearsCard_iff (hi : i < t.numCards) : t.ClearsCard i ↔ t.Whole i := by
  refine ⟨fun ⟨t', hrun, _⟩ => ?_, clearsCard_of_whole hi⟩
  by_contra hpartial
  obtain hlt | hover := Nat.lt_or_ge (t.cardStop i) (2 ^ 64)
  · obtain ⟨r, hr, -, hstop⟩ := CardLayout.cardRegion_eq_ok hi hlt
    rw [clearCard_of_not_whole hpartial hr hstop] at hrun
    cases hrun
  · rw [clearCard_eq_error (CardLayout.cardRegion_eq_error hi hover)] at hrun
    cases hrun

/-- **The region of a card names the card, and cleans it, exactly where the card ends inside the covered
region.** Take a new table, any changes to its cards, and a card that is there. Every card ends inside
but possibly the last, and the last does where the covered bytes are a multiple of the card size; then
the regions of all cards cut the covered region into pieces. A partial last card has the region of a whole
one, which goes past the covered region and is refused when it is to be cleared; and where its end is no
address it has none, so both are faults. A fault leaves the table as it was. -/
theorem card_region_names_card_iff_whole (hcreate : create covered log concurrent = .ok t₀)
    (ht : t.toCardLayout = t₀.toCardLayout) (hi : i < t.numCards) :
    let stop := covered.start.toNat + (i + 1) * 2 ^ log
    (t.NamesCard i ↔ stop ≤ covered.stop.toNat) ∧ (t.ClearsCard i ↔ stop ≤ covered.stop.toNat) ∧
    (stop ≤ covered.stop.toNat ↔ i + 1 < t.numCards ∨ 2 ^ log ∣ covered.size.toNat) ∧
    (2 ^ log ∣ covered.size.toNat → ∀ a, covered.contains a = true ↔
      ∃! j, j < t.numCards ∧ ∃ r, t.cardRegion j = .ok r ∧ r.contains a = true) ∧
    (covered.stop.toNat < stop → stop < 2 ^ 64 → ∃ r, t.cardRegion i = .ok r ∧
      (∀ a, r.contains a = true ↔ t.OnCard i a.toNat) ∧
      (clearCard i).run t = ⟨.error (.regionNotCovered r covered), t, []⟩) ∧
    (2 ^ 64 ≤ stop → t.cardRegion i = .error .sumOverflow ∧
      (clearCard i).run t = ⟨.error .sumOverflow, t, []⟩) := by
  obtain ⟨hcovered, hlog⟩ := CardLayout.ofCovered_eq_ok (create_eq_ok hcreate).1
  rw [← ht] at hcovered hlog
  subst hcovered hlog
  refine ⟨CardLayout.namesCard_iff hi, clearsCard_iff hi, CardLayout.whole_iff hi,
    fun hdvd a => CardLayout.contains_iff_existsUnique_card hdvd, fun hcut hlt => ?_, fun hover => ?_⟩
  · obtain ⟨r, hr, hstart, hstop⟩ := CardLayout.cardRegion_eq_ok hi hlt
    exact ⟨r, hr, fun a => CardLayout.contains_iff_onCard hstart hstop,
      clearCard_of_not_whole (Nat.not_le.2 hcut) hr hstop⟩
  · have hnone := CardLayout.cardRegion_eq_error hi hover
    exact ⟨hnone, clearCard_eq_error hnone⟩

/-- Two cards, the second of which has one covered byte: the first is named and cleaned, and the second,
dirty, is neither. -/
theorem card_region_names_card_iff_whole_partial_card :
    let r : Region := ⟨⟨0x1000⟩, ⟨0x1201⟩, by decide⟩
    ∃ t₀, create r 9 false = .ok t₀ ∧
      let t := ((markDirtyRange r).run t₀).state
      t.toCardLayout = t₀.toCardLayout ∧ t.dirtyCards = [0, 1] ∧ t.NamesCard 0 ∧ t.ClearsCard 0 ∧
      ¬ t.NamesCard 1 ∧ ∃ region, t.cardRegion 1 = .ok region ∧ region.contains ⟨0x13ff⟩ = true ∧
        (clearCard 1).run t = ⟨.error (.regionNotCovered region r), t, []⟩ := by
  intro r
  have hcreate : create ⟨⟨0x1000⟩, ⟨0x1201⟩, by decide⟩ 9 false = .ok _ := rfl
  refine ⟨_, hcreate, ?_⟩
  intro t
  have ht : t.toCardLayout = ⟨r, 9, by decide, by decide⟩ := by decide +kernel
  obtain ⟨hnames, hclears, -⟩ := card_region_names_card_iff_whole (i := 0) hcreate ht (by decide)
  obtain ⟨hnames', -, -, -, hpartial, -⟩ :=
    card_region_names_card_iff_whole (i := 1) hcreate ht (by decide)
  obtain ⟨region, hregion, hon, hclear⟩ := hpartial (by decide) (by decide)
  refine ⟨ht, by decide +kernel, hnames.2 (by decide), hclears.2 (by decide),
    fun h => absurd (hnames'.1 h) (by decide), region, hregion, (hon _).2 (by decide), hclear⟩

/-- The region of a card is not always what the card has of the covered region, and does not always
clean it. -/
theorem card_region_can_overrun :
    ¬ ∀ (covered : Region) (log : Nat) (concurrent : Bool) (t : CardTable),
      create covered log concurrent = .ok t → ∀ i < t.numCards, t.NamesCard i ∧ t.ClearsCard i := by
  intro h
  have hcreate : create ⟨⟨0x1000⟩, ⟨0x1201⟩, by decide⟩ 9 false = .ok _ := rfl
  obtain ⟨hnames, -⟩ := h _ _ _ _ hcreate 1 (by decide)
  have hwhole := (CardLayout.namesCard_iff (by decide)).1 hnames
  exact absurd hwhole (by unfold CardLayout.Whole; decide)

end CardTable

end WriteBarrier
