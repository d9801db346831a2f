/-
Whether a table has enough cards.

The count is the ceiling of the covered bytes over the size of a card, computed
with words: round up, then shift. Rounding up wraps to zero where the multiple
above is no word, so a region that comes within one card of the whole address
space gets a table without cards, although creating it is no fault and its range
checks, which compare addresses, pass as ever. The first store then runs off the
end of the array. Everywhere else the count is exact, and whatever passes the
check can be marked, cleaned and discharged.
-/
import WriteBarrier.Proofs.Discharge

namespace WriteBarrier

/-! ## The count -/

namespace CardLayout

variable {l : CardLayout}

theorem size_pos_of_not_fits (h : ¬ l.Fits) : 0 < l.covered.size.toNat := by
  unfold Fits at h
  omega

theorem Fits.numCards_eq_ceilDiv (hfits : l.Fits) :
    l.numCards = l.covered.size.toNat ⌈/⌉ 2 ^ l.logBytesInCard := by
  rw [hfits.numCards_eq, Nat.ceilDiv_eq_add_pred_div]

/-- **The count is the ceiling exactly where the rounding does not wrap.** -/
theorem numCards_eq_ceilDiv_iff :
    l.numCards = l.covered.size.toNat ⌈/⌉ 2 ^ l.logBytesInCard ↔ l.Fits := by
  refine ⟨fun heq => ?_, Fits.numCards_eq_ceilDiv⟩
  by_contra hwraps
  have hpos : 0 < 2 ^ l.logBytesInCard := Nat.two_pow_pos _
  have hceil : l.covered.size.toNat ⌈/⌉ 2 ^ l.logBytesInCard = 0 := by
    rw [← heq, numCards_eq_zero hwraps]
  have hsize := size_pos_of_not_fits hwraps
  rw [Nat.ceilDiv_eq_add_pred_div, Nat.div_eq_zero_iff] at hceil
  omega

theorem contains_start_of_not_fits (h : ¬ l.Fits) : l.covered.contains l.covered.start = true := by
  have hsize := size_pos_of_not_fits h
  rw [Region.toNat_size] at hsize
  exact Region.contains_iff.2 ⟨Nat.le_refl _, by omega⟩

theorem indexOf_lt_iff :
    (∀ a, l.covered.contains a = true → ∃ i, l.indexOf a = .ok i ∧ i < l.numCards) ↔ l.Fits := by
  refine ⟨fun h => ?_, fun hfits a ha => ⟨l.card a.toNat, indexOf_eq_ok ha, hfits.card_lt ha⟩⟩
  by_contra hwraps
  obtain ⟨i, -, hlt⟩ := h l.covered.start (contains_start_of_not_fits hwraps)
  rw [numCards_eq_zero hwraps] at hlt
  omega

theorem checkRegion_eq_ok_iff {r : Region} :
    l.checkRegion r = .ok () ↔ l.covered.containsRegion r = true := by
  unfold checkRegion
  split
  · simp [*]
  · simp [*]

end CardLayout

/-! ## What passes the check -/

namespace CardTable

variable {t t₀ : CardTable} {c : Card} {r covered : Region} {log : Nat} {concurrent : Bool}

theorem storeRegion_answer_iff (c : Card) (hin : t.covered.containsRegion r = true) :
    ((storeRegion c r).run t).answer = .ok () ↔ t.Fits ∨ r.isEmpty = true := by
  by_cases hfits : t.Fits
  · rw [storeRegion_eq_ok hfits hin]
    simp [hfits]
  · by_cases hempty : r.isEmpty = true
    · rw [storeRegion_of_isEmpty hempty hin]
      simp [hempty]
    · have hne : r.isEmpty = false := by simpa using hempty
      rw [storeRegion_of_not_fits hfits hne hin]
      simp [hfits, hempty]

theorem storeRegion_total_iff (c : Card) :
    (∀ r, t.checkRegion r = .ok () → ((storeRegion c r).run t).answer = .ok ()) ↔ t.Fits := by
  refine ⟨fun h => ?_, fun hfits r hr => ?_⟩
  · by_contra hwraps
    have hin : t.covered.containsRegion t.covered = true :=
      Region.containsRegion_iff.2 ⟨Nat.le_refl _, Nat.le_refl _⟩
    have hsize := CardLayout.size_pos_of_not_fits hwraps
    have hok := (storeRegion_answer_iff c hin).1 (h _ (CardLayout.checkRegion_eq_ok hin))
    obtain hfits | hempty := hok
    · exact hwraps hfits
    · rw [Region.isEmpty_iff] at hempty
      rw [Region.toNat_size] at hsize
      omega
  · exact (storeRegion_answer_iff c (CardLayout.checkRegion_eq_ok_iff.1 hr)).2 (.inl hfits)

/-- **A table has enough cards exactly where its rounding does not wrap,** that is for up to
`2 ^ 64 - 2 ^ log` bytes. Exactly there the count is the ceiling; exactly there each covered address
has its card; and exactly there every region that passes the check can be marked and cleaned. An
attached thread's obligation for such a region can be discharged there too. Elsewhere there is no card
at all, and marking, cleaning or discharging a region that is not empty is a fault. -/
theorem enough_cards_iff_fits (hcreate : create covered log concurrent = .ok t₀)
    (ht : t.toCardLayout = t₀.toCardLayout) :
    (t.Fits ↔ covered.size.toNat ≤ 2 ^ 64 - 2 ^ log) ∧
    (t.numCards = covered.size.toNat ⌈/⌉ 2 ^ log ↔ t.Fits) ∧
    ((∀ a, covered.contains a = true → ∃ i, t.indexOf a = .ok i ∧ i < t.numCards) ↔ t.Fits) ∧
    ((∀ r, t.checkRegion r = .ok () → ((markDirtyRange r).run t).answer = .ok ()) ↔ t.Fits) ∧
    ((∀ r, t.checkRegion r = .ok () → ((clearRange r).run t).answer = .ok ()) ↔ t.Fits) ∧
    (∀ (s : Registry) id r deferred, (s.mark id).attached = true → (s.mark id).pending = some r →
      t.checkRegion r = .ok () →
      (((Registry.discharge (.cardTable deferred) id).run (s, t)).answer = .ok () ↔
        t.Fits ∨ r.isEmpty = true)) ∧
    (¬ t.Fits → t.numCards = 0 ∧ ∀ r, t.checkRegion r = .ok () → r.isEmpty = false →
      ∃ i, (markDirtyRange r).run t = ⟨.error (.storeOutOfBounds 0 i), t, []⟩ ∧
        (clearRange r).run t = ⟨.error (.storeOutOfBounds 0 i), t, []⟩) := by
  obtain ⟨hcovered, hlog⟩ := CardLayout.ofCovered_eq_ok (create_eq_ok hcreate).1
  rw [← ht] at hcovered hlog
  subst hcovered hlog
  refine ⟨Iff.rfl, CardLayout.numCards_eq_ceilDiv_iff, CardLayout.indexOf_lt_iff,
    storeRegion_total_iff .dirty, storeRegion_total_iff .clean, ?_, fun hwraps => ?_⟩
  · intro s id r deferred hattached hpending hr
    rw [Registry.discharge_of_pending hattached hpending]
    exact storeRegion_answer_iff .dirty (CardLayout.checkRegion_eq_ok_iff.1 hr)
  · refine ⟨CardLayout.numCards_eq_zero hwraps, fun r hr hne => ?_⟩
    have hin := CardLayout.checkRegion_eq_ok_iff.1 hr
    exact ⟨t.card r.start.toNat, storeRegion_of_not_fits hwraps hne hin,
      storeRegion_of_not_fits hwraps hne hin⟩

/-- All addresses but the last, in cards of half the address space: two cards are needed, and there is
none. -/
theorem enough_cards_iff_fits_huge_heap :
    ∃ t, create ⟨⟨0⟩, ⟨0xffffffffffffffff⟩, by decide⟩ 63 false = .ok t ∧ ¬ t.Fits ∧
      t.numCards = 0 ∧ 0xffffffffffffffff ⌈/⌉ 2 ^ 63 = 2 ∧
      t.checkRegion ⟨⟨0⟩, ⟨8⟩, by decide⟩ = .ok () ∧
      ∃ i, (markDirtyRange ⟨⟨0⟩, ⟨8⟩, by decide⟩).run t = ⟨.error (.storeOutOfBounds 0 i), t, []⟩ := by
  have hcreate : create ⟨⟨0⟩, ⟨0xffffffffffffffff⟩, by decide⟩ 63 false = .ok _ := rfl
  refine ⟨_, hcreate, by decide, ?_⟩
  obtain ⟨-, -, -, -, -, -, hwraps⟩ := enough_cards_iff_fits hcreate rfl
  obtain ⟨hnone, hrange⟩ := hwraps (by decide)
  have hceil : 0xffffffffffffffff ⌈/⌉ 2 ^ 63 = 2 := by
    norm_num [Nat.ceilDiv_eq_add_pred_div]
  obtain ⟨i, hmark, -⟩ := hrange ⟨⟨0⟩, ⟨8⟩, by decide⟩ rfl rfl
  exact ⟨hnone, hceil, rfl, i, hmark⟩

/-- The number of cards is not always the ceiling, and what passes the check cannot always be
marked. -/
theorem rounding_can_wrap :
    ¬ ∀ (covered : Region) (log : Nat) (concurrent : Bool) (t : CardTable),
      create covered log concurrent = .ok t →
        t.numCards = covered.size.toNat ⌈/⌉ 2 ^ log ∧
        ∀ r, t.checkRegion r = .ok () → ((markDirtyRange r).run t).answer = .ok () := by
  intro h
  obtain ⟨hcount, -⟩ := h ⟨⟨0⟩, ⟨0xffffffffffffffff⟩, by decide⟩ 63 false _ rfl
  rw [Nat.ceilDiv_eq_add_pred_div] at hcount
  exact absurd hcount (by decide)

end CardTable

end WriteBarrier
