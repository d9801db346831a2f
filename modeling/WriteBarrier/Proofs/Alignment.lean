/-
The mask formulas of `WriteBarrier.Word` as arithmetic: for a power of two
below the width of a word, clearing the low bits rounds down to a multiple,
and adding before clearing rounds up — to zero where the multiple above does
not fit into a word.
-/
import Mathlib
import WriteBarrier.Word.Power
import WriteBarrier.CardLayout

namespace WriteBarrier

namespace Word

theorem toNat_twoPow_sub_one {k : Nat} (hk : k < 64) : (twoPow k - 1).toNat = 2 ^ k - 1 := by
  have hpos : 0 < 2 ^ k := Nat.two_pow_pos k
  rw [toNat_sub_of_le (by rw [toNat_twoPow hk]; exact hpos), toNat_twoPow hk, UInt64.toNat_one]

theorem testBit_not_mask {k : Nat} (hk : k < 64) (i : Nat) :
    (~~~(twoPow k - 1)).toNat.testBit i = (decide (i < 64) && decide (k ≤ i)) := by
  have hlt : 2 ^ k - 1 < 2 ^ 64 := by
    have := Nat.pow_lt_pow_right (a := 2) (by decide) hk
    omega
  have hnot : (~~~(twoPow k - 1)).toNat = 2 ^ 64 - (2 ^ k - 1 + 1) := by
    rw [UInt64.toNat_not, toNat_twoPow_sub_one hk]
    show 2 ^ 64 - 1 - (2 ^ k - 1) = 2 ^ 64 - (2 ^ k - 1 + 1)
    omega
  rw [hnot, Nat.testBit_two_pow_sub_succ hlt, Nat.testBit_two_pow_sub_one]
  by_cases h : i < k
  · simp [h]
  · simp [h, Nat.le_of_not_lt h]

theorem isAligned_iff (w : Word) {k : Nat} (hk : k < 64) :
    w.isAligned (twoPow k) = true ↔ 2 ^ k ∣ w.toNat := by
  rw [isAligned, beq_iff_eq, ← UInt64.toNat_inj, UInt64.toNat_and, toNat_twoPow_sub_one hk,
    Nat.and_two_pow_sub_one_eq_mod, UInt64.toNat_zero, Nat.dvd_iff_mod_eq_zero]

/-- **Clearing the low bits rounds down** to a multiple. -/
theorem toNat_alignDown (w : Word) {k : Nat} (hk : k < 64) :
    (w.alignDown (twoPow k)).toNat = w.toNat / 2 ^ k * 2 ^ k := by
  rw [← Nat.shiftRight_eq_div_pow, ← Nat.shiftLeft_eq]
  apply Nat.eq_of_testBit_eq
  intro i
  rw [alignDown, UInt64.toNat_and, Nat.testBit_and, testBit_not_mask hk, Nat.testBit_shiftLeft,
    Nat.testBit_shiftRight]
  by_cases hi : k ≤ i
  · have hback : k + (i - k) = i := by omega
    rw [hback]
    by_cases h64 : i < 64
    · simp [hi, h64]
    · have hz : w.toNat.testBit i = false := by
        refine Nat.testBit_eq_false_of_lt (Nat.lt_of_lt_of_le w.toNat_lt ?_)
        exact Nat.pow_le_pow_right (by decide) (by omega)
      simp [hz]
  · simp [hi]

/-- **Rounding up** gives the multiple above where that is a word, and zero where it is not. -/
theorem toNat_alignUp (w : Word) {k : Nat} (hk : k < 64) :
    (w.alignUp (twoPow k)).toNat =
      if w.toNat ≤ 2 ^ 64 - 2 ^ k then (w.toNat + 2 ^ k - 1) / 2 ^ k * 2 ^ k else 0 := by
  have hpos : 0 < 2 ^ k := Nat.two_pow_pos k
  have hhalf : 2 ^ k ≤ 2 ^ 63 := Nat.pow_le_pow_right (by decide) (by omega)
  have hw := w.toNat_lt
  have hassoc : w + twoPow k - 1 = w + (twoPow k - 1) := by
    rw [UInt64.sub_eq_add_neg, UInt64.sub_eq_add_neg, UInt64.add_assoc]
  have hsum : (w + twoPow k - 1).toNat = (w.toNat + (2 ^ k - 1)) % 2 ^ 64 := by
    rw [hassoc, UInt64.toNat_add, toNat_twoPow_sub_one hk]
  have hdown := toNat_alignDown (w + twoPow k - 1) hk
  rw [alignDown, hsum] at hdown
  rw [alignUp, hdown]
  split
  · rw [Nat.mod_eq_of_lt (by omega)]
    congr 2
    omega
  · -- The sum wraps to less than one multiple.
    have hwrap : (w.toNat + (2 ^ k - 1)) % 2 ^ 64 < 2 ^ k := by omega
    rw [Nat.div_eq_of_lt hwrap, Nat.zero_mul]

theorem toNat_shiftRight (w : Word) {k : Nat} (hk : k < 64) :
    (w >>> k.toUInt64).toNat = w.toNat / 2 ^ k := by
  have hmod : k.toUInt64.toNat % 64 = k := by
    rw [Nat.toUInt64, UInt64.toNat_ofNat']
    omega
  rw [UInt64.toNat_shiftRight, hmod, Nat.shiftRight_eq_div_pow]

end Word

theorem toNat_cardsNeeded {bytes : Word} {log : Nat} (hlog : log < 64)
    (hfits : bytes.toNat ≤ 2 ^ 64 - 2 ^ log) :
    (cardsNeeded bytes log).toNat = (bytes.toNat + 2 ^ log - 1) / 2 ^ log := by
  rw [cardsNeeded, Word.toNat_shiftRight _ hlog, Word.toNat_alignUp _ hlog, if_pos hfits,
    Nat.mul_div_cancel _ (Nat.two_pow_pos log)]

theorem toNat_cardsNeeded_of_wraps {bytes : Word} {log : Nat} (hlog : log < 64)
    (hwraps : ¬ bytes.toNat ≤ 2 ^ 64 - 2 ^ log) : (cardsNeeded bytes log).toNat = 0 := by
  rw [cardsNeeded, Word.toNat_shiftRight _ hlog, Word.toNat_alignUp _ hlog, if_neg hwraps,
    Nat.zero_div]

end WriteBarrier
