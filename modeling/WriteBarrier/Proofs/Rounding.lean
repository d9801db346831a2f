/-
The alignment operations as rounding: down to the greatest multiple below, up to
the least multiple above, and the count of cards that follows from the second.

The one case that is not rounding is a word above the last multiple. The multiple
above it is `2 ^ 64`, which is no word, and the result is zero: exactly that, not
some other small word. Multiples of a power of two stop one multiple short of
`2 ^ 64` (`lt_iff_le_of_dvd`), which is why the case can be told by the word alone.
-/
import WriteBarrier.Proofs.Alignment

namespace WriteBarrier

namespace Word

variable {k n up : Nat} {w align : Word}

/-! ## Powers of two -/

theorem exponent_lt_of_toNat_eq (halign : align.toNat = 2 ^ k) : k < 64 := by
  have hlt : 2 ^ k < 2 ^ 64 := halign ▸ align.toNat_lt
  exact (Nat.pow_lt_pow_iff_right (by decide)).1 hlt

theorem eq_twoPow (halign : align.toNat = 2 ^ k) : align = twoPow k := by
  rw [← UInt64.toNat_inj, toNat_twoPow (exponent_lt_of_toNat_eq halign), halign]

/-! ## Down -/

/-- **Clearing the low bits gives the greatest multiple that is not above the word.** -/
theorem isGreatest_alignDown (w : Word) (hk : k < 64) :
    IsGreatest {m | 2 ^ k ∣ m ∧ m ≤ w.toNat} (w.alignDown (twoPow k)).toNat := by
  rw [toNat_alignDown w hk]
  refine ⟨⟨Nat.dvd_mul_left _ _, Nat.div_mul_le_self _ _⟩, ?_⟩
  rintro m ⟨⟨c, rfl⟩, hle⟩
  rw [Nat.mul_comm] at hle ⊢
  exact Nat.mul_le_mul_right _ ((Nat.le_div_iff_mul_le (Nat.two_pow_pos k)).2 hle)

theorem isAligned_iff_alignDown_eq (w : Word) (hk : k < 64) :
    w.isAligned (twoPow k) = true ↔ w.alignDown (twoPow k) = w := by
  rw [isAligned_iff w hk, ← UInt64.toNat_inj, toNat_alignDown w hk]
  exact ⟨Nat.div_mul_cancel, fun h => ⟨w.toNat / 2 ^ k, by rw [Nat.mul_comm, h]⟩⟩

/-! ## Up -/

/-- The last multiple below `2 ^ 64` is one multiple short of it. -/
theorem lt_iff_le_of_dvd (hk : k < 64) (h : 2 ^ k ∣ n) : n < 2 ^ 64 ↔ n ≤ 2 ^ 64 - 2 ^ k := by
  have hpos : 0 < 2 ^ k := Nat.two_pow_pos k
  have hall : 2 ^ k ∣ 2 ^ 64 := Nat.pow_dvd_pow 2 hk.le
  have hsmall : 2 ^ k ≤ 2 ^ 64 := Nat.le_of_dvd (Nat.two_pow_pos 64) hall
  refine ⟨fun hlt => ?_, fun hle => by omega⟩
  have hgap : 2 ^ k ≤ 2 ^ 64 - n := Nat.le_of_dvd (by omega) (Nat.dvd_sub hall h)
  omega

theorem isLeast_ceilDiv_mul (n k : Nat) :
    IsLeast {m | 2 ^ k ∣ m ∧ n ≤ m} (n ⌈/⌉ 2 ^ k * 2 ^ k) := by
  have hpos : 0 < 2 ^ k := Nat.two_pow_pos k
  refine ⟨⟨Nat.dvd_mul_left _ _, ?_⟩, ?_⟩
  · rw [Nat.mul_comm]
    exact le_smul_ceilDiv hpos
  · rintro m ⟨⟨c, rfl⟩, hle⟩
    rw [Nat.mul_comm]
    exact Nat.mul_le_mul_left _ ((ceilDiv_le_iff_le_mul hpos).2 hle)

theorem lt_iff_of_isLeast (hk : k < 64) (hup : IsLeast {m | 2 ^ k ∣ m ∧ n ≤ m} up) :
    up < 2 ^ 64 ↔ n ≤ 2 ^ 64 - 2 ^ k := by
  obtain ⟨⟨hdvd, hle⟩, hleast⟩ := hup
  rw [lt_iff_le_of_dvd hk hdvd]
  refine ⟨hle.trans, fun h => hleast ⟨?_, h⟩⟩
  exact Nat.dvd_sub (Nat.pow_dvd_pow 2 hk.le) (Nat.dvd_refl _)

/-- **Adding before clearing gives the least multiple that is not below the word, or zero where that
is no word.** -/
theorem toNat_alignUp_of_isLeast (hk : k < 64) (hup : IsLeast {m | 2 ^ k ∣ m ∧ w.toNat ≤ m} up) :
    (w.alignUp (twoPow k)).toNat = if up < 2 ^ 64 then up else 0 := by
  have hceil : up = (w.toNat + 2 ^ k - 1) / 2 ^ k * 2 ^ k := by
    rw [← Nat.ceilDiv_eq_add_pred_div]
    exact hup.unique (isLeast_ceilDiv_mul w.toNat k)
  rw [toNat_alignUp w hk]
  simp only [lt_iff_of_isLeast hk hup]
  rw [hceil]

end Word

/-! ## Cards -/

theorem cardsToCover_eq_ok {log : Nat} (bytes : Word) (hlog : log < 64) :
    cardsToCover bytes log = .ok (cardsNeeded bytes log) := if_pos hlog

theorem toNat_cardsNeeded_eq_ite {log : Nat} (bytes : Word) (hlog : log < 64) :
    (cardsNeeded bytes log).toNat =
      if bytes.toNat ≤ 2 ^ 64 - 2 ^ log then bytes.toNat ⌈/⌉ 2 ^ log else 0 := by
  split
  · next hfits => rw [toNat_cardsNeeded hlog hfits, Nat.ceilDiv_eq_add_pred_div]
  · next hwraps => exact toNat_cardsNeeded_of_wraps hlog hwraps

namespace Word

/-- **The mask formulas round to multiples of a power of two.** Down is to the greatest multiple that is
not above the word; a word is aligned if it is a multiple, and then rounding down leaves it. Up is to the
least multiple that is not below the word, where that is below `2 ^ 64`; where it is not, the result is zero.
So the number of cards for a number of bytes is the ceiling up to `2 ^ 64 - 2 ^ k` bytes, and zero above. -/
theorem masks_round_to_multiples {align : Word} {k : Nat} (halign : align.toNat = 2 ^ k) (w : Word) :
    IsGreatest {m | 2 ^ k ∣ m ∧ m ≤ w.toNat} (w.alignDown align).toNat ∧
    (w.isAligned align = true ↔ 2 ^ k ∣ w.toNat) ∧
    (w.isAligned align = true ↔ w.alignDown align = w) ∧
    (∃ up, IsLeast {m | 2 ^ k ∣ m ∧ w.toNat ≤ m} up ∧
      (w.alignUp align).toNat = if up < 2 ^ 64 then up else 0) ∧
    ∃ count, cardsToCover w k = .ok count ∧
      count.toNat = if w.toNat ≤ 2 ^ 64 - 2 ^ k then w.toNat ⌈/⌉ 2 ^ k else 0 := by
  have hk := exponent_lt_of_toNat_eq halign
  have halign' := eq_twoPow halign
  subst halign'
  have hup := isLeast_ceilDiv_mul w.toNat k
  exact ⟨isGreatest_alignDown w hk, isAligned_iff w hk, isAligned_iff_alignDown_eq w hk,
    ⟨_, hup, toNat_alignUp_of_isLeast hk hup⟩,
    ⟨_, cardsToCover_eq_ok w hk, toNat_cardsNeeded_eq_ite w hk⟩⟩

/-- The first word above the last multiple of 512: rounding down finds that multiple, and rounding up
wraps. -/
theorem masks_round_to_multiples_above_last :
    let w : Word := 0xfffffffffffffe01
    (512 : Word).toNat = 2 ^ 9 ∧
    IsGreatest {m | 2 ^ 9 ∣ m ∧ m ≤ w.toNat} 0xfffffffffffffe00 ∧ w.isAligned 512 = false ∧
    IsLeast {m | 2 ^ 9 ∣ m ∧ w.toNat ≤ m} (2 ^ 64) ∧ (w.alignUp 512).toNat = 0 ∧
    ∃ count, cardsToCover w 9 = .ok count ∧ count.toNat = 0 := by
  intro w
  have halign : (512 : Word).toNat = 2 ^ 9 := rfl
  obtain ⟨hdown, haligned, -, ⟨up, hup, hrounded⟩, count, hcards, hcount⟩ :=
    masks_round_to_multiples halign w
  have hbelow : (w.alignDown 512).toNat = 0xfffffffffffffe00 := by decide
  rw [hbelow] at hdown
  have hmultiple : ¬ 2 ^ 9 ∣ w.toNat := by decide
  have hlast : IsLeast {m | 2 ^ 9 ∣ m ∧ w.toNat ≤ m} (2 ^ 64) := by
    refine ⟨by decide, ?_⟩
    rintro m ⟨⟨c, rfl⟩, hle⟩
    have hw : w.toNat = 0xfffffffffffffe01 := rfl
    omega
  have hupEq : up = 2 ^ 64 := hup.unique hlast
  rw [hupEq, if_neg (Nat.lt_irrefl _)] at hrounded
  exact ⟨halign, hdown, Bool.eq_false_iff.2 fun h => hmultiple (haligned.1 h), hlast, hrounded, count,
    hcards, hcount⟩

end Word

end WriteBarrier
