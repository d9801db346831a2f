/-
Powers of two among the words: below the width of a word, shifting a one is
raising two.
-/
import Mathlib
import WriteBarrier.Word

namespace WriteBarrier.Word

theorem toNat_twoPow {k : Nat} (hk : k < 64) : (twoPow k).toNat = 2 ^ k := by
  have hlt : (2 : Nat) ^ k < 2 ^ 64 := Nat.pow_lt_pow_right (by decide) hk
  have hmod : k.toUInt64.toNat % 64 = k := by
    rw [Nat.toUInt64, UInt64.toNat_ofNat']
    omega
  rw [twoPow, UInt64.toNat_shiftLeft, hmod, UInt64.toNat_one, Nat.one_shiftLeft]
  exact Nat.mod_eq_of_lt hlt

end WriteBarrier.Word
