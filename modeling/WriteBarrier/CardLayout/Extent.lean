/-
What the cards of a layout are, in unbounded numbers: card `i` is the addresses
from `i` card sizes above the start on, one card size of them. The operations
of `WriteBarrier.CardLayout` compute with words and may wrap; these predicates
do not, and say what the operations are for.
-/
import Mathlib
import WriteBarrier.CardLayout

namespace WriteBarrier.CardLayout

/-- The rounding of the covered bytes to whole cards stays inside a word. -/
def Fits (l : CardLayout) : Prop := l.covered.size.toNat ≤ 2 ^ 64 - 2 ^ l.logBytesInCard

/-- Does `a` lie on card `i`? -/
def OnCard (l : CardLayout) (i a : Nat) : Prop :=
  l.covered.start.toNat + i * 2 ^ l.logBytesInCard ≤ a ∧
    a < l.covered.start.toNat + (i + 1) * 2 ^ l.logBytesInCard

/-- Do card `i` and the region share an address? -/
def Touches (l : CardLayout) (i : Nat) (r : Region) : Prop :=
  ∃ a, r.start.toNat ≤ a ∧ a < r.stop.toNat ∧ l.OnCard i a

instance (l : CardLayout) : Decidable l.Fits := inferInstanceAs (Decidable (_ ≤ _))

instance (l : CardLayout) (i a : Nat) : Decidable (l.OnCard i a) :=
  inferInstanceAs (Decidable (_ ∧ _))

/-- An address above the start lies on exactly one card. -/
theorem onCard_iff {l : CardLayout} {i a : Nat} :
    l.OnCard i a ↔
      l.covered.start.toNat ≤ a ∧ (a - l.covered.start.toNat) / 2 ^ l.logBytesInCard = i := by
  have hpos : 0 < 2 ^ l.logBytesInCard := Nat.two_pow_pos _
  unfold OnCard
  constructor
  · rintro ⟨hlo, hhi⟩
    refine ⟨by omega, ?_⟩
    exact Nat.div_eq_of_lt_le (by omega) (by omega)
  · rintro ⟨hle, rfl⟩
    have h1 := Nat.div_mul_le_self (a - l.covered.start.toNat) (2 ^ l.logBytesInCard)
    have h2 := Nat.lt_mul_div_succ (a - l.covered.start.toNat) hpos
    rw [Nat.mul_comm] at h2
    exact ⟨by omega, by omega⟩

/-- An empty region touches no card. -/
theorem not_touches_of_isEmpty {l : CardLayout} {i : Nat} {r : Region} (h : r.isEmpty = true) :
    ¬ l.Touches i r := by
  rintro ⟨a, hlo, hhi, _⟩
  have := Region.isEmpty_iff.1 h
  omega

/-- A region that is not empty touches the cards from that of its first address to that of its
last. -/
theorem touches_iff {l : CardLayout} {i : Nat} {r : Region} (h : r.isEmpty = false)
    (hstart : l.covered.start.toNat ≤ r.start.toNat) :
    l.Touches i r ↔
      (r.start.toNat - l.covered.start.toNat) / 2 ^ l.logBytesInCard ≤ i ∧
        i ≤ (r.stop.toNat - 1 - l.covered.start.toNat) / 2 ^ l.logBytesInCard := by
  have hpos : 0 < 2 ^ l.logBytesInCard := Nat.two_pow_pos _
  have hlt := Region.toNat_lt_of_isEmpty_eq_false h
  constructor
  · rintro ⟨a, hlo, hhi, hcard⟩
    obtain ⟨_, rfl⟩ := onCard_iff.1 hcard
    exact ⟨Nat.div_le_div_right (by omega), Nat.div_le_div_right (by omega)⟩
  · rintro ⟨hfirst, hlast⟩
    by_cases hin : (r.start.toNat - l.covered.start.toNat) / 2 ^ l.logBytesInCard = i
    · exact ⟨r.start.toNat, Nat.le_refl _, hlt, onCard_iff.2 ⟨hstart, hin⟩⟩
    · have hbelow : r.start.toNat - l.covered.start.toNat < i * 2 ^ l.logBytesInCard := by
        have : (r.start.toNat - l.covered.start.toNat) / 2 ^ l.logBytesInCard < i := by omega
        exact (Nat.div_lt_iff_lt_mul hpos).1 this
      have habove : i * 2 ^ l.logBytesInCard ≤ r.stop.toNat - 1 - l.covered.start.toNat :=
        (Nat.le_div_iff_mul_le hpos).1 hlast
      refine ⟨l.covered.start.toNat + i * 2 ^ l.logBytesInCard, by omega, by omega, ?_⟩
      refine onCard_iff.2 ⟨by omega, ?_⟩
      rw [Nat.add_sub_cancel_left, Nat.mul_div_cancel _ hpos]

end WriteBarrier.CardLayout
