/-
Half-open ranges of addresses. A region's start is never above its stop: the
type says so, and the ways to make one that could break it are checked
(`Region.between` and `Region.sized` in `WriteBarrier.Checked`).
-/
import WriteBarrier.Address

namespace WriteBarrier

/-- The addresses from `start` up to but not including `stop`. -/
structure Region where
  start : Address
  stop : Address
  start_le_stop : start ≤ stop
  deriving DecidableEq

instance : Inhabited Region := ⟨⟨⟨0⟩, ⟨0⟩, by decide⟩⟩

namespace Region

def isEmpty (r : Region) : Bool := r.start == r.stop

/-- The number of bytes. No region is as large as the whole address space, so it is a word. -/
def size (r : Region) : Word := r.stop.word - r.start.word

def contains (r : Region) (a : Address) : Bool := r.start ≤ a && a < r.stop

/-- Is `inner` inside `r`? An empty region counts as inside also where it sits at the stop. -/
def containsRegion (r inner : Region) : Bool := r.start ≤ inner.start && inner.stop ≤ r.stop

def text (r : Region) : String := s!"[{r.start}, {r.stop})"

instance : ToString Region := ⟨text⟩

theorem toNat_le (r : Region) : r.start.toNat ≤ r.stop.toNat := Address.le_iff.1 r.start_le_stop

theorem toNat_size (r : Region) : r.size.toNat = r.stop.toNat - r.start.toNat :=
  Word.toNat_sub_of_le r.toNat_le

theorem contains_iff {r : Region} {a : Address} :
    r.contains a = true ↔ r.start.toNat ≤ a.toNat ∧ a.toNat < r.stop.toNat := by
  simp [contains, Address.le_iff, Address.lt_iff]

theorem containsRegion_iff {r inner : Region} :
    r.containsRegion inner = true ↔
      r.start.toNat ≤ inner.start.toNat ∧ inner.stop.toNat ≤ r.stop.toNat := by
  simp [containsRegion, Address.le_iff]

theorem isEmpty_iff {r : Region} : r.isEmpty = true ↔ r.start.toNat = r.stop.toNat := by
  simp [isEmpty, Address.toNat_inj]

theorem toNat_lt_of_isEmpty_eq_false {r : Region} (h : r.isEmpty = false) :
    r.start.toNat < r.stop.toNat := by
  refine Nat.lt_of_le_of_ne r.toNat_le fun he => ?_
  rw [isEmpty_iff.2 he] at h
  cases h

end Region

end WriteBarrier
