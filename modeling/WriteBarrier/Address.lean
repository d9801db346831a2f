/-
Addresses: words that are only compared, moved by a number of bytes, or
measured against each other. The operations here cannot fail; those that can
are in `WriteBarrier.Checked`.
-/
import WriteBarrier.Word

namespace WriteBarrier

/-- A byte address. -/
structure Address where
  word : Word
  deriving DecidableEq, Inhabited

namespace Address

/-- The address as an unbounded number. -/
def toNat (a : Address) : Nat := a.word.toNat

instance : LE Address := ⟨fun a b => a.word ≤ b.word⟩
instance : LT Address := ⟨fun a b => a.word < b.word⟩

instance (a b : Address) : Decidable (a ≤ b) := inferInstanceAs (Decidable (a.word ≤ b.word))
instance (a b : Address) : Decidable (a < b) := inferInstanceAs (Decidable (a.word < b.word))

instance : Ord Address := ⟨fun a b => compare a.word b.word⟩

def alignDown (a : Address) (align : Word) : Address := ⟨a.word.alignDown align⟩

def isAligned (a : Address) (align : Word) : Bool := a.word.isAligned align

/-- Addresses are written in hexadecimal. -/
def text (a : Address) : String := hexText a.toNat

instance : ToString Address := ⟨text⟩

theorem le_iff {a b : Address} : a ≤ b ↔ a.toNat ≤ b.toNat := UInt64.le_iff_toNat_le

theorem lt_iff {a b : Address} : a < b ↔ a.toNat < b.toNat := UInt64.lt_iff_toNat_lt

theorem toNat_inj {a b : Address} : a.toNat = b.toNat ↔ a = b := by
  cases a; cases b; simp [toNat, UInt64.toNat_inj]

theorem toNat_lt (a : Address) : a.toNat < UInt64.size := UInt64.toNat_lt a.word

end Address

end WriteBarrier
