/-
Machine words of 64 bits and the bit-mask arithmetic on them.

The three alignment operations are total: they wrap instead of failing, and
they take any second argument. They mean "a multiple of `align`" only where
`align` is a power of two; for anything else, zero included, they are the
plain mask formula.
-/

namespace WriteBarrier

/-- A word of the machine: an address, a number of bytes, the name of a thread. -/
abbrev Word := UInt64

/-- A number after `0x`, in lower-case hexadecimal digits without leading zeros. -/
def hexText (n : Nat) : String := "0x" ++ String.ofList (Nat.toDigits 16 n)

namespace Word

/-- A word has eight bytes, and so has an address. -/
def logBytes : Nat := 3

def bytes : Nat := 1 <<< logBytes

/-- The word with bit `k` set, for `k` below 64. -/
def twoPow (k : Nat) : Word := 1 <<< k.toUInt64

/-- Rounds down, by clearing the bits below `align`. -/
def alignDown (w align : Word) : Word := w &&& ~~~(align - 1)

/-- Rounds up. A word that has no aligned word above it wraps to zero. -/
def alignUp (w align : Word) : Word := (w + align - 1) &&& ~~~(align - 1)

/-- Are all bits below `align` clear? -/
def isAligned (w align : Word) : Bool := w &&& (align - 1) == 0

/-! ## Where the wrap cannot happen -/

theorem toNat_sub_of_le {a b : Word} (h : b.toNat ≤ a.toNat) : (a - b).toNat = a.toNat - b.toNat :=
  UInt64.toNat_sub_of_le _ _ (UInt64.le_iff_toNat_le.2 h)

end Word

end WriteBarrier
