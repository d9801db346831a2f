/-
The arithmetic that can fail, on words, addresses and regions. Sums and
differences that leave the word are faults, and so are shifts by 64 or more;
a shift to the left by less drops the bits that leave the word, silently.
-/
import WriteBarrier.Fault

namespace WriteBarrier

namespace Word

def checkedAdd (a b : Word) : Except Fault Word :=
  if a.toNat + b.toNat < UInt64.size then .ok (a + b) else .error .sumOverflow

def checkedSub (a b : Word) : Except Fault Word :=
  if b ≤ a then .ok (a - b) else .error .differenceOverflow

def checkedShiftLeft (w : Word) (k : Nat) : Except Fault Word :=
  if k < 64 then .ok (w <<< k.toUInt64) else .error .leftShiftOverflow

def checkedShiftRight (w : Word) (k : Nat) : Except Fault Word :=
  if k < 64 then .ok (w >>> k.toUInt64) else .error .rightShiftOverflow

end Word

namespace Address

/-- The address `bytes` further up. -/
def plus (a : Address) (bytes : Word) : Except Fault Address :=
  (a.word.checkedAdd bytes).map Address.mk

/-- The address `bytes` further down. -/
def minus (a : Address) (bytes : Word) : Except Fault Address :=
  (a.word.checkedSub bytes).map Address.mk

/-- The number of bytes from `base` up to `a`. -/
def distanceFrom (a base : Address) : Except Fault Word :=
  if base ≤ a then a.word.checkedSub base.word else .error (.belowBase a base)

end Address

namespace Region

/-- The region with the two bounds given. -/
def between (start stop : Address) : Except Fault Region :=
  if h : start ≤ stop then .ok ⟨start, stop, h⟩ else .error (.invertedRegion start stop)

/-- The region of `bytes` bytes from `start` on. -/
def sized (start : Address) (bytes : Word) : Except Fault Region := do
  between start (← start.plus bytes)

/-- The last address of a region that has one. -/
def last (r : Region) : Except Fault Address :=
  if r.isEmpty then .error .lastOfEmpty else r.stop.minus 1

end Region

/-! ## When the checks pass -/

theorem Word.checkedAdd_eq_ok_iff {a b c : Word} :
    a.checkedAdd b = .ok c ↔ a.toNat + b.toNat < UInt64.size ∧ a + b = c := by
  unfold checkedAdd
  split
  · rename_i h
    exact ⟨fun he => ⟨h, Except.ok.inj he⟩, fun he => congrArg Except.ok he.2⟩
  · rename_i h
    exact ⟨(nomatch ·), fun he => absurd he.1 h⟩

theorem Word.checkedSub_eq_ok {a b : Word} (h : b.toNat ≤ a.toNat) :
    a.checkedSub b = .ok (a - b) := if_pos (UInt64.le_iff_toNat_le.2 h)

theorem Word.checkedShiftLeft_eq_ok {w : Word} {k : Nat} (h : k < 64) :
    w.checkedShiftLeft k = .ok (w <<< k.toUInt64) := if_pos h

theorem Word.checkedShiftRight_eq_ok {w : Word} {k : Nat} (h : k < 64) :
    w.checkedShiftRight k = .ok (w >>> k.toUInt64) := if_pos h

theorem Address.distanceFrom_eq_ok {a base : Address} (h : base.toNat ≤ a.toNat) :
    a.distanceFrom base = .ok (a.word - base.word) := by
  rw [distanceFrom, if_pos (Address.le_iff.2 h), Word.checkedSub_eq_ok h]

theorem Region.between_eq_ok {start stop : Address} (h : start ≤ stop) :
    Region.between start stop = .ok ⟨start, stop, h⟩ := dif_pos h

/-- The last address of a region that is not empty lies one below its stop. -/
theorem Region.last_eq_ok {r : Region} (h : r.isEmpty = false) :
    r.last = .ok ⟨r.stop.word - 1⟩ := by
  have hlt := toNat_lt_of_isEmpty_eq_false h
  have hone : (1 : Word).toNat ≤ r.stop.word.toNat := by
    show 1 ≤ r.stop.toNat
    omega
  rw [last, h, if_neg Bool.false_ne_true, Address.minus, Word.checkedSub_eq_ok hone]
  rfl

end WriteBarrier
