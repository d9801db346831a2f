/-
How option values are read: numbers below 256 and truth values, written one
way each, and the case folding of environment keys.
-/

namespace WriteBarrier.Text

/-- The value of a decimal digit. -/
def digitValue? (c : Char) : Option Nat :=
  if '0' ≤ c ∧ c ≤ '9' then some (c.toNat - '0'.toNat) else none

/-- The number that a list of decimal digits writes, read on from `n`. -/
def readDigits (n : Nat) : List Char → Option Nat
  | [] => some n
  | c :: rest => match digitValue? c with
    | some d => readDigits (10 * n + d) rest
    | none => none

/-- A number below 256: at least one decimal digit, after a plus sign or none. Leading zeros are
allowed. -/
def readByte (s : List Char) : Option Nat :=
  let digits := match s with
    | '+' :: rest => rest
    | _ => s
  if digits.isEmpty then none else (readDigits 0 digits).filter (· < 256)

/-- The words `true` and `false`, written exactly so. -/
def readBool (s : String) : Option Bool :=
  if s = "true" then some true else if s = "false" then some false else none

/-- The lower-case form of a character, for the characters whose lower-case form is ASCII: the
capitals A to Z, and the Kelvin sign, whose lower-case form is the letter k. Other characters stay
as they are: no folding of theirs is an ASCII word. -/
def foldCase (c : Char) : Char :=
  if 'A' ≤ c ∧ c ≤ 'Z' then Char.ofNat (c.toNat + 32)
  else if c = '\u212a' then 'k'
  else c

end WriteBarrier.Text
