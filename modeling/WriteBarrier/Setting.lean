/-
Settings: option values that were read and found admissible.

Reading depends on the name and the value alone, never on what an option holds
already. What cannot be read is refused with the warning that says why.
-/
import WriteBarrier.Barrier
import WriteBarrier.Text.Reading
import WriteBarrier.Text.Words

namespace WriteBarrier

/-- The options. -/
inductive OptionName where
  | barrier
  | logBytesInCard
  | reduceInitialCardMarks
  | concurrentCardScanning
  deriving DecidableEq

namespace OptionName

def text : OptionName → String
  | barrier => "barrier"
  | logBytesInCard => "log_bytes_in_card"
  | reduceInitialCardMarks => "reduce_initial_card_marks"
  | concurrentCardScanning => "concurrent_card_scanning"

def all : List OptionName :=
  [barrier, logBytesInCard, reduceInitialCardMarks, concurrentCardScanning]

/-- The option of exactly this name. -/
def ofText? (s : String) : Option OptionName := all.find? fun o => o.text = s

theorem mem_all (o : OptionName) : o ∈ all := by cases o <;> simp [all]

theorem text_injective {o p : OptionName} (h : o.text = p.text) : o = p := by
  cases o <;> cases p <;> simp_all [text]

theorem ofText?_eq_some_iff {s : String} {o : OptionName} : ofText? s = some o ↔ s = o.text := by
  constructor
  · intro h
    have := List.find?_some h
    simpa [eq_comm] using this
  · rintro rfl
    cases o <;> simp [ofText?, all, text]

end OptionName

/-- An option with a value that it admits. -/
inductive Setting where
  | barrier (selector : Selector)
  | logBytesInCard (log : Nat)
  | reduceInitialCardMarks (on : Bool)
  | concurrentCardScanning (on : Bool)
  deriving DecidableEq

namespace Setting

/-- The option that a setting sets. -/
def option : Setting → OptionName
  | barrier _ => .barrier
  | logBytesInCard _ => .logBytesInCard
  | reduceInitialCardMarks _ => .reduceInitialCardMarks
  | concurrentCardScanning _ => .concurrentCardScanning

/-! ## Reading -/

/-- The smallest card has 128 bytes. -/
def minLogBytesInCard : Nat := 7

/-- The largest card has 4096 bytes. -/
def maxLogBytesInCard : Nat := 12

/-- The setting of option `o` to what `value` writes, or the warning why there is none. -/
def ofValue (o : OptionName) (value : String) : Except Notice Setting :=
  let unreadable := Notice.unreadableValue o.text value
  match o with
  | .barrier => match Selector.ofName? value with
    | some b => .ok (barrier b)
    | none => .error unreadable
  | .logBytesInCard => match Text.readByte value.toList with
    | some log =>
      if minLogBytesInCard ≤ log ∧ log ≤ maxLogBytesInCard then .ok (logBytesInCard log)
      else .error (.invalidNumber o.text log)
    | none => .error unreadable
  | .reduceInitialCardMarks => match Text.readBool value with
    | some on => .ok (reduceInitialCardMarks on)
    | none => .error unreadable
  | .concurrentCardScanning => match Text.readBool value with
    | some on => .ok (concurrentCardScanning on)
    | none => .error unreadable

/-- The setting of the option called `name`. -/
def read (name value : String) : Except Notice Setting :=
  match OptionName.ofText? name with
  | some o => ofValue o value
  | none => .error (.unknownOption name)

/-- The setting that a word `name=value` writes. A word with no equals sign, or with several, writes
none. -/
def ofToken (token : List Char) : Except Notice Setting :=
  match Text.cutAt (· == '=') token with
  | [name, value] => read (String.ofList name) (String.ofList value)
  | _ => .error (.malformedOption (String.ofList token))

/-! ## The environment -/

/-- How the keys of the environment begin that are meant for the barrier. -/
def environmentMark : String := "CARDMARK_"

/-- The option that an environment key names: after the mark, the option's name in letters of
either case. -/
def optionOfKey? (key : String) : Option OptionName :=
  let mark := environmentMark.toList
  if mark.isPrefixOf key.toList then
    OptionName.ofText? (String.ofList ((key.toList.drop mark.length).map Text.foldCase))
  else none

theorem option_ofValue {o : OptionName} {value : String} {s : Setting} (h : ofValue o value = .ok s) :
    s.option = o := by
  cases o <;> simp only [ofValue] at h <;> split at h <;>
    first | (cases h; rfl) | (split at h <;> cases h; rfl) | cases h

end Setting

end WriteBarrier
