/-
The options of the barrier, and the ways to set them: one by one, in bulk, or
from the environment.

An assignment that is refused leaves the options as they are and is reported
as a warning. In bulk each word is an assignment of its own: one that is
refused does not stop the others.
-/
import WriteBarrier.Environment
import WriteBarrier.Setting

namespace WriteBarrier

structure Options where
  barrier : Selector := .cardTable
  logBytesInCard : Nat := 9
  /-- Defer the marks of new objects? -/
  reduceInitialCardMarks : Bool := true
  /-- Does the collector scan cards while mutators run? -/
  concurrentCardScanning : Bool := false
  deriving DecidableEq

namespace Options

/-- The built-in options. -/
def default : Options := {}

instance : Inhabited Options := ⟨default⟩

/-- The options after a setting. -/
def assign (o : Options) : Setting → Options
  | .barrier selector => { o with barrier := selector }
  | .logBytesInCard log => { o with logBytesInCard := log }
  | .reduceInitialCardMarks on => { o with reduceInitialCardMarks := on }
  | .concurrentCardScanning on => { o with concurrentCardScanning := on }

/-- Makes a setting, or reports why there is none to make. -/
def settle : Except Notice Setting → Action Options Bool
  | .ok s => do
    Action.update (·.assign s)
    return true
  | .error warning => do
    Action.report warning
    return false

/-- Sets the option called `name`, if the value admits it. -/
def set (name value : String) : Action Options Bool := settle (Setting.read name value)

/-- Makes settings one after the other, refused ones or not. Were all of them made? -/
def settleAll : List (Except Notice Setting) → Action Options Bool
  | [] => return true
  | s :: rest => do
    let made ← settle s
    let others ← settleAll rest
    return made && others

/-- Sets options from words `name=value` between blanks. -/
def setBulk (text : String) : Action Options Bool :=
  settleAll ((Text.words text.toList).map Setting.ofToken)

/-- Sets options from the variables of an environment, visited in order. Variables that name no
option are passed over. -/
def readEnvironment (env : Environment) : Action Options Unit := do
  let _ ← settleAll <| env.filterMap fun (key, value) =>
    (Setting.optionOfKey? key).map (Setting.ofValue · value)

def text (o : Options) : String :=
  s!"Options \x7b barrier: {o.barrier.name}, log_bytes_in_card: {o.logBytesInCard}, reduce_initial_card_marks: {o.reduceInitialCardMarks}, concurrent_card_scanning: {o.concurrentCardScanning} \x7d"

end Options

end WriteBarrier
