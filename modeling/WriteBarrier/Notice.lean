/-
What the barrier reports while it works: one notice for each event worth a
line in a log, with the level it is reported at.
-/
import WriteBarrier.Region
import WriteBarrier.Thread
import WriteBarrier.Text.Quoted

namespace WriteBarrier

inductive Level where
  | trace
  | debug
  | info
  | warn
  deriving DecidableEq

def Level.text : Level → String
  | trace => "TRACE"
  | debug => "DEBUG"
  | info => "INFO"
  | warn => "WARN"

inductive Notice where
  /-- A logger was there before ours. -/
  | loggerPresent
  /-- A barrier is installed; its description. -/
  | barrierInstalled (barrier : String)
  /-- A card table is ready; its description. -/
  | tableReady (table : String)
  | attached (t : Thread)
  | detaching (t : Thread)
  /-- A pending mark is about to be made. -/
  | discharging (object : Region)
  /-- The threads stopped, and `discharged` of them had a pending mark. -/
  | safepoint (discharged threads : Nat)
  /-- A number for an option that the option does not admit. -/
  | invalidNumber (name : String) (value : Nat)
  /-- A value for an option that is not of the option's type. -/
  | unreadableValue (name value : String)
  | unknownOption (name : String)
  /-- A word among bulk options that is not one assignment. -/
  | malformedOption (token : String)
  deriving DecidableEq

namespace Notice

def level : Notice → Level
  | loggerPresent => .debug
  | barrierInstalled _ => .info
  | tableReady _ => .debug
  | attached _ => .debug
  | detaching _ => .debug
  | discharging _ => .trace
  | safepoint _ _ => .debug
  | invalidNumber _ _ => .warn
  | unreadableValue _ _ => .warn
  | unknownOption _ => .warn
  | malformedOption _ => .warn

def message : Notice → String
  | loggerPresent => "Card marking barrier failed to initialize the logger. Possibly a logger has been initialized by user."
  | barrierInstalled barrier => s!"Initialized {barrier}"
  | tableReady table => table
  | attached t => s!"Attach mutator {t}"
  | detaching t => s!"Detach mutator {t}"
  | discharging object => s!"Discharge deferred card mark for {object}"
  | safepoint discharged threads =>
      s!"Discharged {discharged} deferred card mark(s) of {threads} thread(s) at safepoint"
  | invalidNumber name value =>
      s!"Unable to set {name}={value}. Invalid value. Default value will be used."
  | unreadableValue name value =>
      s!"Unable to set {name}={Text.quoted value}. Can't parse value. Default value will be used."
  | unknownOption name => s!"Unknown option {name}"
  | malformedOption token => s!"Malformed option {Text.quoted token}"

/-- The line of a log. -/
def text (n : Notice) : String := s!"{n.level.text} {n.message}"

end Notice

end WriteBarrier
