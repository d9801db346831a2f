/-
Any number of barrier sets side by side, and the options for the next one.

Barrier sets are numbered in the order they were built. Nothing links them
but the discharges that take the marks of one set's registry through the
barrier of another.
-/
import WriteBarrier.BarrierSet.Event

namespace WriteBarrier

structure Session where
  /-- The options that the next barrier set is built with. -/
  options : Options := .default
  sets : Array BarrierSet := #[]

namespace Session

variable {α : Type}

/-! ## Options -/

def onOptions (action : Action Options α) : Action Session α :=
  Action.within Session.options (fun s options => { s with options }) action

/-- Starts over with the built-in options, and then those of the environment. -/
def configure (env : Environment) : Action Session Unit := do
  Action.update fun s => { s with options := .default }
  onOptions (Options.readEnvironment env)

/-! ## Building -/

/-- Builds a barrier set, and answers its number. -/
def build (covered : Region) : Action Session Nat := do
  let set ← Action.inspect fun s => BarrierSet.create s.options covered
  Action.report (.barrierInstalled set.barrierText)
  Action.report (.tableReady set.table.text)
  let number ← Action.view (·.sets.size)
  Action.update fun s => { s with sets := s.sets.push set }
  return number

/-- Sets up logging, which finds a logger there already, and builds a barrier set. -/
def init (covered : Region) : Action Session Nat := do
  Action.report .loggerPresent
  build covered

/-! ## Working with the barrier sets -/

/-- An operation on the set of number `i`, if there is one. -/
def onSet? (i : Nat) (action : Action BarrierSet α) : Action Session (Option α) :=
  ⟨fun s => if h : i < s.sets.size then
      let o := action.run s.sets[i]
      ⟨o.answer.map some, { s with sets := s.sets.set i o.state }, o.log⟩
    else ⟨.ok none, s, []⟩⟩

/-- An operation on the registry of set `i` and the table of set `j`, with the barrier of set `j`. The
two may be one set. -/
def onMarks? (i j : Nat) (action : Barrier → Action (Registry × CardTable) α) :
    Action Session (Option α) :=
  ⟨fun s => match s.sets[i]?, s.sets[j]? with
    | some source, some target =>
      let o := (action target.barrier).run (source.registry, target.table)
      let sets := s.sets.modify i fun set => { set with registry := o.state.1 }
      ⟨o.answer.map some,
        { s with sets := sets.modify j fun set => { set with table := o.state.2 } }, o.log⟩
    | _, _ => ⟨.ok none, s, []⟩⟩

end Session

end WriteBarrier
