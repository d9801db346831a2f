/-
Runs over any number of barrier sets: everything that one set can go through,
and what only shows with the registries in hand — registering and
unregistering threads without a mutator, and discharging the marks of one set
through the barrier of another.
-/
import WriteBarrier.Session

namespace WriteBarrier.Session

inductive Event where
  | configure (env : Environment)
  | setOption (name value : String)
  | setOptions (text : String)
  /-- Writes the card size into the options, admissible or not. -/
  | assignLogBytesInCard (log : Nat)
  | init (covered : Region)
  | build (covered : Region)
  /-- Something happens on one barrier set. -/
  | on (set : Nat) (e : BarrierSet.Event)
  | register (set : Nat) (t : Thread)
  | unregister (set : Nat) (t : Thread)
  /-- Discharges a mark of `set` through the barrier of `barrierOf`. -/
  | discharge (set : Nat) (id : MarkId) (barrierOf : Nat)
  /-- Discharges every mark registered in `set` through the barrier of `barrierOf`. -/
  | flushAll (set barrierOf : Nat)
  deriving DecidableEq

/-- What an event answers. -/
inductive Reply where
  | done
  /-- Were all the options set? -/
  | accepted (all : Bool)
  /-- The number of the set that was built. -/
  | built (set : Nat)
  | onSet (r : BarrierSet.Reply)
  | registered (id : MarkId)
  | discharged (count : Nat)
  /-- There is no such barrier set. -/
  | noSet
  deriving DecidableEq

/-- Answers what `reply` makes of an answer, or that the set is missing. -/
def replyWith {α : Type} (reply : α → Reply) (action : Action Session (Option α)) :
    Action Session Reply := do
  let answer ← action
  return match answer with
    | some a => reply a
    | none => .noSet

/-- What an event does to a session. -/
def step : Event → Action Session Reply
  | .configure env => do
    configure env
    return .done
  | .setOption name value => do
    let made ← onOptions (Options.set name value)
    return .accepted made
  | .setOptions text => do
    let made ← onOptions (Options.setBulk text)
    return .accepted made
  | .assignLogBytesInCard log => do
    Action.update fun s => { s with options := { s.options with logBytesInCard := log } }
    return .done
  | .init covered => do
    let number ← init covered
    return .built number
  | .build covered => do
    let number ← build covered
    return .built number
  | .on set e => replyWith .onSet (onSet? set (BarrierSet.step e))
  | .register set t => replyWith .registered (onSet? set (BarrierSet.onRegistry (Registry.register t)))
  | .unregister set t =>
    replyWith (fun _ => .done) (onSet? set (BarrierSet.onRegistry (Registry.unregister t)))
  | .discharge set id barrierOf =>
    replyWith (fun _ => .done) (onMarks? set barrierOf fun b => Registry.discharge b id)
  | .flushAll set barrierOf =>
    replyWith .discharged (onMarks? set barrierOf fun b => Registry.flushAll b)

/-- The session after a run of events. -/
def run (s : Session) (events : List Event) : Session :=
  events.foldl (fun s e => ((step e).run s).state) s

end WriteBarrier.Session
