/-
The names of mutator threads. A thread's name is a word the caller chooses;
nothing is ever read through it.
-/
import WriteBarrier.Word

namespace WriteBarrier

/-- The name of a mutator thread. -/
structure Thread where
  id : Word
  deriving DecidableEq, Inhabited

def Thread.text (t : Thread) : String := s!"VMMutatorThread({hexText t.id.toNat})"

instance : ToString Thread := ⟨Thread.text⟩

end WriteBarrier
