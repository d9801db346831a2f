/-
The variables of an environment, in the order in which a visitor meets them.
-/

namespace WriteBarrier

/-- Variables with their values. -/
abbrev Environment := List (String × String)

namespace Environment

/-- Sets a variable: where it stands, if it is there, and at the end otherwise. -/
def set (key value : String) : Environment → Environment
  | [] => [(key, value)]
  | (k, v) :: rest => if k = key then (key, value) :: rest else (k, v) :: set key value rest

/-- The environment after a list of assignments. -/
def ofAssignments (assignments : List (String × String)) : Environment :=
  assignments.foldl (fun env (key, value) => env.set key value) []

end Environment

end WriteBarrier
