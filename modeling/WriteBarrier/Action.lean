/-
Operations on a state that may end in a fault.

An operation answers, or faults; either way it leaves a state and the notices
it reported. A fault ends the operation that met it and keeps everything stored
before it: there is no rollback, and whoever catches the fault goes on with
the state it left. That is the one convention behind every "unchanged at a
fault" in this library: it is always proved of an operation, never given.
-/
import WriteBarrier.Fault
import WriteBarrier.Notice

namespace WriteBarrier

/-- How an operation ended: its answer or fault, the state it left, and what it reported. -/
structure Outcome (σ α : Type) where
  answer : Except Fault α
  state : σ
  log : List Notice

/-- An operation on states `σ` with answers `α`. -/
structure Action (σ α : Type) where
  run : σ → Outcome σ α

namespace Action

variable {σ τ α β : Type}

/-- Answers, and does nothing. -/
def answer (a : α) : Action σ α := ⟨fun s => ⟨.ok a, s, []⟩⟩

/-- One operation, then the next on the state it left; a fault of the first ends both. -/
def andThen (first : Action σ α) (next : α → Action σ β) : Action σ β :=
  ⟨fun s => match first.run s with
    | ⟨.ok a, s₁, log₁⟩ =>
      let rest := (next a).run s₁
      ⟨rest.answer, rest.state, log₁ ++ rest.log⟩
    | ⟨.error f, s₁, log₁⟩ => ⟨.error f, s₁, log₁⟩⟩

instance : Monad (Action σ) where
  pure := answer
  bind := andThen

/-- The state. -/
def state : Action σ σ := ⟨fun s => ⟨.ok s, s, []⟩⟩

/-- Something read off the state. -/
def view (f : σ → α) : Action σ α := ⟨fun s => ⟨.ok (f s), s, []⟩⟩

/-- Something read off the state, or a fault; the state stays. -/
def inspect (f : σ → Except Fault α) : Action σ α := ⟨fun s => ⟨f s, s, []⟩⟩

def update (f : σ → σ) : Action σ Unit := ⟨fun s => ⟨.ok (), f s, []⟩⟩

/-- Ends in a fault, and changes nothing. -/
def fault (f : Fault) : Action σ α := ⟨fun s => ⟨.error f, s, []⟩⟩

def report (n : Notice) : Action σ Unit := ⟨fun s => ⟨.ok (), s, [n]⟩⟩

/-- An operation on a part of the state: `part` reads the part and `replace` puts it back. -/
def within (part : τ → σ) (replace : τ → σ → τ) (action : Action σ α) : Action τ α :=
  ⟨fun t =>
    let o := action.run (part t)
    ⟨o.answer, replace t o.state, o.log⟩⟩

/-! ## What each operation does -/

@[ext] theorem ext {a b : Action σ α} (h : ∀ s, a.run s = b.run s) : a = b := by
  cases a; cases b; congr; funext s; exact h s

@[simp] theorem run_pure (a : α) (s : σ) : (pure a : Action σ α).run s = ⟨.ok a, s, []⟩ := rfl

theorem run_bind (x : Action σ α) (f : α → Action σ β) (s : σ) :
    (x >>= f).run s = match x.run s with
      | ⟨.ok a, s₁, log₁⟩ => ⟨((f a).run s₁).answer, ((f a).run s₁).state, log₁ ++ ((f a).run s₁).log⟩
      | ⟨.error e, s₁, log₁⟩ => ⟨.error e, s₁, log₁⟩ := rfl

theorem run_bind_ok {x : Action σ α} {f : α → Action σ β} {s s₁ : σ} {a : α} {log₁ : List Notice}
    (h : x.run s = ⟨.ok a, s₁, log₁⟩) :
    (x >>= f).run s =
      ⟨((f a).run s₁).answer, ((f a).run s₁).state, log₁ ++ ((f a).run s₁).log⟩ := by
  rw [run_bind, h]

theorem run_bind_error {x : Action σ α} {f : α → Action σ β} {s s₁ : σ} {e : Fault}
    {log₁ : List Notice} (h : x.run s = ⟨.error e, s₁, log₁⟩) :
    (x >>= f).run s = ⟨.error e, s₁, log₁⟩ := by
  rw [run_bind, h]

@[simp] theorem run_map (f : α → β) (x : Action σ α) (s : σ) :
    (f <$> x).run s = ⟨(x.run s).answer.map f, (x.run s).state, (x.run s).log⟩ := by
  show (x >>= fun a => pure (f a)).run s = _
  rw [run_bind]
  rcases x.run s with ⟨a | a, s₁, log₁⟩ <;> simp [Except.map]

@[simp] theorem run_state (s : σ) : (state : Action σ σ).run s = ⟨.ok s, s, []⟩ := rfl

@[simp] theorem run_view (f : σ → α) (s : σ) : (view f).run s = ⟨.ok (f s), s, []⟩ := rfl

@[simp] theorem run_inspect (f : σ → Except Fault α) (s : σ) :
    (inspect f).run s = ⟨f s, s, []⟩ := rfl

@[simp] theorem run_update (f : σ → σ) (s : σ) : (update f).run s = ⟨.ok (), f s, []⟩ := rfl

@[simp] theorem run_fault (f : Fault) (s : σ) :
    (fault f : Action σ α).run s = ⟨.error f, s, []⟩ := rfl

@[simp] theorem run_report (n : Notice) (s : σ) : (report n).run s = ⟨.ok (), s, [n]⟩ := rfl

@[simp] theorem run_within (part : τ → σ) (replace : τ → σ → τ) (a : Action σ α) (t : τ) :
    (within part replace a).run t =
      ⟨(a.run (part t)).answer, replace t (a.run (part t)).state, (a.run (part t)).log⟩ := rfl

/-- A check that passes leaves the rest as it is. -/
theorem run_inspect_bind_ok {f : σ → Except Fault α} {g : α → Action σ β} {s : σ} {a : α}
    (h : f s = .ok a) : (inspect f >>= g).run s = (g a).run s := by
  have hrun : (inspect f).run s = ⟨.ok a, s, []⟩ := by rw [run_inspect, h]
  rw [run_bind_ok hrun]
  rfl

/-- A check that fails is all that happens. -/
theorem run_inspect_bind_error {f : σ → Except Fault α} {g : α → Action σ β} {s : σ} {e : Fault}
    (h : f s = .error e) : (inspect f >>= g).run s = ⟨.error e, s, []⟩ := by
  have hrun : (inspect f).run s = ⟨.error e, s, []⟩ := by rw [run_inspect, h]
  exact run_bind_error hrun

/-! ## Sequencing is lawful -/

theorem bind_assoc {γ : Type} (x : Action σ α) (f : α → Action σ β) (g : β → Action σ γ) :
    x >>= f >>= g = x >>= fun a => f a >>= g := by
  ext s
  simp only [run_bind]
  rcases x.run s with ⟨a | a, s₁, log₁⟩
  · rfl
  · rcases h : (f a).run s₁ with ⟨b | b, s₂, log₂⟩ <;> simp [h, List.append_assoc]

theorem id_bind (x : Action σ α) : (x >>= fun a => pure a) = x := by
  ext s
  rw [run_bind]
  rcases x.run s with ⟨a | a, s₁, log₁⟩ <;> simp

instance : LawfulMonad (Action σ) :=
  LawfulMonad.mk' (Action σ) id_bind (fun a f => by ext s; simp [run_bind]) bind_assoc

end Action

end WriteBarrier
