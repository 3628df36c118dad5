import FourthServer.Library.Trace

/-!
# Resumable tasks

An asynchronous task computes until it needs something from outside, suspends
there, and is resumed with the answer.  `Prog E α` is the syntax of such a task
over an interface `E` of effects: it either has returned or is suspended at an
operation with a continuation for every answer.  The answers are not
interpreted here: a step is an operation together with *any* answer, and what
the surroundings can really answer is said by whoever runs the task.

`Prog.Step` is one resumption of a task that ends; `LoopStep` is one resumption
of a task that repeats a body, carrying a value from one turn to the next.
-/

namespace Resumption

open Trace

/-- Operations, and for each of them the type of its answers. -/
structure Effects where
  Op : Type
  Ans : Op → Type

/-- An operation together with the answer it got. -/
structure Event (E : Effects) where
  op : E.Op
  ans : E.Ans op

/-- A task that has returned, or is suspended at an operation. -/
inductive Prog (E : Effects) (α : Type) : Type
  | ret (value : α) : Prog E α
  | op (o : E.Op) (k : E.Ans o → Prog E α) : Prog E α

namespace Prog

variable {E : Effects} {α β : Type}

/-- Run the first task, then the second on its result. -/
def bind : Prog E α → (α → Prog E β) → Prog E β
  | .ret a, f => f a
  | .op o k, f => .op o fun answer => (k answer).bind f

instance : Monad (Prog E) where
  pure := .ret
  bind := bind

/-- The operation the task is suspended at. -/
def awaits : Prog E α → Option E.Op
  | .ret _ => none
  | .op o _ => some o

@[simp] theorem pure_eq (a : α) : (pure a : Prog E α) = .ret a := rfl

@[simp] theorem ret_bind (a : α) (f : α → Prog E β) : (Prog.ret a >>= f) = f a := rfl

@[simp] theorem op_bind (o : E.Op) (k : E.Ans o → Prog E α) (f : α → Prog E β) :
    (Prog.op o k >>= f) = .op o fun answer => k answer >>= f := rfl

theorem bind_assoc {γ : Type} (p : Prog E α) (f : α → Prog E β) (g : β → Prog E γ) :
    p >>= f >>= g = p >>= fun a => f a >>= g := by
  induction p with
  | ret a => rfl
  | op o k ih =>
      show Prog.op o _ = Prog.op o _
      exact congrArg (Prog.op o) (funext ih)

/-- One resumption. -/
inductive Step : Prog E α → Event E → Prog E α → Prop
  | resume (o : E.Op) (k : E.Ans o → Prog E α) (answer : E.Ans o) :
      Step (.op o k) ⟨o, answer⟩ (k answer)

theorem step_op {o : E.Op} {k : E.Ans o → Prog E α} {e : Event E} {p : Prog E α} :
    Step (.op o k) e p ↔ ∃ answer, e = ⟨o, answer⟩ ∧ p = k answer := by
  constructor
  · rintro ⟨⟩
    exact ⟨_, rfl, rfl⟩
  · rintro ⟨answer, rfl, rfl⟩
    exact .resume o k answer

theorem not_step_ret {a : α} {e : Event E} {p : Prog E α} : ¬ Step (.ret a) e p := by
  rintro ⟨⟩

/-- A run of a suspended task has either not begun or begins with an answer to
its operation. -/
theorem run_op {o : E.Op} {k : E.Ans o → Prog E α} {tr : List (Event E)} {q : Prog E α} :
    Run Step (.op o k) tr q ↔
      (tr = [] ∧ q = .op o k) ∨
        ∃ answer rest, tr = ⟨o, answer⟩ :: rest ∧ Run Step (k answer) rest q := by
  constructor
  · intro run
    cases tr with
    | nil => exact .inl ⟨rfl, run.of_nil⟩
    | cons e rest =>
        obtain ⟨p, step, hrest⟩ := run.of_cons
        obtain ⟨answer, rfl, rfl⟩ := step_op.mp step
        exact .inr ⟨answer, rest, rfl, hrest⟩
  · rintro (⟨rfl, rfl⟩ | ⟨answer, rest, rfl, hrest⟩)
    · exact Run.nil
    · exact Run.cons (.resume o k answer) hrest

/-- The task performs no other operations than the allowed ones. -/
def Within (allowed : E.Op → Prop) : Prog E α → Prop
  | .ret _ => True
  | .op o k => allowed o ∧ ∀ answer, (k answer).Within allowed

theorem Within.step {allowed : E.Op → Prop} {p q : Prog E α} {e : Event E} (h : p.Within allowed)
    (step : Step p e q) : allowed e.op ∧ q.Within allowed := by
  cases step with
  | resume o k answer => exact ⟨h.1, h.2 answer⟩

theorem Within.bind {allowed : E.Op → Prop} {p : Prog E α} {f : α → Prog E β}
    (h : p.Within allowed) (hf : ∀ a, (f a).Within allowed) : (p >>= f).Within allowed := by
  induction p with
  | ret a => exact hf a
  | op o k ih => exact ⟨h.1, fun answer => ih answer (h.2 answer)⟩

theorem run_ret {a : α} {tr : List (Event E)} {q : Prog E α} :
    Run Step (.ret a) tr q ↔ tr = [] ∧ q = .ret a := by
  constructor
  · intro run
    cases tr with
    | nil => exact ⟨rfl, run.of_nil⟩
    | cons e rest =>
        obtain ⟨p, step, -⟩ := run.of_cons
        exact absurd step not_step_ret
  · rintro ⟨rfl, rfl⟩
    exact Run.nil

end Prog

section Loop

variable {E : Effects} {σ ρ : Type} (body : σ → Prog E (σ ⊕ ρ))

/-- A finished turn that asks for another one is at the start of the next turn. -/
def settle : Prog E (σ ⊕ ρ) → Prog E (σ ⊕ ρ)
  | .ret (.inl next) => body next
  | task => task

/-- One resumption of the task that repeats `body`. -/
inductive LoopStep : Prog E (σ ⊕ ρ) → Event E → Prog E (σ ⊕ ρ) → Prop
  | resume (o : E.Op) (k : E.Ans o → Prog E (σ ⊕ ρ)) (answer : E.Ans o) :
      LoopStep (.op o k) ⟨o, answer⟩ (settle body (k answer))

variable {body}

@[simp] theorem settle_next (s : σ) : settle body (.ret (.inl s)) = body s := rfl

@[simp] theorem settle_done (r : ρ) : settle body (.ret (.inr r)) = .ret (.inr r) := rfl

@[simp] theorem settle_op (o : E.Op) (k : E.Ans o → Prog E (σ ⊕ ρ)) :
    settle body (.op o k) = .op o k := rfl

theorem loopStep_op {o : E.Op} {k : E.Ans o → Prog E (σ ⊕ ρ)} {e : Event E}
    {p : Prog E (σ ⊕ ρ)} :
    LoopStep body (.op o k) e p ↔ ∃ answer, e = ⟨o, answer⟩ ∧ p = settle body (k answer) := by
  constructor
  · rintro ⟨⟩
    exact ⟨_, rfl, rfl⟩
  · rintro ⟨answer, rfl, rfl⟩
    exact .resume o k answer

theorem awaits_of_loopStep {e : Event E} {p q : Prog E (σ ⊕ ρ)} (h : LoopStep body p e q) :
    p.awaits = some e.op := by
  cases h with
  | resume o k answer => rfl

theorem not_loopStep_ret {v : σ ⊕ ρ} {e : Event E} {p : Prog E (σ ⊕ ρ)} :
    ¬ LoopStep body (.ret v) e p := by
  rintro ⟨⟩

end Loop

end Resumption
