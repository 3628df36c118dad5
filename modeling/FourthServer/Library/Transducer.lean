import Mathlib.Data.List.Basic

/-!
# Stateful transformers of message streams

A transformer reads one message at a time and carries a state from each to the
next.  `Inverts f s g r` says that `g`, started in `r`, undoes `f`, started in
`s`, on every stream.  Since a transformer is causal, it then undoes every
initial part of such a stream too (`Inverts.mono`), which is what a receiver
that has read only some of the messages relies on.
-/

namespace Transducer

variable {σ ρ α β : Type*}

/-- The messages a transformer makes of a stream. -/
def transduce (f : σ → α → σ × β) : σ → List α → List β
  | _, [] => []
  | s, a :: rest => (f s a).2 :: transduce f (f s a).1 rest

/-- The state a transformer is in after a stream. -/
def after (f : σ → α → σ × β) (s : σ) (input : List α) : σ :=
  input.foldl (fun s a => (f s a).1) s

@[simp] theorem transduce_nil (f : σ → α → σ × β) (s : σ) : transduce f s [] = [] := rfl

@[simp] theorem after_nil (f : σ → α → σ × β) (s : σ) : after f s [] = s := rfl

theorem transduce_append (f : σ → α → σ × β) (s : σ) (first second : List α) :
    transduce f s (first ++ second) =
      transduce f s first ++ transduce f (after f s first) second := by
  induction first generalizing s with
  | nil => rfl
  | cons a rest ih => simp [transduce, after, ih]

@[simp] theorem length_transduce (f : σ → α → σ × β) (s : σ) (input : List α) :
    (transduce f s input).length = input.length := by
  induction input generalizing s with
  | nil => rfl
  | cons a rest ih => exact congrArg (· + 1) (ih _)

theorem after_append (f : σ → α → σ × β) (s : σ) (first second : List α) :
    after f s (first ++ second) = after f (after f s first) second := by
  simp [after]

theorem transduce_snoc (f : σ → α → σ × β) (s : σ) (input : List α) (a : α) :
    transduce f s (input ++ [a]) = transduce f s input ++ [(f (after f s input) a).2] := by
  rw [transduce_append]
  rfl

@[simp] theorem after_snoc (f : σ → α → σ × β) (s : σ) (input : List α) (a : α) :
    after f s (input ++ [a]) = (f (after f s input) a).1 := by
  rw [after_append]
  rfl

/-- A transformer that changes nothing. -/
theorem transduce_same (input : List α) :
    transduce (fun (_ : Unit) (a : α) => ((), a)) () input = input := by
  induction input with
  | nil => rfl
  | cons a rest ih => simp [transduce, ih]

/-- Causality: more input only adds output. -/
theorem transduce_mono (f : σ → α → σ × β) (s : σ) {first input : List α}
    (h : first <+: input) : transduce f s first <+: transduce f s input := by
  obtain ⟨second, rfl⟩ := h
  rw [transduce_append]
  exact List.prefix_append _ _

/-- `g` from `r` undoes `f` from `s` on every stream. -/
def Inverts (f : σ → α → σ × β) (s : σ) (g : ρ → β → ρ × α) (r : ρ) : Prop :=
  ∀ input, transduce g r (transduce f s input) = input

/-- Of an initial part of the transformed stream, the inverse recovers an
initial part of the original. -/
theorem Inverts.mono {f : σ → α → σ × β} {s : σ} {g : ρ → β → ρ × α} {r : ρ}
    (h : Inverts f s g r) {received : List β} {input : List α}
    (hinit : received <+: transduce f s input) : transduce g r received <+: input := by
  have := transduce_mono g r hinit
  rwa [h input] at this

/-- Where every single item is recovered from what it was made into, in whatever
states that was done and undone, so is a list of them. -/
theorem transduce_of_forall₂ {f : σ → α → σ × β} {g : ρ → β → ρ × α}
    (h : ∀ s r a, (g r (f s a).2).2 = a) (r : ρ) {received : List β} {input : List α}
    (hmade : List.Forall₂ (fun b a => ∃ s, (f s a).2 = b) received input) :
    transduce g r received = input := by
  induction hmade generalizing r with
  | nil => rfl
  | cons hhead _ ih =>
      obtain ⟨s, rfl⟩ := hhead
      rw [transduce, h, ih]

end Transducer
