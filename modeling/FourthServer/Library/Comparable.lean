import FourthServer.Library.Resumption

/-!
# Comparing two runs

Two lists are comparable when one of them begins with the other.  Two histories
of one deterministic system are compared in this way when one run may have come
further than the other: as far as both have come, they are the same.  A run
that cannot go on has come as far as any comparable one
(`Run.prefix_of_stuck`).
-/

namespace Comparison

open Trace

variable {α β : Type*} {l m n : List α}

/-- One of the lists begins with the other. -/
def Comparable (l m : List α) : Prop := l <+: m ∨ m <+: l

theorem Comparable.refl (l : List α) : Comparable l l := .inl List.prefix_rfl

theorem Comparable.symm (h : Comparable l m) : Comparable m l := Or.symm h

/-- A list that the second one begins with is comparable too. -/
theorem Comparable.initial (h : Comparable l m) (hinit : n <+: m) : Comparable l n := by
  rcases h with h | h
  · exact List.prefix_or_prefix_of_prefix h hinit
  · exact .inr (hinit.trans h)

/-- Comparable lists are taken to comparable ones by a function that only adds to
its value for a longer list. -/
theorem Comparable.mono {f : List α → List β} (hf : ∀ l m, l <+: m → f l <+: f m)
    (h : Comparable l m) : Comparable (f l) (f m) := by
  rcases h with h | h
  · exact .inl (hf l m h)
  · exact .inr (hf m l h)

/-- The lists stay comparable when the first one grows as the second one did. -/
theorem Comparable.snoc {a : α} (h : Comparable l m)
    (hnext : ∀ b rest, m = l ++ b :: rest → b = a) :
    Comparable (l ++ [a]) m := by
  rcases h with ⟨rest, rfl⟩ | h
  · cases rest with
    | nil => exact .inr (by simp)
    | cons b rest =>
        obtain rfl := hnext b rest rfl
        exact .inl ⟨rest, by simp⟩
  · exact .inr (h.trans (List.prefix_append _ _))

/-- Comparable lists agree on what comes after a common beginning. -/
theorem Comparable.next_eq {a b : α} (h : Comparable l m) (hl : n ++ [a] <+: l)
    (hm : n ++ [b] <+: m) : a = b := by
  have heq : n ++ [a] = n ++ [b] := by
    rcases h with h | h
    · rcases List.prefix_or_prefix_of_prefix (hl.trans h) hm with hcmp | hcmp
      · exact hcmp.eq_of_length (by simp)
      · exact (hcmp.eq_of_length (by simp)).symm
    · rcases List.prefix_or_prefix_of_prefix hl (hm.trans h) with hcmp | hcmp
      · exact hcmp.eq_of_length (by simp)
      · exact (hcmp.eq_of_length (by simp)).symm
  simpa using heq

theorem eq_of_prefixes (h : l <+: m) (h' : m <+: l) : l = m :=
  h.eq_of_length_le h'.length_le

/-- What has come further than a list has come as far as that list grows by one. -/
theorem Comparable.concat_prefix {a : α} (h : Comparable l (m ++ [a])) (hinit : m <+: l)
    (hne : l ≠ m) : m ++ [a] <+: l := by
  rcases h with h | h
  · rcases List.prefix_concat_iff.mp h with heq | hless
    · exact heq ▸ List.prefix_rfl
    · exact absurd (eq_of_prefixes hless hinit) hne
  · exact h

/-! ## Runs of a deterministic system -/

variable {σ ε : Type*} {R : σ → ε → σ → Prop} {s t t' : σ} {tr tr' : List ε}

/-- A state and an event determine the next state. -/
def Deterministic (R : σ → ε → σ → Prop) : Prop :=
  ∀ s e t t', R s e t → R s e t' → t = t'

/-- The system cannot go on. -/
def Stuck (R : σ → ε → σ → Prop) (s : σ) : Prop := ∀ e t, ¬ R s e t

theorem Run.unique (hdet : Deterministic R) (run : Run R s tr t) (run' : Run R s tr t') :
    t = t' := by
  induction run generalizing t' with
  | nil => exact run'.of_nil.symm
  | snoc _ step ih =>
      obtain ⟨u, hbefore, step'⟩ := run'.of_snoc
      rw [← ih hbefore] at step'
      exact hdet _ _ _ _ step step'

theorem Run.prefix_of_stuck (hdet : Deterministic R) (run : Run R s tr t)
    (run' : Run R s tr' t') (hstuck : Stuck R t) (h : Comparable tr tr') : tr' <+: tr := by
  rcases h with ⟨rest, rfl⟩ | h
  · cases rest with
    | nil => exact ⟨[], by simp⟩
    | cons e rest =>
        obtain ⟨u, hbefore, hrest⟩ := run'.of_append
        rw [Run.unique hdet hbefore run] at hrest
        obtain ⟨v, step, -⟩ := hrest.of_cons
        exact absurd step (hstuck e v)
  · exact h

/-- A task does not choose how it goes on. -/
theorem loopStep_deterministic {E : Resumption.Effects} {τ ρ : Type}
    (body : τ → Resumption.Prog E (τ ⊕ ρ)) : Deterministic (Resumption.LoopStep body) := by
  intro p e q q' step step'
  cases step with
  | resume o k answer =>
      cases step'
      rfl

end Comparison
