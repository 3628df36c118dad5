import Mathlib.Data.List.Induction

/-!
# Labelled runs

A transition relation `R : σ → ε → σ → Prop` relates a state, the event that
happens and the state after it.  `Trace.Run R s tr t` says that the events `tr`
lead from `s` to `t`.  Runs grow at their end, so that an invariant may speak
about the whole history: `Run.invariant` is the one induction every later
development uses.
-/

namespace Trace

variable {σ ε : Type*} {R : σ → ε → σ → Prop}

/-- The steps of `R` lead from `s` to the final state along the listed events. -/
inductive Run (R : σ → ε → σ → Prop) (s : σ) : List ε → σ → Prop
  | nil : Run R s [] s
  | snoc {tr : List ε} {t : σ} {e : ε} {u : σ} (run : Run R s tr t) (step : R t e u) :
      Run R s (tr ++ [e]) u

namespace Run

variable {s t u : σ} {e : ε} {tr tr₁ tr₂ : List ε}

theorem single (step : R s e t) : Run R s [e] t :=
  Run.nil.snoc step

/-- **History invariants.**  What holds of the empty history, and is preserved
by every step of a run, holds at the end of every run. -/
theorem invariant {I : List ε → σ → Prop} (initial : I [] s)
    (hstep : ∀ tr t e u, Run R s tr t → I tr t → R t e u → I (tr ++ [e]) u)
    (run : Run R s tr t) : I tr t := by
  induction run with
  | nil => exact initial
  | snoc hrun step ih => exact hstep _ _ _ _ hrun ih step

theorem append (first : Run R s tr₁ t) (second : Run R t tr₂ u) : Run R s (tr₁ ++ tr₂) u := by
  induction second with
  | nil => simpa using first
  | snoc _ step ih => simpa using ih.snoc step

theorem cons (step : R s e t) (rest : Run R t tr u) : Run R s (e :: tr) u :=
  (single step).append rest

theorem of_snoc (run : Run R s (tr ++ [e]) u) : ∃ t, Run R s tr t ∧ R t e u := by
  generalize h : tr ++ [e] = events at run
  cases run with
  | nil => simp at h
  | snoc run step =>
      obtain ⟨rfl, hlast⟩ := List.append_inj' h rfl
      cases hlast
      exact ⟨_, run, step⟩

theorem of_append (run : Run R s (tr₁ ++ tr₂) u) : ∃ t, Run R s tr₁ t ∧ Run R t tr₂ u := by
  induction tr₂ using List.reverseRecOn generalizing u with
  | nil => exact ⟨u, by simpa using run, Run.nil⟩
  | append_singleton rest e ih =>
      rw [← List.append_assoc] at run
      obtain ⟨v, hrun, step⟩ := run.of_snoc
      obtain ⟨t, hfirst, hrest⟩ := ih hrun
      exact ⟨t, hfirst, hrest.snoc step⟩

theorem of_nil (run : Run R s [] t) : t = s := by
  generalize h : ([] : List ε) = events at run
  cases run with
  | nil => rfl
  | snoc run step => simp at h

theorem of_cons (run : Run R s (e :: tr) u) : ∃ t, R s e t ∧ Run R t tr u := by
  have hsplit : Run R s ([e] ++ tr) u := run
  obtain ⟨t, hhead, hrest⟩ := hsplit.of_append
  have hsnoc : Run R s ([] ++ [e]) t := hhead
  obtain ⟨s', hnil, step⟩ := hsnoc.of_snoc
  rw [of_nil hnil] at step
  exact ⟨t, step, hrest⟩

/-- **A run to a goal.**  Where every state short of the goal has a good step to a
state of smaller rank, a run of good steps gets there. -/
theorem exists_of_rank {I Goal : σ → Prop} {Good : ε → Prop} (rank : σ → ℕ)
    (hstep : ∀ s, I s → ¬ Goal s → ∃ e t, R s e t ∧ Good e ∧ I t ∧ rank t < rank s) (h : I s) :
    ∃ tr t, Run R s tr t ∧ (∀ e ∈ tr, Good e) ∧ Goal t := by
  generalize hrank : rank s = n
  induction n using Nat.strongRecOn generalizing s with
  | ind n ih =>
      by_cases hgoal : Goal s
      · exact ⟨[], s, Run.nil, by simp, hgoal⟩
      · obtain ⟨e, t, step, hgood, ht, hlt⟩ := hstep s h hgoal
        obtain ⟨tr, u, run, hall, hu⟩ := ih (rank t) (hrank ▸ hlt) ht rfl
        exact ⟨e :: tr, u, run.cons step, List.forall_mem_cons.mpr ⟨hgood, hall⟩, hu⟩

section Representation

variable {τ : Type*} {N : τ → ε → τ → Prop} {f : τ → σ} {p q : τ}

/-- A run is a run between representatives, when every step is one. -/
theorem lift (hstep : ∀ p e t, R (f p) e t → ∃ q, N p e q ∧ t = f q) (run : Run R (f p) tr t) :
    ∃ q, Run N p tr q ∧ t = f q := by
  induction run with
  | nil => exact ⟨p, Run.nil, rfl⟩
  | snoc _ step ih =>
      obtain ⟨q, hrun, rfl⟩ := ih
      obtain ⟨r, hnext, rfl⟩ := hstep _ _ _ step
      exact ⟨r, hrun.snoc hnext, rfl⟩

theorem map (hstep : ∀ p e q, N p e q → R (f p) e (f q)) (run : Run N p tr q) :
    Run R (f p) tr (f q) := by
  induction run with
  | nil => exact Run.nil
  | snoc _ step ih => exact ih.snoc (hstep _ _ _ step)

end Representation

end Run

/-- What a history shows of its last event. -/
theorem filterMap_snoc {β : Type*} (f : ε → Option β) (tr : List ε) (e : ε) :
    (tr ++ [e]).filterMap f = tr.filterMap f ++ (f e).toList := by
  rw [List.filterMap_append]
  cases h : f e <;> simp [h]

/-- Where an event of a longer history is: it is the last one, or it was there
before. -/
theorem snoc_split {tr before after : List ε} {e x : ε} (h : tr ++ [e] = before ++ x :: after) :
    (before = tr ∧ x = e ∧ after = []) ∨
      ∃ rest, after = rest ++ [e] ∧ tr = before ++ x :: rest := by
  induction after using List.reverseRecOn with
  | nil =>
      obtain ⟨rfl, hlast⟩ := List.append_inj' h rfl
      cases hlast
      exact .inl ⟨rfl, rfl, rfl⟩
  | append_singleton rest last _ =>
      have hsplit : tr ++ [e] = (before ++ x :: rest) ++ [last] := by simpa using h
      obtain ⟨rfl, hlast⟩ := List.append_inj' hsplit rfl
      cases hlast
      exact .inr ⟨rest, rfl, rfl⟩

/-! ## Laws about events

What may happen next often depends on what happened before. -/

/-- Every event of the history obeys the law, given the events before it. -/
def Along (law : List ε → ε → Prop) (tr : List ε) : Prop :=
  ∀ before e after, tr = before ++ e :: after → law before e

section Along

variable {law : List ε → ε → Prop} {tr : List ε} {e : ε}

theorem along_nil : Along law [] := by
  intro before e after h
  simp at h

theorem along_snoc : Along law (tr ++ [e]) ↔ Along law tr ∧ law tr e := by
  constructor
  · intro h
    refine ⟨?_, h tr e [] rfl⟩
    rintro before e' after rfl
    exact h before e' (after ++ [e]) (by simp)
  · rintro ⟨htr, he⟩ before e' after h
    rcases snoc_split h with ⟨rfl, rfl, rfl⟩ | ⟨rest, rfl, rfl⟩
    · exact he
    · exact htr before e' rest rfl

theorem along_append {rest : List ε} :
    Along law (tr ++ rest) ↔ Along law tr ∧ Along (fun before => law (tr ++ before)) rest := by
  induction rest using List.reverseRecOn with
  | nil => simp [along_nil]
  | append_singleton rest e ih => rw [← List.append_assoc, along_snoc, along_snoc, ih, and_assoc]

theorem Along.mono {law' : List ε → ε → Prop} (h : Along law tr)
    (himp : ∀ before e, law before e → law' before e) : Along law' tr :=
  fun before e after hsplit => himp before e (h before e after hsplit)

theorem along_cons :
    Along law (e :: tr) ↔ law [] e ∧ Along (fun before => law (e :: before)) tr := by
  constructor
  · intro h
    refine ⟨h [] e tr rfl, ?_⟩
    rintro before e' after rfl
    exact h (e :: before) e' after rfl
  · rintro ⟨he, htr⟩ before e' after h
    cases before with
    | nil =>
        cases h
        exact he
    | cons first before =>
        cases h
        exact htr before e' after rfl

/-- A law that does not look back. -/
theorem along_const {good : ε → Prop} : Along (fun _ e => good e) tr ↔ ∀ e ∈ tr, good e := by
  induction tr using List.reverseRecOn with
  | nil => simp [along_nil]
  | append_singleton tr e ih =>
      rw [along_snoc, ih]
      simp [or_imp, forall_and]

/-- An invariant of the runs whose events obey a law. -/
theorem Run.invariant_along {s t : σ} {I : List ε → σ → Prop} (initial : I [] s)
    (hstep : ∀ tr t e u, I tr t → R t e u → law tr e → I (tr ++ [e]) u)
    (run : Run R s tr t) (hlaw : Along law tr) : I tr t := by
  induction run with
  | nil => exact initial
  | snoc _ step ih =>
      obtain ⟨htr, he⟩ := along_snoc.mp hlaw
      exact hstep _ _ _ _ (ih htr) step he

end Along

/-! ## Since an event -/

/-- There was an event of the one kind, given the events before it, and every event
after it is of the other. -/
def Since (kind : List ε → ε → Prop) (quiet : ε → Prop) (tr : List ε) : Prop :=
  ∃ before e after, tr = before ++ e :: after ∧ kind before e ∧ ∀ x ∈ after, quiet x

section Since

variable {kind : List ε → ε → Prop} {quiet : ε → Prop} {tr : List ε} {e : ε}

theorem not_since_nil : ¬Since kind quiet [] := by
  rintro ⟨before, e, after, h, -⟩
  simp at h

theorem since_snoc : Since kind quiet (tr ++ [e]) ↔ kind tr e ∨ quiet e ∧ Since kind quiet tr := by
  constructor
  · rintro ⟨before, x, after, h, hkind, hquiet⟩
    rcases snoc_split h with ⟨rfl, rfl, rfl⟩ | ⟨rest, rfl, rfl⟩
    · exact .inl hkind
    · rw [List.forall_mem_append] at hquiet
      exact .inr ⟨hquiet.2 e (List.mem_singleton_self e), before, x, rest, rfl, hkind, hquiet.1⟩
  · rintro (hkind | ⟨hquiet, before, x, after, rfl, hkind, hafter⟩)
    · exact ⟨tr, e, [], rfl, hkind, by simp⟩
    · refine ⟨before, x, after ++ [e], by simp, hkind, ?_⟩
      exact List.forall_mem_append.mpr ⟨hafter, by simpa using hquiet⟩

end Since

end Trace
