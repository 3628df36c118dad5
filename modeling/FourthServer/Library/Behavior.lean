import FourthServer.Library.Trace
import Mathlib.Order.Monotone.Basic

/-!
# Runs without end

`Trace.Behavior R s state event` is a run of `R` from `s` that goes on for ever.  What
holds of every finite run holds at each of its times (`Behavior.run`).  A scheduler is
weakly fair to some events if these occur again whenever they stay possible;
`WeaklyFair.exists_goal` is the rule for what such a scheduler brings about.
-/

namespace Trace

variable {σ ε : Type*} {R : σ → ε → σ → Prop}

/-- A run that goes on for ever. -/
structure Behavior (R : σ → ε → σ → Prop) (s : σ) (state : ℕ → σ) (event : ℕ → ε) : Prop where
  init : state 0 = s
  next : ∀ n, R (state n) (event n) (state (n + 1))

/-- The events before a time. -/
def history (event : ℕ → ε) (n : ℕ) : List ε := (List.range n).map event

section History

variable (event : ℕ → ε) (n : ℕ)

@[simp] theorem history_zero : history event 0 = [] := rfl

@[simp] theorem length_history : (history event n).length = n := by simp [history]

theorem history_succ : history event (n + 1) = history event n ++ [event n] := by
  rw [history, List.range_succ, List.map_append]
  rfl

theorem history_succ_eq_cons :
    history event (n + 1) = event 0 :: history (fun m => event (m + 1)) n := by
  rw [history, List.range_succ_eq_map, List.map_cons, List.map_map]
  rfl

end History

section Behavior

variable {s : σ} {state : ℕ → σ} {event : ℕ → ε} {n m : ℕ}

theorem Behavior.run (h : Behavior R s state event) (n : ℕ) :
    Run R s (history event n) (state n) := by
  induction n with
  | zero =>
      rw [h.init]
      exact Run.nil
  | succ n ih =>
      rw [history_succ]
      exact ih.snoc (h.next n)

/-- From one time to a later one. -/
theorem Behavior.run_between (h : Behavior R s state event) (hle : n ≤ m) :
    ∃ rest, history event m = history event n ++ rest ∧ Run R (state n) rest (state m) := by
  induction m, hle using Nat.le_induction with
  | base => exact ⟨[], by simp, Run.nil⟩
  | succ m _ ih =>
      obtain ⟨rest, hrest, hrun⟩ := ih
      refine ⟨rest ++ [event m], ?_, hrun.snoc (h.next m)⟩
      rw [history_succ, hrest, List.append_assoc]

/-- The events before an earlier time come first. -/
theorem history_mono (event : ℕ → ε) (hle : n ≤ m) : history event n <+: history event m := by
  induction m, hle using Nat.le_induction with
  | base => exact List.prefix_rfl
  | succ m _ ih =>
      rw [history_succ]
      exact ih.trans (List.prefix_append _ _)

theorem history_length {tr : List ε} (h : tr <+: history event n) :
    history event tr.length = tr := by
  have hle : tr.length ≤ n := h.length_le.trans_eq (length_history event n)
  have hprefix := List.prefix_of_prefix_length_le (history_mono event hle) h (by simp)
  exact hprefix.eq_of_length (length_history event tr.length)

/-- A finite run whose last state has a step to itself can go on for ever. -/
theorem Run.exists_behavior {tr : List ε} {t : σ} {e : ε} (run : Run R s tr t) (hloop : R t e t) :
    ∃ state event, Behavior R s state event ∧
      ∀ n, tr.length ≤ n → ∃ k, history event n = tr ++ List.replicate k e := by
  induction tr generalizing s with
  | nil =>
      rw [run.of_nil] at hloop
      refine ⟨fun _ => s, fun _ => e, ⟨rfl, fun _ => hloop⟩, fun n _ => ⟨n, ?_⟩⟩
      rw [history, List.map_const', List.length_range]
      rfl
  | cons first rest ih =>
      obtain ⟨u, hstep, hrest⟩ := run.of_cons
      obtain ⟨state, event, h, hlater⟩ := ih hrest
      refine ⟨fun n => n.casesOn s state, fun n => n.casesOn first event, ⟨rfl, ?_⟩, ?_⟩
      · rintro (_ | n)
        · show R s first (state 0)
          rwa [h.init]
        · exact h.next n
      · rintro (_ | n) hle
        · cases hle
        · obtain ⟨k, hk⟩ := hlater n (Nat.le_of_succ_le_succ hle)
          refine ⟨k, ?_⟩
          rw [history_succ_eq_cons]
          exact congrArg (first :: ·) hk

/-! ## Weak fairness -/

/-- Good events occur again whenever they stay possible. -/
def WeaklyFair (possible : ℕ → Prop) (good : ε → Prop) (event : ℕ → ε) : Prop :=
  ∀ n, (∀ m, n ≤ m → possible m) → ∃ m, n ≤ m ∧ good (event m)

/-- **What fairness brings about.**  If good events are possible until a goal is
reached, and only so many of them occur before it, then it is reached. -/
theorem WeaklyFair.exists_goal {possible : ℕ → Prop} {good : ε → Prop}
    (hfair : WeaklyFair possible good event) {goal : ℕ → Prop} {count : ℕ → ℕ} {bound : ℕ}
    (hmono : Monotone count) (hgood : ∀ m, good (event m) → count m < count (m + 1))
    (hpossible : ∀ m, n ≤ m → ¬goal m → possible m)
    (hbound : ∀ m, n ≤ m → ¬goal m → count m ≤ bound) : ∃ m, n ≤ m ∧ goal m := by
  by_contra hnever
  have hshort (m : ℕ) (hle : n ≤ m) : ¬goal m := fun hgoal => hnever ⟨m, hle, hgoal⟩
  have hreach (k : ℕ) : ∃ m, n ≤ m ∧ k ≤ count m := by
    induction k with
    | zero => exact ⟨n, le_rfl, Nat.zero_le _⟩
    | succ k ih =>
        obtain ⟨m, hle, hk⟩ := ih
        obtain ⟨m', hle', hoccurs⟩ := hfair m fun i hi =>
          hpossible i (hle.trans hi) (hshort i (hle.trans hi))
        have hcount := hmono hle'
        have hlt := hgood m' hoccurs
        exact ⟨m' + 1, by omega, by omega⟩
  obtain ⟨m, hle, hmany⟩ := hreach (bound + 1)
  have hfew := hbound m hle (hshort m hle)
  omega

end Behavior

end Trace
