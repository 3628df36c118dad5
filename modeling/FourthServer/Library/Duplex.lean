import FourthServer.Library.Trace

/-!
# Two parties joined by lossless first-in-first-out channels

Each party is a transition relation of its own.  Of every event it says which
item the event puts on the outgoing channel, which item it takes from the
incoming one, and whether it reports the end of the incoming stream.  `Step`
interleaves the two parties freely: a taken item must be the oldest one under
way, and the end of a stream is seen only on an empty channel whose other party
has dropped its end.

`Run.project` is the fact everything else rests on: a run of the pair is a run
of either party, and what one party took is what the other one put, in order,
less what is still under way.
-/

namespace Duplex

open Trace

/-- A party: its steps, and what its events do to the two channels. -/
structure Party (σ ε φ ψ : Type*) where
  step : σ → ε → σ → Prop
  /-- The item an event puts on the outgoing channel. -/
  put : ε → Option φ
  /-- The item an event takes from the incoming channel. -/
  take : ε → Option ψ
  /-- The event reports the end of the incoming stream. -/
  eof : ε → Prop
  /-- The party has dropped its end of the connection. -/
  ended : σ → Prop

/-- Both parties and the items under way in each direction. -/
structure State (σ τ φ ψ : Type*) where
  left : σ
  right : τ
  toRight : List φ
  toLeft : List ψ

/-- The pair before anything was put on a channel. -/
def State.start {σ τ φ ψ : Type*} (left : σ) (right : τ) : State σ τ φ ψ :=
  ⟨left, right, [], []⟩

variable {σ τ ε δ φ ψ : Type*}

/-- One party moves. -/
inductive Step (A : Party σ ε φ ψ) (B : Party τ δ ψ φ) :
    State σ τ φ ψ → ε ⊕ δ → State σ τ φ ψ → Prop
  | left {s : State σ τ φ ψ} {e : ε} {next : σ} {rest : List ψ} (step : A.step s.left e next)
      (take : s.toLeft = (A.take e).toList ++ rest)
      (eof : A.eof e → s.toLeft = [] ∧ B.ended s.right) :
      Step A B s (.inl e) ⟨next, s.right, s.toRight ++ (A.put e).toList, rest⟩
  | right {s : State σ τ φ ψ} {e : δ} {next : τ} {rest : List φ} (step : B.step s.right e next)
      (take : s.toRight = (B.take e).toList ++ rest)
      (eof : B.eof e → s.toRight = [] ∧ A.ended s.left) :
      Step A B s (.inr e) ⟨s.left, next, rest, s.toLeft ++ (B.put e).toList⟩

/-- The events of the left party, in order. -/
def lefts (tr : List (ε ⊕ δ)) : List ε := tr.filterMap Sum.getLeft?

/-- The events of the right party, in order. -/
def rights (tr : List (ε ⊕ δ)) : List δ := tr.filterMap Sum.getRight?

@[simp] theorem lefts_nil : lefts ([] : List (ε ⊕ δ)) = [] := rfl

@[simp] theorem rights_nil : rights ([] : List (ε ⊕ δ)) = [] := rfl

@[simp] theorem lefts_append (tr₁ tr₂ : List (ε ⊕ δ)) :
    lefts (tr₁ ++ tr₂) = lefts tr₁ ++ lefts tr₂ := by
  simp [lefts]

@[simp] theorem rights_append (tr₁ tr₂ : List (ε ⊕ δ)) :
    rights (tr₁ ++ tr₂) = rights tr₁ ++ rights tr₂ := by
  simp [rights]

@[simp] theorem lefts_inl (e : ε) : lefts [(.inl e : ε ⊕ δ)] = [e] := rfl

@[simp] theorem lefts_inr (e : δ) : lefts [(.inr e : ε ⊕ δ)] = [] := rfl

@[simp] theorem rights_inl (e : ε) : rights [(.inl e : ε ⊕ δ)] = [] := rfl

@[simp] theorem rights_inr (e : δ) : rights [(.inr e : ε ⊕ δ)] = [e] := rfl

@[simp] theorem lefts_map_inl (events : List ε) :
    lefts (events.map (Sum.inl : ε → ε ⊕ δ)) = events := by
  simp [lefts, Function.comp_def]

@[simp] theorem rights_map_inl (events : List ε) :
    rights (events.map (Sum.inl : ε → ε ⊕ δ)) = [] := by
  simp [rights, Function.comp_def]

@[simp] theorem lefts_map_inr (events : List δ) :
    lefts (events.map (Sum.inr : δ → ε ⊕ δ)) = [] := by
  simp [lefts, Function.comp_def]

@[simp] theorem rights_map_inr (events : List δ) :
    rights (events.map (Sum.inr : δ → ε ⊕ δ)) = events := by
  simp [rights, Function.comp_def]

theorem length_lefts_rights (tr : List (ε ⊕ δ)) :
    tr.length = (lefts tr).length + (rights tr).length := by
  induction tr using List.reverseRecOn with
  | nil => rfl
  | append_singleton tr e ih =>
      rw [lefts_append, rights_append]
      simp only [List.length_append, ih]
      cases e <;> simp <;> omega

/-- Where an event of the left party is. -/
theorem split_left {tr : List (ε ⊕ δ)} {before after : List ε} {e : ε}
    (h : lefts tr = before ++ e :: after) :
    ∃ first rest, tr = first ++ .inl e :: rest ∧ lefts first = before := by
  obtain ⟨l, m, rfl, hl, hm⟩ := List.filterMap_eq_append_iff.mp h
  obtain ⟨silent, x, rest, rfl, hsilent, hx, -⟩ := List.filterMap_eq_cons_iff.mp hm
  obtain rfl := Sum.getLeft?_eq_some_iff.mp hx
  refine ⟨l ++ silent, rest, by simp, ?_⟩
  rw [lefts_append, show lefts silent = [] from List.filterMap_eq_nil_iff.mpr hsilent,
    List.append_nil]
  exact hl

/-- Where an event of the right party is. -/
theorem split_right {tr : List (ε ⊕ δ)} {before after : List δ} {e : δ}
    (h : rights tr = before ++ e :: after) :
    ∃ first rest, tr = first ++ .inr e :: rest ∧ rights first = before := by
  obtain ⟨l, m, rfl, hl, hm⟩ := List.filterMap_eq_append_iff.mp h
  obtain ⟨silent, x, rest, rfl, hsilent, hx, -⟩ := List.filterMap_eq_cons_iff.mp hm
  obtain rfl := Sum.getRight?_eq_some_iff.mp hx
  refine ⟨l ++ silent, rest, by simp, ?_⟩
  rw [rights_append, show rights silent = [] from List.filterMap_eq_nil_iff.mpr hsilent,
    List.append_nil]
  exact hl

/-- What a run of the pair says of its two parties and of the channels. -/
structure Projected (A : Party σ ε φ ψ) (B : Party τ δ ψ φ) (left : σ) (right : τ)
    (tr : List (ε ⊕ δ)) (s : State σ τ φ ψ) : Prop where
  left_run : Run A.step left (lefts tr) s.left
  right_run : Run B.step right (rights tr) s.right
  toRight_eq : (lefts tr).filterMap A.put = (rights tr).filterMap B.take ++ s.toRight
  toLeft_eq : (rights tr).filterMap B.put = (lefts tr).filterMap A.take ++ s.toLeft

theorem project {A : Party σ ε φ ψ} {B : Party τ δ ψ φ} {left : σ} {right : τ}
    {tr : List (ε ⊕ δ)} {s : State σ τ φ ψ}
    (run : Run (Step A B) (State.start left right) tr s) : Projected A B left right tr s := by
  refine run.invariant (I := Projected A B left right)
    ⟨Run.nil, Run.nil, by simp [State.start], by simp [State.start]⟩ ?_
  rintro tr s e s' - hs step
  cases step with
  | left step htake _ =>
      refine ⟨by simpa using hs.left_run.snoc step, by simpa using hs.right_run, ?_, ?_⟩
      · simp only [lefts_append, lefts_inl, hs.toRight_eq, rights_append, rights_inl,
          List.append_nil, filterMap_snoc, List.append_assoc]
      · simp only [rights_append, rights_inl, List.append_nil, hs.toLeft_eq, htake, lefts_append,
          lefts_inl, filterMap_snoc, List.append_assoc]
  | right step htake _ =>
      refine ⟨by simpa using hs.left_run, by simpa using hs.right_run.snoc step, ?_, ?_⟩
      · simp only [lefts_append, lefts_inr, List.append_nil, hs.toRight_eq, htake, rights_append,
          rights_inr, filterMap_snoc, List.append_assoc]
      · simp only [rights_append, rights_inr, hs.toLeft_eq, lefts_append, lefts_inr,
          List.append_nil, filterMap_snoc, List.append_assoc]

/-! ## One party alone -/

section Alone

variable {A : Party σ ε φ ψ} {B : Party τ δ ψ φ} {left next : σ} {right after : τ}
  {toRight rest : List φ} {toLeft remaining : List ψ}

/-- While its input lasts, the left party can run alone. -/
theorem run_left {events : List ε} (run : Run A.step left events next)
    (htake : toLeft = events.filterMap A.take ++ remaining) (heof : ∀ e ∈ events, ¬A.eof e) :
    Run (Step A B) ⟨left, right, toRight, toLeft⟩ (events.map .inl)
      ⟨next, right, toRight ++ events.filterMap A.put, remaining⟩ := by
  induction run generalizing remaining with
  | nil => simpa using htake ▸ Run.nil
  | @snoc events t e u _ step ih =>
      rw [filterMap_snoc, List.append_assoc] at htake
      rw [filterMap_snoc, List.map_append, ← List.append_assoc]
      refine (ih htake fun e' hmem => heof e' (by simp [hmem])).snoc ?_
      exact .left step rfl fun h => absurd h (heof e (by simp))

/-- While its input lasts, the right party can run alone. -/
theorem run_right {events : List δ} (run : Run B.step right events after)
    (htake : toRight = events.filterMap B.take ++ rest) (heof : ∀ e ∈ events, ¬B.eof e) :
    Run (Step A B) ⟨left, right, toRight, toLeft⟩ (events.map .inr)
      ⟨left, after, rest, toLeft ++ events.filterMap B.put⟩ := by
  induction run generalizing rest with
  | nil => simpa using htake ▸ Run.nil
  | @snoc events t e u _ step ih =>
      rw [filterMap_snoc, List.append_assoc] at htake
      rw [filterMap_snoc, List.map_append, ← List.append_assoc]
      refine (ih htake fun e' hmem => heof e' (by simp [hmem])).snoc ?_
      exact .right step rfl fun h => absurd h (heof e (by simp))

end Alone

/-! ## The end of a stream -/

section Ends

variable {A : Party σ ε φ ψ} {B : Party τ δ ψ φ} {left : σ} {right : τ} {tr : List (ε ⊕ δ)}
  {s : State σ τ φ ψ}

/-- Who saw the end of its stream has an ended party opposite. -/
theorem ended_of_eof (hstuck : ∀ s e t, A.ended s → ¬A.step s e t)
    (run : Run (Step A B) (State.start left right) tr s) :
    ∀ e ∈ rights tr, B.eof e → A.ended s.left := by
  refine run.invariant
    (I := fun tr s => ∀ e ∈ rights tr, B.eof e → A.ended s.left) (by simp) ?_
  intro tr s e s' _ ih step
  cases step with
  | left step _ _ =>
      intro e' hmem heof
      rw [rights_append, rights_inl, List.append_nil] at hmem
      exact absurd step (hstuck _ _ _ (ih e' hmem heof))
  | right step _ eof =>
      intro e' hmem heof
      rw [rights_append, rights_inr] at hmem
      rcases List.mem_append.mp hmem with hmem | hmem
      · exact ih e' hmem heof
      · cases List.mem_singleton.mp hmem
        exact (eof heof).2

/-- Where the right party ends only because it saw the end of its stream, the
left party never sees the end of its own. -/
theorem not_eof_of_ends (law : List δ → δ → Prop) (hstuck : ∀ s e t, A.ended s → ¬A.step s e t)
    (hends : ∀ events t, Run B.step right events t → Along law events → B.ended t →
      ∃ e ∈ events, B.eof e)
    (run : Run (Step A B) (State.start left right) tr s) (hlaw : Along law (rights tr)) :
    ∀ e ∈ lefts tr, ¬A.eof e := by
  induction run with
  | nil => simp
  | @snoc tr s e s' hrun step ih =>
      cases step with
      | left step _ eof =>
          have hbefore : Along law (rights tr) := by simpa using hlaw
          intro e' hmem
          rw [lefts_append, lefts_inl] at hmem
          rcases List.mem_append.mp hmem with hmem | hmem
          · exact ih hbefore e' hmem
          · cases List.mem_singleton.mp hmem
            intro heof
            obtain ⟨other, hother, hsaw⟩ :=
              hends _ _ (project hrun).right_run hbefore (eof heof).2
            exact hstuck _ _ _ (ended_of_eof hstuck hrun other hother hsaw) step
      | right step _ _ =>
          rw [rights_append, rights_inr] at hlaw
          simpa using ih (along_snoc.mp hlaw).1

/-- Once the right party has dropped its end and nothing is under way to the left
one, that one takes nothing more. -/
theorem no_take_after_end (hstuck : ∀ s e t, B.ended s → ¬B.step s e t) {start : State σ τ φ ψ}
    (run : Run (Step A B) start tr s) (hempty : start.toLeft = []) (hended : B.ended start.right) :
    ∀ e ∈ lefts tr, A.take e = none := by
  suffices h : (∀ e ∈ lefts tr, A.take e = none) ∧ s.toLeft = [] ∧ B.ended s.right from h.1
  refine run.invariant (I := fun tr s => (∀ e ∈ lefts tr, A.take e = none) ∧ s.toLeft = [] ∧
    B.ended s.right) ⟨by simp, hempty, hended⟩ ?_
  rintro tr s e s' - ⟨htaken, hempty, hended⟩ step
  cases step with
  | @left e _ _ step htake _ =>
      rw [hempty] at htake
      obtain ⟨hnone, hrest⟩ := List.append_eq_nil_iff.mp htake.symm
      refine ⟨?_, hrest, hended⟩
      rw [lefts_append, lefts_inl]
      intro e' hmem
      rcases List.mem_append.mp hmem with hmem | hmem
      · exact htaken e' hmem
      · rw [List.mem_singleton.mp hmem]
        exact Option.toList_eq_nil_iff.mp hnone
  | right step _ _ => exact absurd step (hstuck _ _ _ hended)

end Ends

end Duplex
