import FourthServer.Library.Trace

/-!
# Gates before traffic

A connection comes to some gates, each of which lets it pass or not, and carries
traffic.  `Gated required marks` says of what an observer has seen of one
connection that no traffic went before the required gates were passed, in their
order, and none at all if some gate refused the connection.
-/

namespace Gates

variable {γ τ : Type*}

/-- What an observer sees of a connection. -/
inductive Mark (γ τ : Type*)
  /-- The connection came to a gate. -/
  | gate (gate : γ) (passed : Bool)
  | traffic (item : τ)

@[simp] def answer? : Mark γ τ → Option (γ × Bool)
  | .gate gate passed => some (gate, passed)
  | .traffic _ => none

/-- The gates the connection came to, with what they made of it. -/
def answers (marks : List (Mark γ τ)) : List (γ × Bool) := marks.filterMap answer?

/-- The gates, all of them passed. -/
def allPassed (required : List γ) : List (γ × Bool) := required.map fun gate => (gate, true)

/-- There was no traffic. -/
def Quiet (marks : List (Mark γ τ)) : Prop := ∀ item, .traffic item ∉ marks

/-- Traffic only behind the gates. -/
structure Gated (required : List γ) (marks : List (Mark γ τ)) : Prop where
  /-- Before any traffic the gates were passed, in this order. -/
  behind : ∀ before item after, marks = before ++ .traffic item :: after →
    answers before = allPassed required
  /-- Whom a gate refused has no traffic, before or after. -/
  refused : ∀ gate, .gate gate false ∈ marks → Quiet marks

variable {required : List γ} {marks : List (Mark γ τ)}

@[simp] theorem answers_nil : answers ([] : List (Mark γ τ)) = [] := rfl

@[simp] theorem answers_snoc (mark : Mark γ τ) :
    answers (marks ++ [mark]) = answers marks ++ (answer? mark).toList :=
  Trace.filterMap_snoc _ marks mark

theorem quiet_nil : Quiet ([] : List (Mark γ τ)) := by
  simp [Quiet]

theorem Quiet.snoc_gate (h : Quiet marks) (gate : γ) (passed : Bool) :
    Quiet (marks ++ [.gate gate passed]) := by
  intro item hmem
  rcases List.mem_append.mp hmem with hmem | hmem
  · exact h item hmem
  · cases List.mem_singleton.mp hmem

theorem Quiet.gated (h : Quiet marks) : Gated required marks where
  behind before item after hsplit := absurd (hsplit ▸ by simp) (h item)
  refused _ _ := h

/-- Behind the gates there may be traffic. -/
theorem Gated.snoc_traffic (h : Gated required marks)
    (hpassed : answers marks = allPassed required) (item : τ) :
    Gated required (marks ++ [.traffic item]) where
  behind := by
    intro before other after hsplit
    rcases Trace.snoc_split hsplit with ⟨rfl, -, -⟩ | ⟨rest, -, rfl⟩
    · exact hpassed
    · exact h.behind before other rest rfl
  refused := by
    intro gate hmem
    have hanswer : (gate, false) ∈ answers marks := by
      refine List.mem_filterMap.mpr ⟨.gate gate false, ?_, rfl⟩
      simpa using hmem
    rw [hpassed] at hanswer
    obtain ⟨other, -, heq⟩ := List.mem_map.mp hanswer
    cases heq

end Gates
