import FourthServer.Library.Trace

/-!
# Streams that pause after an error

A stream of items, each of which can be decoded or not, is read by polling.
After an item that could not be decoded the next poll yields nothing, and the
one after that yields the next item.  A reader that takes its `n`-th poll for
the `n`-th item is in step as long as every item is decoded.  After the first
error it falls behind by one item with every second poll, so that it is still
right only if all the items it then reads are errors too
(`inStep_iff_harmless`).
-/

namespace Polling

open Trace

variable {ε α : Type*}

/-- The items among the answers of some polls. -/
def items (polls : List (Option (Except ε α))) : List (Except ε α) := polls.filterMap id

/-- The item could not be decoded. -/
def rejected : Except ε α → Bool
  | .error _ => true
  | .ok _ => false

/-- The last poll yielded an error. -/
def Broken (polls : List (Option (Except ε α))) : Prop :=
  ∃ error, polls.getLast? = some (some (.error error))

/-- A poll yields nothing after an error, and only then. -/
def pauses (before : List (Option (Except ε α))) (answer : Option (Except ε α)) : Prop :=
  answer = none ↔ Broken before

/-- A poll that yields a decoded item yields the item of its own number. -/
def inStep (before : List (Option (Except ε α))) : Option (Except ε α) → Prop
  | some (.ok _) => (items before).length = before.length
  | _ => True

/-- Of the items that `n` polls read, all those from the first rejected one on
are rejected. -/
def Harmless (rejects : ℕ → Bool) (n : ℕ) : Prop :=
  ∀ i, rejects i = true → (∀ j < i, rejects j = false) →
    ∀ m, i + 2 * m < n → rejects (i + m) = true

/-- The items are rejected as foreseen. -/
def Foreseen (rejects : ℕ → Bool) (found : List (Except ε α)) : Prop :=
  ∀ i item, found[i]? = some item → rejected item = rejects i

variable {rejects : ℕ → Bool} {polls : List (Option (Except ε α))}
  {answer : Option (Except ε α)}

@[simp] theorem items_nil : items ([] : List (Option (Except ε α))) = [] := rfl

@[simp] theorem items_snoc : items (polls ++ [answer]) = items polls ++ answer.toList :=
  filterMap_snoc id polls answer

theorem broken_snoc : Broken (polls ++ [answer]) ↔ ∃ error, answer = some (.error error) := by
  simp [Broken]

theorem Harmless.mono {n n' : ℕ} (h : Harmless rejects n') (hle : n ≤ n') : Harmless rejects n :=
  fun i hi hfirst m hm => h i hi hfirst m (by omega)

/-- Where a reader is. -/
inductive Reading (rejects : ℕ → Bool) (polls : List (Option (Except ε α))) : Prop
  /-- Nothing was rejected so far. -/
  | clean (accepted : ∀ j < polls.length, rejects j = false)
      (count : (items polls).length = polls.length) (unbroken : ¬Broken polls)
      (own : Along inStep polls)
  /-- Since the `i`-th item, `m + 1` items were read, all of them rejected. -/
  | behind (i m : ℕ) (first : ∀ j < i, rejects j = false)
      (all : ∀ k ≤ m, rejects (i + k) = true) (count : (items polls).length = i + m + 1)
      (place : Broken polls ∧ polls.length = i + 2 * m + 1 ∨
        ¬Broken polls ∧ polls.length = i + 2 * m + 2)
      (own : Along inStep polls)
  /-- An item was taken for a later one. -/
  | stale (harmful : ¬Harmless rejects polls.length) (own : ¬Along inStep polls)

theorem Foreseen.initial {found more : List (Except ε α)} (h : Foreseen rejects (found ++ more)) :
    Foreseen rejects found := by
  intro i item hitem
  have hlt : i < found.length := (List.getElem?_eq_some_iff.mp hitem).1
  exact h i item (by rw [List.getElem?_append_left hlt, hitem])

theorem Foreseen.snoc {found : List (Except ε α)} {item : Except ε α} (h : Foreseen rejects found)
    (hitem : rejected item = rejects found.length) : Foreseen rejects (found ++ [item]) := by
  intro i other hother
  rcases Nat.lt_or_ge i found.length with hlt | hge
  · exact h i other (by rwa [List.getElem?_append_left hlt] at hother)
  · rw [List.getElem?_append_right hge] at hother
    obtain ⟨hzero, rfl⟩ := List.getElem?_eq_some_iff.mp hother
    obtain rfl : i = found.length := by simp at hzero; omega
    simpa using hitem

theorem Foreseen.last {item : Except ε α}
    (h : Foreseen rejects (items (polls ++ [some item]))) :
    rejected item = rejects (items polls).length :=
  h _ item (by simp)

theorem Reading.snoc (h : Reading rejects polls) (hpauses : pauses polls answer)
    (hforeseen : Foreseen rejects (items (polls ++ [answer]))) :
    Reading rejects (polls ++ [answer]) := by
  have hlength : (polls ++ [answer]).length = polls.length + 1 := by simp
  cases h with
  | clean accepted count unbroken own =>
      match answer with
      | none => exact absurd (hpauses.mp rfl) unbroken
      | some (.ok item) =>
          have hverdict : false = rejects (items polls).length := hforeseen.last
          refine .clean (fun j hj => ?_) (by simp [count]) (by simp [broken_snoc])
            (along_snoc.mpr ⟨own, count⟩)
          rcases Nat.lt_or_ge j polls.length with hlt | hge
          · exact accepted j hlt
          · obtain rfl : j = (items polls).length := by omega
            exact hverdict.symm
      | some (.error error) =>
          -- the first rejected item: from here on the reader is behind
          have hverdict : true = rejects (items polls).length := hforeseen.last
          refine .behind (items polls).length 0 (fun j hj => accepted j (by omega)) ?_ (by simp)
            (.inl ⟨broken_snoc.mpr ⟨error, rfl⟩, by omega⟩) (along_snoc.mpr ⟨own, trivial⟩)
          intro k hk
          obtain rfl : k = 0 := by omega
          exact hverdict.symm
  | behind i m first all count place own =>
      rcases place with ⟨hbroken, hplace⟩ | ⟨hunbroken, hplace⟩
      · obtain rfl : answer = none := hpauses.mpr hbroken
        exact .behind i m first all (by simp [count]) (.inr ⟨by simp [broken_snoc], by omega⟩)
          (along_snoc.mpr ⟨own, trivial⟩)
      · match answer with
        | none => exact absurd (hpauses.mp rfl) hunbroken
        | some (.error error) =>
            have hverdict : true = rejects (items polls).length := hforeseen.last
            refine .behind i (m + 1) first (fun k hk => ?_) (by simp [count]; omega)
              (.inl ⟨broken_snoc.mpr ⟨error, rfl⟩, by omega⟩) (along_snoc.mpr ⟨own, trivial⟩)
            rcases Nat.lt_or_ge k (m + 1) with hlt | hge
            · exact all k (by omega)
            · obtain rfl : k = m + 1 := by omega
              rw [hverdict, count]
              congr 1
        | some (.ok item) =>
            -- the item is the next one, and the poll is two ahead of it at least
            have hverdict : false = rejects (items polls).length := hforeseen.last
            refine .stale (fun hharmless => ?_) fun h => ?_
            · have hfirst : rejects i = true := by simpa using all 0 (Nat.zero_le m)
              have hnext := hharmless i hfirst first (m + 1) (by omega)
              rw [count, show i + m + 1 = i + (m + 1) by omega, hnext] at hverdict
              cases hverdict
            · have hown : (items polls).length = polls.length := (along_snoc.mp h).2
              omega
  | stale harmful own =>
      exact .stale (fun h => harmful (h.mono (by omega))) fun h => own (along_snoc.mp h).1

theorem reading {polls : List (Option (Except ε α))} (hpauses : Along pauses polls)
    (hforeseen : Foreseen rejects (items polls)) : Reading rejects polls := by
  induction polls using List.reverseRecOn with
  | nil =>
      exact .clean (by simp) rfl (by simp [Broken]) along_nil
  | append_singleton polls answer ih =>
      obtain ⟨hbefore, hlast⟩ := along_snoc.mp hpauses
      have hearlier : Foreseen rejects (items polls) := by
        rw [items_snoc] at hforeseen
        exact hforeseen.initial
      exact (ih hbefore hearlier).snoc hlast hforeseen

/-- **Falling behind.**  A reader of a stream that pauses after each error is in
step exactly as long as it reads nothing but errors from the first one on. -/
theorem inStep_iff_harmless (hpauses : Along pauses polls)
    (hforeseen : Foreseen rejects (items polls)) :
    Along inStep polls ↔ Harmless rejects polls.length := by
  cases reading hpauses hforeseen with
  | clean accepted count unbroken own =>
      refine iff_of_true own fun i hi _ m hm => ?_
      rw [accepted i (by omega)] at hi
      cases hi
  | behind i m first all count place own =>
      refine iff_of_true own fun i' hi hfirst m' hm => ?_
      obtain rfl : i' = i := by
        rcases Nat.lt_trichotomy i' i with hlt | heq | hgt
        · exact absurd (hi.symm.trans (first i' hlt)) (by simp)
        · exact heq
        · have hrejected : rejects i = true := by simpa using all 0 (Nat.zero_le m)
          exact absurd (hrejected.symm.trans (hfirst i hgt)) (by simp)
      exact all m' (by omega)
  | stale harmful own => exact iff_of_false own harmful

end Polling
