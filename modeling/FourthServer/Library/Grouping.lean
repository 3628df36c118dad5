import Mathlib.Data.List.Induction

/-!
# Grouping a stream into heads and bodies

A reader takes a head and, if the head announces one, the next item as its
body.  `group more` is the resulting list of units, read from the left;
`pending more` is a head whose body has not come.  Reading one more item
(`group_snoc_of_pending`, `group_snoc_of_ready`) either completes the pending
unit or starts a new one, so a reader's state is `pending` and nothing else.
A stream written unit by unit is read back as the same units
(`group_flatMap_items`), provided each head announces exactly what follows it.
-/

namespace Grouping

variable {α : Type*} (more : α → Bool)

/-- The complete units of a stream. -/
def group : List α → List (α × Option α)
  | [] => []
  | [head] => if more head then [] else [(head, none)]
  | head :: next :: rest =>
      if more head then (head, some next) :: group rest
      else (head, none) :: group (next :: rest)

/-- The head at the end of a stream whose body is missing. -/
def pending : List α → Option α
  | [] => none
  | [head] => if more head then some head else none
  | head :: next :: rest => if more head then pending rest else pending (next :: rest)

/-- The items a unit is written as. -/
def items (unit : α × Option α) : List α := unit.1 :: unit.2.toList

@[simp] theorem group_nil : group more [] = [] := rfl

@[simp] theorem pending_nil : pending more [] = none := rfl

variable {more}

theorem group_cons_of_more {head next : α} {rest : List α} (h : more head = true) :
    group more (head :: next :: rest) = (head, some next) :: group more rest := by
  simp [group, h]

theorem group_cons_of_not_more {head : α} {rest : List α} (h : more head = false) :
    group more (head :: rest) = (head, none) :: group more rest := by
  cases rest <;> simp [group, h]

theorem pending_cons_of_not_more {head : α} {rest : List α} (h : more head = false) :
    pending more (head :: rest) = pending more rest := by
  cases rest <;> simp [pending, h]

theorem group_snoc_of_ready {xs : List α} (x : α) (hready : pending more xs = none) :
    group more (xs ++ [x]) = group more xs ++ (if more x then [] else [(x, none)]) ∧
      pending more (xs ++ [x]) = if more x then some x else none := by
  induction xs using group.induct more with
  | case1 => simp [group, pending]
  | case2 head hmore => simp [pending, hmore] at hready
  | case3 head hmore =>
      have hhead : more head = false := by simpa using hmore
      simp [group, pending, hhead]
  | case4 head next rest hmore ih =>
      simp only [pending, hmore, if_true] at hready
      simp [group, pending, hmore, ih hready]
  | case5 head next rest hmore ih =>
      have hhead : more head = false := by simpa using hmore
      rw [pending_cons_of_not_more hhead] at hready
      have := ih hready
      simp only [List.cons_append] at this ⊢
      rw [group_cons_of_not_more hhead, group_cons_of_not_more hhead,
        pending_cons_of_not_more hhead]
      simp [this]

theorem group_snoc_of_pending {xs : List α} {head : α} (x : α)
    (hpending : pending more xs = some head) :
    group more (xs ++ [x]) = group more xs ++ [(head, some x)] ∧
      pending more (xs ++ [x]) = none := by
  induction xs using group.induct more with
  | case1 => simp at hpending
  | case2 first hmore =>
      simp only [pending, hmore, if_true, Option.some.injEq] at hpending
      subst hpending
      simp [group, pending, hmore]
  | case3 first hmore => simp [pending, hmore] at hpending
  | case4 first next rest hmore ih =>
      simp only [pending, hmore, if_true] at hpending
      simp [group, pending, hmore, ih hpending]
  | case5 first next rest hmore ih =>
      have hfirst : more first = false := by simpa using hmore
      rw [pending_cons_of_not_more hfirst] at hpending
      have := ih hpending
      simp only [List.cons_append] at this ⊢
      rw [group_cons_of_not_more hfirst, group_cons_of_not_more hfirst,
        pending_cons_of_not_more hfirst]
      simp [this]

/-- The units of an initial part are the first units of the whole. -/
theorem group_mono {xs ys : List α} (h : xs <+: ys) : group more xs <+: group more ys := by
  obtain ⟨rest, rfl⟩ := h
  induction rest using List.reverseRecOn with
  | nil => simp
  | append_singleton rest x ih =>
      refine ih.trans ?_
      rw [← List.append_assoc]
      cases hpending : pending more (xs ++ rest) with
      | none =>
          rw [(group_snoc_of_ready x hpending).1]
          exact List.prefix_append _ _
      | some head =>
          rw [(group_snoc_of_pending x hpending).1]
          exact List.prefix_append _ _

/-- Nothing is lost: the units and the pending head make up the stream. -/
theorem flatMap_items_group (xs : List α) :
    (group more xs).flatMap items ++ (pending more xs).toList = xs := by
  induction xs using group.induct more with
  | case1 => rfl
  | case2 head hmore => simp [group, pending, hmore]
  | case3 head hmore => simp [group, pending, hmore, items]
  | case4 head next rest hmore ih => simp [group, pending, hmore, items, ih]
  | case5 head next rest hmore ih => simp [group, pending, hmore, items, ih]

/-- Items that carry labels are grouped as they are. -/
theorem group_map {β : Type*} (f : β → α) (xs : List β) :
    group more (xs.map f) =
      (group (fun x => more (f x)) xs).map fun unit => (f unit.1, unit.2.map f) := by
  induction xs using group.induct fun x => more (f x) with
  | case1 => rfl
  | case2 head hmore => simp [group, hmore]
  | case3 head hmore => simp [group, hmore]
  | case4 head next rest hmore ih => simp [group, hmore, ih]
  | case5 head next rest hmore ih => simp [group, hmore, ← ih]

/-- There are no more units than items. -/
theorem length_group_le (xs : List α) : (group more xs).length ≤ xs.length := by
  induction xs using group.induct more with
  | case1 => exact Nat.le_refl 0
  | case2 head hmore => simp [group, hmore]
  | case3 head hmore => simp [group, hmore]
  | case4 head next rest hmore ih =>
      simp only [group, hmore, if_true, List.length_cons]
      omega
  | case5 head next rest hmore ih =>
      simp only [group, hmore, if_false, Bool.false_eq_true, List.length_cons] at ih ⊢
      omega

/-- A unit whose head announces exactly what follows it. -/
def Announced (more : α → Bool) (unit : α × Option α) : Prop := more unit.1 = unit.2.isSome

theorem group_items_append {unit : α × Option α} (h : Announced more unit) (rest : List α) :
    group more (items unit ++ rest) = unit :: group more rest := by
  obtain ⟨head, body⟩ := unit
  cases body with
  | none => exact group_cons_of_not_more (by simpa [Announced] using h)
  | some body => exact group_cons_of_more (by simpa [Announced] using h)

/-- A stream written unit by unit is read back as the same units. -/
theorem group_flatMap_items {units : List (α × Option α)} (rest : List α)
    (h : ∀ unit ∈ units, Announced more unit) :
    group more (units.flatMap items ++ rest) = units ++ group more rest := by
  induction units with
  | nil => rfl
  | cons unit units ih =>
      rw [List.flatMap_cons, List.append_assoc, group_items_append (h unit List.mem_cons_self),
        ih fun other hother => h other (List.mem_cons_of_mem _ hother), List.cons_append]

/-- A reader that has found as many units as were written has read everything. -/
theorem eq_of_group_length {units : List (α × Option α)} {xs : List α}
    (h : ∀ unit ∈ units, Announced more unit) (hinit : xs <+: units.flatMap items)
    (hlength : units.length ≤ (group more xs).length) : xs = units.flatMap items := by
  have hgroup : group more xs <+: units := by
    have hunits : group more xs <+: group more (units.flatMap items) := group_mono hinit
    rwa [← List.append_nil (units.flatMap items), group_flatMap_items [] h, group_nil,
      List.append_nil] at hunits
  have heq : group more xs = units := hgroup.eq_of_length_le hlength
  have hall : (group more xs).flatMap items ++ (pending more xs).toList = xs :=
    flatMap_items_group xs
  rw [heq] at hall
  refine hinit.eq_of_length_le ?_
  calc (units.flatMap items).length
      ≤ (units.flatMap items ++ (pending more xs).toList).length := by simp
    _ = xs.length := by rw [hall]

end Grouping
