import Mathlib.Data.List.Basic

/-!
# Tables with a user-defined key comparison

A hash table whose keys bring their own equality behaves as an association
list: a lookup returns the value of a stored key that compares equal to the
probe, and an insertion overwrites the value of such a key, keeping the stored
key, or adds a new entry.  The comparison is a parameter and need not be an
equivalence; the laws a result needs are its hypotheses.
-/

namespace AssocMap

variable {κ ν : Type*} (same : κ → κ → Bool)

/-- The value of the first stored key that matches the probe. -/
def get? (probe : κ) : List (κ × ν) → Option ν
  | [] => none
  | (key, value) :: rest => if same probe key then some value else get? probe rest

/-- Overwrite the value of a stored key matching `key`, or add an entry. -/
def insert (key : κ) (value : ν) : List (κ × ν) → List (κ × ν)
  | [] => [(key, value)]
  | (stored, old) :: rest =>
      if same key stored then (stored, value) :: rest
      else (stored, old) :: insert key value rest

variable {same}

@[simp] theorem get?_nil (probe : κ) : get? same probe ([] : List (κ × ν)) = none := rfl

/-- Inserting a key that matches no stored key adds an entry. -/
theorem insert_eq_append {key : κ} {value : ν} {table : List (κ × ν)}
    (hnew : ∀ entry ∈ table, same key entry.1 = false) :
    insert same key value table = table ++ [(key, value)] := by
  induction table with
  | nil => rfl
  | cons entry rest ih =>
      have hhead : same key entry.1 = false := hnew entry List.mem_cons_self
      have htail := ih fun other hother => hnew other (List.mem_cons_of_mem _ hother)
      simp [insert, hhead, htail]

theorem get?_append (probe : κ) (first second : List (κ × ν)) :
    get? same probe (first ++ second) =
      (get? same probe first).or (get? same probe second) := by
  induction first with
  | nil => simp
  | cons entry rest ih =>
      simp only [List.cons_append, get?, ih]
      split <;> simp

/-- Where the comparison is equality, a lookup after an insertion is the
familiar update. -/
theorem get?_insert [DecidableEq κ] (key probe : κ) (value : ν) (table : List (κ × ν)) :
    get? (fun a b => decide (a = b)) probe (insert (fun a b => decide (a = b)) key value table) =
      if probe = key then some value
      else get? (fun a b => decide (a = b)) probe table := by
  induction table with
  | nil => simp [insert, get?]
  | cons entry rest ih =>
      obtain ⟨stored, old⟩ := entry
      by_cases hkey : key = stored
      · subst hkey
        by_cases hprobe : probe = key <;> simp [insert, get?, hprobe]
      · by_cases hprobe : probe = stored
        · subst hprobe
          simp [insert, get?, hkey, Ne.symm hkey]
        · simp only [insert, get?, hkey, hprobe, decide_false, Bool.false_eq_true, if_false, ih]

end AssocMap
