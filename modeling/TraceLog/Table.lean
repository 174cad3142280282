/-!
# Tables

Finite maps as lists of entries in the order in which their keys came. A key is stored
once: storing under a key that is there replaces the entry where it stands.

## Main results

* `Table.find?_put_self`, `Table.find?_put_of_ne`: storing changes one entry and no other.
-/

namespace TraceLog

/-- A finite map from `κ` to `α`. -/
abbrev Table (κ α : Type) : Type := List (κ × α)

namespace Table

variable {κ α : Type} [DecidableEq κ]

/-- The entry under a key. -/
def find? (key : κ) : Table κ α → Option α
  | [] => none
  | (k, a) :: entries => if k = key then some a else find? key entries

/-- The table with `value` stored under `key`. -/
def put (key : κ) (value : α) : Table κ α → Table κ α
  | [] => [(key, value)]
  | (k, a) :: entries =>
    if k = key then (k, value) :: entries else (k, a) :: put key value entries

/-- Nothing is found under a key that no entry has. -/
theorem find?_eq_none {key : κ} {t : Table κ α} (h : ∀ entry ∈ t, entry.1 ≠ key) :
    find? key t = none := by
  induction t with
  | nil => rfl
  | cons entry t ih =>
    obtain ⟨hentry, hrest⟩ := List.forall_mem_cons.mp h
    rw [find?, if_neg hentry, ih hrest]

/-- What is found is an entry. -/
theorem mem_of_find? {key : κ} {a : α} {t : Table κ α} (h : find? key t = some a) :
    (key, a) ∈ t := by
  induction t with
  | nil => simp [find?] at h
  | cons entry t ih =>
    rw [find?] at h
    split at h
    · next hkey =>
      obtain rfl := Option.some.inj h
      rw [← hkey]
      exact List.mem_cons_self
    · exact List.mem_cons_of_mem _ (ih h)

/-- What was stored is found. -/
@[simp] theorem find?_put_self (key : κ) (value : α) (t : Table κ α) :
    find? key (put key value t) = some value := by
  induction t with
  | nil => simp [put, find?]
  | cons entry t ih =>
    obtain ⟨k, a⟩ := entry
    by_cases h : k = key <;> simp [put, find?, h, ih]

/-- Storing under a key leaves every other entry as it is. -/
theorem find?_put_of_ne {key other : κ} (h : other ≠ key) (value : α) (t : Table κ α) :
    find? other (put key value t) = find? other t := by
  induction t with
  | nil => simp [put, find?, h.symm]
  | cons entry t ih =>
    obtain ⟨k, a⟩ := entry
    by_cases hk : k = key
    · subst hk
      simp [put, find?, h.symm]
    · simp only [put, hk, if_false, find?, ih]

end Table

end TraceLog
