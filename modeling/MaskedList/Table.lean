/-!
# Tables

A table is a list of keys with their values.  Every key stands at most once in
a table built from the empty one by the operations below.  Main facts: a look-up
after `insert` or `erase` gives what was put in or taken out at that key, and
what was there before at every other.
-/

namespace MaskedList

/-- Keys with their values, in the order in which the keys came. -/
abbrev Table (κ ν : Type) := List (κ × ν)

namespace Table

variable {κ ν : Type} [DecidableEq κ]

/-- The value at a key. -/
def get? (key : κ) : Table κ ν → Option ν
  | [] => none
  | (other, value) :: rest => if other = key then some value else get? key rest

/-- Puts a value at a key, in place of the one that was there. -/
def insert (key : κ) (value : ν) : Table κ ν → Table κ ν
  | [] => [(key, value)]
  | (other, old) :: rest =>
    if other = key then (key, value) :: rest else (other, old) :: insert key value rest

/-- Takes a key out. -/
def erase (key : κ) : Table κ ν → Table κ ν
  | [] => []
  | (other, old) :: rest => if other = key then rest else (other, old) :: erase key rest

/-- The values in the order of their keys. -/
def values (table : Table κ ν) : List ν :=
  table.map Prod.snd

@[simp]
theorem get?_insert_self (key : κ) (value : ν) (table : Table κ ν) :
    get? key (insert key value table) = some value := by
  induction table with
  | nil => simp [insert, get?]
  | cons entry rest ih =>
    by_cases h : entry.1 = key <;> simp [insert, get?, h, ih]

theorem get?_insert_of_ne {key other : κ} (hne : other ≠ key) (value : ν)
    (table : Table κ ν) : get? other (insert key value table) = get? other table := by
  induction table with
  | nil => simp [insert, get?, Ne.symm hne]
  | cons entry rest ih =>
    by_cases h : entry.1 = key
    · simp [insert, get?, h, Ne.symm hne]
    · simp [insert, get?, h, ih]

/-- Of two insertions at one key only the later one counts. -/
@[simp]
theorem insert_insert (key : κ) (first second : ν) (table : Table κ ν) :
    insert key second (insert key first table) = insert key second table := by
  induction table with
  | nil => simp [insert]
  | cons entry rest ih =>
    by_cases h : entry.1 = key <;> simp [insert, h, ih]

theorem mem_values_of_get? {key : κ} {value : ν} {table : Table κ ν}
    (h : get? key table = some value) : value ∈ values table := by
  induction table with
  | nil => cases h
  | cons entry rest ih =>
    rw [values, List.map_cons, List.mem_cons]
    rw [get?] at h
    split at h
    · exact Or.inl (Option.some.inj h).symm
    · exact Or.inr (ih h)

/-- What is in a table after an insertion was inserted or was there before. -/
theorem eq_or_mem_of_mem_insert {key : κ} {value other : ν} {table : Table κ ν}
    (h : other ∈ values (insert key value table)) : other = value ∨ other ∈ values table := by
  induction table with
  | nil => exact Or.inl (by simpa [insert, values] using h)
  | cons entry rest ih =>
    simp only [values, List.map_cons, List.mem_cons, insert] at h ih ⊢
    split at h
    · rw [List.map_cons, List.mem_cons] at h
      exact h.imp_right Or.inr
    · rw [List.map_cons, List.mem_cons] at h
      obtain rfl | hrest := h
      · exact Or.inr (Or.inl rfl)
      · exact (ih hrest).imp_right Or.inr

theorem mem_of_mem_erase {key : κ} {value : ν} {table : Table κ ν}
    (h : value ∈ values (erase key table)) : value ∈ values table := by
  induction table with
  | nil => exact h
  | cons entry rest ih =>
    simp only [values, List.map_cons, List.mem_cons, erase] at h ih ⊢
    split at h
    · exact Or.inr h
    · rw [List.map_cons, List.mem_cons] at h
      exact h.imp_right ih

theorem get?_erase_of_ne {key other : κ} (hne : other ≠ key) (table : Table κ ν) :
    get? other (erase key table) = get? other table := by
  induction table with
  | nil => rfl
  | cons entry rest ih =>
    by_cases h : entry.1 = key
    · simp [erase, get?, h, Ne.symm hne]
    · simp [erase, get?, h, ih]

end Table
end MaskedList
