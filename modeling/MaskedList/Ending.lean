/-!
# How functions end

A function returns something or panics.  Whoever called a function that panics gets nothing
of it, not even an error; so does the caller of that caller, and what all of them had in hand
stays as it was at that moment.
-/

namespace MaskedList

/-- What makes a function panic. -/
inductive Panic where
  /-- The record of this index was to be cut out of a payload that ends before it does. -/
  | outsidePayload (index : Nat)
  deriving DecidableEq, Repr

/-- How a function ends. -/
inductive Ending (α : Type) where
  | returned (value : α)
  | panicked (panic : Panic)
  deriving DecidableEq, Repr

namespace Ending

variable {α β γ : Type}

/-- The ending with what was returned changed. -/
def map (f : α → β) : Ending α → Ending β
  | .returned value => .returned (f value)
  | .panicked panic => .panicked panic

/-- What was returned, if anything. -/
def returned? : Ending α → Option α
  | .returned value => some value
  | .panicked _ => none

@[simp]
theorem map_returned (f : α → β) (value : α) : map f (.returned value) = .returned (f value) := rfl

@[simp]
theorem map_panicked (f : α → β) (panic : Panic) : map f (.panicked panic) = .panicked panic := rfl

@[simp]
theorem map_id (ending : Ending α) : map id ending = ending := by
  cases ending <;> rfl

theorem map_eq_returned_iff {f : α → β} {ending : Ending α} {value : β} :
    ending.map f = .returned value ↔ ∃ first, ending = .returned first ∧ f first = value := by
  cases ending <;> simp [map]

@[simp]
theorem map_eq_panicked_iff {f : α → β} {ending : Ending α} {panic : Panic} :
    ending.map f = .panicked panic ↔ ending = .panicked panic := by
  cases ending <;> simp [map]

/-- What was returned without an error, or panicked, never was an error. -/
theorem exists_eq_map_ok {ε : Type} {ending : Ending (Except ε α)}
    (h : ∀ error, ending ≠ .returned (.error error)) :
    ∃ plain : Ending α, ending = plain.map Except.ok := by
  rcases ending with (error | value) | panic
  · exact absurd rfl (h error)
  · exact ⟨.returned value, rfl⟩
  · exact ⟨.panicked panic, rfl⟩

end Ending
end MaskedList
