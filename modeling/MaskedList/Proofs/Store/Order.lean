import MaskedList.Store.Order

/-!
# Values in order

Bytes and integers are put in order by comparing them, and so are values that all write an
integer.  A value that writes none is compared byte by byte, so among others it breaks the
order: 9 is less than 10 as a number, and byte by byte 10 is less than 1x and that less than
9 again.
-/

namespace MaskedList
namespace ValueType

/-- The values that a sorted list of the type can put in order: all of them if it compares
bytes, and those that write an integer if it compares integers.  Fractions are left out, for
what is no number compares as equal to all of them. -/
def Orders (type : ValueType) (value : Bytes) : Prop :=
  match type with
  | .int | .uint | .long | .ulong => (Text.readInt integerBound (valueChars value)).isSome = true
  | .float | .double => False
  | .string | .binary => True

/-- Values are compared by what they stand for in an order. -/
theorem exists_rank (type : ValueType) :
    ∃ (κ : Type) (order : κ → κ → Ordering) (rank : Bytes → κ), Std.TransCmp order ∧
      ∀ a b, type.Orders a → type.Orders b → type.compareValues a b = order (rank a) (rank b) := by
  have hbytes : Std.TransCmp compareBytes :=
    inferInstanceAs (Std.TransCmp (List.compareLex compare))
  cases type with
  | string | binary => exact ⟨Bytes, compareBytes, id, hbytes, fun _ _ _ _ => rfl⟩
  | float | double => exact ⟨Bytes, compareBytes, id, hbytes, fun _ _ h => h.elim⟩
  | int | uint | long | ulong =>
    refine ⟨Int, compare, fun value => (Text.readInt integerBound (valueChars value)).getD 0,
      inferInstance, ?_⟩
    intro a b ha hb
    obtain ⟨x, hx⟩ := Option.isSome_iff_exists.mp ha
    obtain ⟨y, hy⟩ := Option.isSome_iff_exists.mp hb
    simp only [compareValues, hx, hy, Option.getD_some]

variable {type : ValueType} {a b c : Bytes}

theorem compareValues_self (ha : type.Orders a) : type.compareValues a a = .eq := by
  obtain ⟨κ, order, rank, htrans, hrank⟩ := type.exists_rank
  rw [hrank a a ha ha]
  exact Std.ReflCmp.compare_self

/-- What is less than a value is less than all that are not less than it. -/
theorem compareValues_lt_of_gt (ha : type.Orders a) (hb : type.Orders b) (hc : type.Orders c)
    (hless : type.compareValues b a = .gt) (hle : type.compareValues b c ≠ .gt) :
    type.compareValues a c = .lt := by
  obtain ⟨κ, order, rank, htrans, hrank⟩ := type.exists_rank
  rw [hrank b a hb ha] at hless
  rw [hrank b c hb hc] at hle
  rw [hrank a c ha hc]
  exact Std.TransCmp.lt_of_lt_of_isLE (Std.OrientedCmp.lt_of_gt hless)
    (Ordering.isLE_iff_ne_gt.mpr hle)

/-- Without numbers only, the order goes round in a circle. -/
example : ValueType.int.compareValues (Bytes.ofText "9") (Bytes.ofText "10") = .lt ∧
    ValueType.int.compareValues (Bytes.ofText "10") (Bytes.ofText "1x") = .lt ∧
    ValueType.int.compareValues (Bytes.ofText "1x") (Bytes.ofText "9") = .lt := by
  decide +kernel

end ValueType
end MaskedList
