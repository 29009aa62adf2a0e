import MaskedList.Argument
import MaskedList.Text.Binary64
import MaskedList.Text.Blank
import MaskedList.Text.Lossy

/-!
# The order of stored values

Values are compared as their type says: by the numbers that they write, where
both write one, and otherwise byte by byte.
-/

namespace MaskedList

/-- The characters of a value without the blanks around them. -/
def valueChars (value : Bytes) : List Char :=
  Text.trimBlanks (Bytes.lossyChars value []).reverse

/-- Byte by byte; of two values of which one starts the other, the shorter is
the lesser. -/
def compareBytes (a b : Bytes) : Ordering :=
  List.compareLex compare a b

/-- Places compare as integers; what is no number compares as equal. -/
def Text.Binary64.compareNumbers : Text.Binary64 → Text.Binary64 → Ordering
  | .place a, .place b => compare a b
  | _, _ => .eq

/-- Integers from its negation on and below it are numbers to a sorted list. -/
def integerBound : Nat :=
  1 <<< 127

/-- The order of two values of a type. -/
def ValueType.compareValues (type : ValueType) (a b : Bytes) : Ordering :=
  match type with
  | .int | .uint | .long | .ulong =>
    match Text.readInt integerBound (valueChars a), Text.readInt integerBound (valueChars b) with
    | some x, some y => compare x y
    | _, _ => compareBytes a b
  | .float | .double =>
    match Text.Binary64.read (valueChars a), Text.Binary64.read (valueChars b) with
    | some x, some y => x.compareNumbers y
    | _, _ => compareBytes a b
  | .string | .binary => compareBytes a b

end MaskedList
