/-!
# Masks

A mask is a text of fields between colons.  A filter is written like a mask; an
empty field of it stands for any field, and the empty filter matches every mask.
-/

namespace MaskedList
namespace Mask

/-- The fields of a mask.  There is always one field more than colons. -/
def fields (mask : String) : List (List Char) :=
  mask.toList.foldr
    (fun c fields =>
      match fields with
      | field :: rest => if c = ':' then [] :: field :: rest else (c :: field) :: rest
      | [] => if c = ':' then [[], []] else [[c]])
    [[]]

/-- Whether each field of a filter is empty or stands at the same place in a mask. -/
def fieldsMatch : (filter mask : List (List Char)) → Bool
  | [], _ => true
  | wanted :: filter, mask =>
    (wanted.isEmpty || mask.head? = some wanted) && fieldsMatch filter mask.tail

/-- Whether a mask passes a filter. -/
def passes (filter mask : String) : Bool :=
  filter.isEmpty || fieldsMatch (fields filter) (fields mask)

end Mask
end MaskedList
