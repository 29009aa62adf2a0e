import MaskedList.Json.Token

/-!
# JSON values

A value is built from tokens by a machine that keeps the arrays and objects
still open.  What may come next is part of its state, so a comma before a
closing bracket or a missing colon has no step.
-/

namespace MaskedList
namespace Json

/-- A JSON value.  A string is nothing where it escapes half of a surrogate
pair alone. -/
inductive Value where
  | null
  | bool (value : Bool)
  /-- A number written with digits only. -/
  | natural (value : Nat)
  /-- A number with a minus sign, a fraction or an exponent. -/
  | number
  | string (text : Option String)
  | array (items : List Value)
  /-- Members in order of appearance; names may repeat. -/
  | object (members : List (Option String × Value))
  deriving Repr

/-- An array or object whose end has not come yet, with its contents last
first. -/
inductive Open where
  | array (items : List Value)
  /-- An object that waits for the value of a name. -/
  | object (members : List (Option String × Value)) (name : Option String)

/-- What has been read and what may come next.  `outer` are the open arrays and
objects around the current place, innermost first. -/
inductive Progress where
  /-- A value is due. -/
  | valueDue (outer : List Open)
  /-- The first item of an array, or its end. -/
  | firstItem (outer : List Open)
  /-- The first name of an object, or its end. -/
  | firstName (outer : List Open)
  /-- A further name is due. -/
  | nameDue (members : List (Option String × Value)) (outer : List Open)
  /-- The colon after a name is due. -/
  | colonDue (members : List (Option String × Value)) (name : Option String)
      (outer : List Open)
  /-- A comma or the end of an array. -/
  | afterItem (items : List Value) (outer : List Open)
  /-- A comma or the end of an object. -/
  | afterMember (members : List (Option String × Value)) (outer : List Open)
  /-- The whole text is one value. -/
  | done (value : Value)

namespace Progress

/-- A value has been completed. -/
def deliver (value : Value) : List Open → Progress
  | [] => .done value
  | .array items :: outer => .afterItem (value :: items) outer
  | .object members name :: outer => .afterMember ((name, value) :: members) outer

/-- A value starts. -/
def start (outer : List Open) : Token → Option Progress
  | .openArray => some (.firstItem outer)
  | .openObject => some (.firstName outer)
  | .null => some (deliver .null outer)
  | .bool value => some (deliver (.bool value) outer)
  | .natural value => some (deliver (.natural value) outer)
  | .number => some (deliver .number outer)
  | .string text => some (deliver (.string text) outer)
  | _ => none

/-- The next token is taken in, if it may come here. -/
def step : Progress → Token → Option Progress
  | .valueDue outer, token => start outer token
  | .firstItem outer, .closeArray => some (deliver (.array []) outer)
  | .firstItem outer, token => start (.array [] :: outer) token
  | .firstName outer, .closeObject => some (deliver (.object []) outer)
  | .firstName outer, .string name => some (.colonDue [] name outer)
  | .nameDue members outer, .string name => some (.colonDue members name outer)
  | .colonDue members name outer, .colon => some (.valueDue (.object members name :: outer))
  | .afterItem items outer, .comma => some (.valueDue (.array items :: outer))
  | .afterItem items outer, .closeArray => some (deliver (.array items.reverse) outer)
  | .afterMember members outer, .comma => some (.nameDue members outer)
  | .afterMember members outer, .closeObject =>
    some (deliver (.object members.reverse) outer)
  | _, _ => none

end Progress

/-- The value that a text writes, with nothing but blanks around it. -/
def read (text : String) : Option Value := do
  let tokens ← tokens text
  match ← tokens.foldlM Progress.step (.valueDue []) with
  | .done value => some value
  | _ => none

end Json
end MaskedList
