import MaskedList.Error

/-!
# Replies

What a query gives its caller: a status, and a value after success.
-/

namespace MaskedList

/-- The outcome of a command that answers with data. -/
structure Reply (α : Type) where
  status : Status
  value : Option α
  deriving DecidableEq, Repr

namespace Reply

variable {α β : Type}

/-- Success with a value. -/
def ok (value : α) : Reply α :=
  ⟨.ok, some value⟩

/-- A failure, which has no value. -/
def failed (status : Status) : Reply α :=
  ⟨status, none⟩

def isOk (reply : Reply α) : Bool :=
  reply.status.isOk

/-- The reply with a changed value. -/
def map (f : α → β) (reply : Reply α) : Reply β :=
  ⟨reply.status, reply.value.map f⟩

/-- The value, or the status as an error where there is none. -/
def toExcept (reply : Reply α) : Except Error α :=
  match reply.value with
  | some value => .ok value
  | none => .error (.refused reply.status)

end Reply
end MaskedList
