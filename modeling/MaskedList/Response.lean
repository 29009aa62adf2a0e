import MaskedList.Frame

/-!
# Responses

A response frame holds a status and perhaps a payload: data after success, a
text after some failures.  On the wire no payload and an empty one look alike,
and both are read as none.
-/

namespace MaskedList

/-- An answer of the store. -/
structure Response where
  status : Status
  payload : Option Bytes
  deriving DecidableEq, Repr

namespace Response

/-- Success, perhaps with data. -/
def ok (payload : Option Bytes) : Response :=
  ⟨.ok, payload⟩

/-- A bare status. -/
def ofStatus (status : Status) : Response :=
  ⟨status, none⟩

/-- A failure with a text that says why. -/
def failure (text : String) : Response :=
  ⟨.error, some (Bytes.ofText text)⟩

/-- The payload, empty where there is none. -/
def body (response : Response) : Bytes :=
  response.payload.getD []

/-- The response's frame, whatever the size of its payload. -/
def encode (response : Response) : Bytes :=
  Frame.encode response.status.code response.body

/-- The response whose frame is at the front of `bytes`. -/
def decode (bytes : Bytes) : Except Error Response := do
  let (code, payload) ← Frame.split .response bytes
  match Status.ofCode? code with
  | none => throw (.protocol (.unknownStatus code))
  | some status => return ⟨status, if payload.isEmpty then none else some payload⟩

end Response
end MaskedList
