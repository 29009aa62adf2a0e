import MaskedList.Error

/-!
# Frames

Everything on a channel is a frame: a code byte, the payload's length in four
bytes, and the payload.  Splitting checks the header, then the limit, then that
the whole payload is there, in this order; bytes after the frame are not looked
at.  Main facts: a frame splits into what it was made of whatever follows it,
and what splits is a frame followed by something.
-/

namespace MaskedList
namespace Frame

/-- The frame with the given code and payload.  The length field holds the low
32 bits of the payload's length. -/
def encode (code : UInt8) (payload : Bytes) : Bytes :=
  code :: (Bytes.ofNat 4 payload.length ++ payload)

/-- The payload length that a header announces. -/
def announced (header : Bytes) : Nat :=
  Bytes.toNat ((header.drop 1).take 4)

/-- Refuses a payload over the limit. -/
def checkLength (length : Nat) : Except Error Unit :=
  if maxPayloadSize < length then .error (.protocol (.oversized length)) else .ok ()

/-- The code and the payload of the frame at the front of `bytes`. -/
def split (kind : FrameKind) (bytes : Bytes) : Except Error (UInt8 × Bytes) :=
  match bytes with
  | code :: a :: b :: c :: d :: rest => do
    let length := Bytes.toNat [a, b, c, d]
    checkLength length
    if rest.length < length then
      throw (.protocol
        (.incompletePayload kind (frameHeaderSize + length) (frameHeaderSize + rest.length)))
    return (code, rest.take length)
  | short => .error (.protocol (.incompleteHeader kind short.length))

end Frame
end MaskedList
