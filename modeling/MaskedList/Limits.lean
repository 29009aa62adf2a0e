/-!
# Sizes fixed by the wire format
-/

namespace MaskedList

/-- The version of this client. -/
def version : String := "0.1.0"

/-- A frame starts with a code byte and four bytes of payload length. -/
def frameHeaderSize : Nat := 5

/-- The largest payload that may travel: 16 MiB. -/
def maxPayloadSize : Nat := 16 * 1024 * 1024

/-- An item list starts with its count, its value size and its mask size. -/
def itemsHeaderSize : Nat := 12

end MaskedList
