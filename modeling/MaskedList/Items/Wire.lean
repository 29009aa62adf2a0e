import MaskedList.Ending
import MaskedList.Error
import MaskedList.Items.Basic

/-!
# Item lists on the wire

The payload is the count, the value size and the mask size in four bytes each,
then for each item its value and its mask in exactly these widths.  Nothing may
be missing or left over.
-/

namespace MaskedList

/-- The field cut off at the width, or filled up to it with zero bytes. -/
def fitWidth (width : Nat) (field : Bytes) : Bytes :=
  field.take width ++ List.replicate (width - field.length) 0

namespace ItemList

/-- The payload for the given values and masks.  The count is kept modulo
`2 ^ 32`. -/
def encode (valueSize maskSize : UInt32) (items : List (Bytes × Bytes)) : Bytes :=
  let record : Bytes × Bytes → Bytes := fun (value, mask) =>
    fitWidth valueSize.toNat value ++ fitWidth maskSize.toNat mask
  Bytes.ofNat 4 items.length ++ (Bytes.ofNat 4 valueSize.toNat ++
    (Bytes.ofNat 4 maskSize.toNat ++ items.flatMap record))

/-- The size of the payload that a header calls for, in 64-bit arithmetic. -/
def expectedSize (count valueSize maskSize : UInt32) : UInt64 :=
  12 + count.toUInt64 * (valueSize.toUInt64 + maskSize.toUInt64)

/-- Cuts `count` records off the bytes, behind those in `taken`, last one first.  Where the
bytes end within a record, there is nothing to cut out, and that is a panic. -/
def takeRecords (valueSize maskSize : Nat) :
    (count : Nat) → (taken : List Item) → Bytes → Ending (List Item)
  | 0, taken, _ => .returned taken.reverse
  | count + 1, taken, bytes =>
    let (value, rest) := bytes.splitAt valueSize
    let (mask, rest) := rest.splitAt maskSize
    if value.length = valueSize ∧ mask.length = maskSize then
      takeRecords valueSize maskSize count (⟨value, mask⟩ :: taken) rest
    else .panicked (.outsidePayload taken.length)

/-- The list that fills the payload exactly, or what is wrong with it.  The records are cut
out of a payload whose size is the expected one, and where that size is too small for them
because it has wrapped around, decoding panics. -/
def decodeItems (payload : Bytes) : Ending (Except ItemsFault ItemList) :=
  let word (start : Nat) : UInt32 :=
    UInt32.ofNat (Bytes.toNat ((payload.drop start).take 4))
  let count := word 0
  let valueSize := word 4
  let maskSize := word 8
  let expected := expectedSize count valueSize maskSize
  if payload.length < itemsHeaderSize then
    .returned (.error (.headerTruncated payload.length))
  else if 0 < count ∧ valueSize = 0 then
    .returned (.error (.zeroWidth count))
  else if payload.length < expected.toNat then
    .returned (.error (.truncated count expected payload.length))
  else if expected.toNat < payload.length then
    .returned (.error (.overrun (payload.length - expected.toNat) count))
  else
    (takeRecords valueSize.toNat maskSize.toNat count.toNat []
      (payload.drop itemsHeaderSize)).map fun items => .ok { valueSize, maskSize, items }

/-- The list that fills the payload exactly. -/
def decode (payload : Bytes) : Ending (Except Error ItemList) :=
  (decodeItems payload).map fun result =>
    result.mapError fun fault => .protocol (.items fault)

end ItemList
end MaskedList
