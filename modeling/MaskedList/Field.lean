import MaskedList.Argument
import MaskedList.Bytes

/-!
# Payload fields

A payload is a sequence of typed fields, one after the other, and nothing
else.  Numbers have a fixed width; texts and opaque bytes carry their length.
Reading goes from left to right and stops at the first field that is cut
short, is no text or names nothing.
-/

namespace MaskedList

/-- The shapes of payload fields. -/
inductive FieldType where
  /-- A text, as the length of its UTF-8 and the UTF-8. -/
  | text
  /-- Opaque bytes, as their length and the bytes. -/
  | blob
  /-- One byte. -/
  | byte
  /-- A number in four bytes, most significant first. -/
  | word
  /-- A number in eight bytes, most significant first. -/
  | long
  /-- Four bytes of two's complement, most significant first. -/
  | offset
  | rangeKind
  | listKind
  | valueType
  deriving DecidableEq, Repr

/-- The values a field of the given shape can hold. -/
abbrev FieldType.Value : FieldType → Type
  | .text => String
  | .blob => Bytes
  | .byte => UInt8
  | .word => UInt32
  | .long => UInt64
  | .offset => Int32
  | .rangeKind => RangeKind
  | .listKind => ListKind
  | .valueType => ValueType

/-- One value for each field of a payload. -/
abbrev FieldValues : List FieldType → Type
  | [] => Unit
  | type :: types => type.Value × FieldValues types

/-- The pieces of a payload that can be cut short. -/
inductive FieldPart where
  | byte
  /-- Four bytes of a number or of a length. -/
  | word
  /-- Eight bytes of a number. -/
  | long
  | offset
  /-- The bytes that a length announced. -/
  | body
  deriving DecidableEq, Repr

def FieldPart.name : FieldPart → String
  | .byte => "byte"
  | .word => "u32"
  | .long => "u64"
  | .offset => "i32"
  | .body => "field"

/-- Bytes that should name one of a fixed set of values. -/
inductive CodedField where
  | rangeKind
  | listKind
  | valueType
  deriving DecidableEq, Repr

def CodedField.name : CodedField → String
  | .rangeKind => "range kind"
  | .listKind => "list kind"
  | .valueType => "value type"

/-- What can be wrong with a sequence of fields. -/
inductive FieldFault where
  | incomplete (part : FieldPart) (expected got : Nat)
  | notText
  | unknownCode (field : CodedField) (byte : UInt8)
  | trailing (extra : Nat)
  deriving DecidableEq, Repr

def FieldFault.message : FieldFault → String
  | .incomplete part expected got =>
    "incomplete " ++ part.name ++ s!" (expected {expected}, got {got})"
  | .notText => "field is not UTF-8"
  | .unknownCode field byte => "unknown " ++ field.name ++ " 0x" ++ Bytes.hex byte
  | .trailing extra => s!"unexpected payload of {extra} trailing bytes"

/-- A length in four bytes, then the bytes. -/
def encodeSized (bytes : Bytes) : Bytes :=
  Bytes.ofNat 4 bytes.length ++ bytes

/-- The first `size` bytes, and the bytes after them. -/
def takePart (part : FieldPart) (size : Nat) (bytes : Bytes) :
    Except FieldFault (Bytes × Bytes) :=
  if bytes.length < size then .error (.incomplete part size bytes.length)
  else .ok (bytes.take size, bytes.drop size)

/-- The bytes after a length of four bytes, as many as it says. -/
def takeSized (bytes : Bytes) : Except FieldFault (Bytes × Bytes) := do
  let (length, rest) ← takePart .word 4 bytes
  takePart .body (Bytes.toNat length) rest

/-- The value that one byte names. -/
def takeCoded {α : Type} (field : CodedField) (ofCode? : UInt8 → Option α)
    (bytes : Bytes) : Except FieldFault (α × Bytes) := do
  let (head, rest) ← takePart .byte 1 bytes
  let byte := UInt8.ofNat (Bytes.toNat head)
  match ofCode? byte with
  | none => throw (.unknownCode field byte)
  | some value => return (value, rest)

namespace FieldType

/-- The bytes of a field's value. -/
def encode : (type : FieldType) → type.Value → Bytes
  | .text, value => encodeSized (Bytes.ofText value)
  | .blob, value => encodeSized value
  | .byte, value => [value]
  | .word, value => Bytes.ofNat 4 value.toNat
  | .long, value => Bytes.ofNat 8 value.toNat
  | .offset, value => Bytes.ofNat 4 value.toUInt32.toNat
  | .rangeKind, value => [value.code]
  | .listKind, value => [value.code]
  | .valueType, value => [value.code]

/-- The value of the field at the front of the bytes, and the bytes after it. -/
def decode : (type : FieldType) → Bytes → Except FieldFault (type.Value × Bytes)
  | .text, bytes => do
    let (raw, rest) ← takeSized bytes
    match Bytes.toText? raw with
    | none => throw .notText
    | some value => return (value, rest)
  | .blob, bytes => takeSized bytes
  | .byte, bytes => do
    let (head, rest) ← takePart .byte 1 bytes
    return (UInt8.ofNat (Bytes.toNat head), rest)
  | .word, bytes => do
    let (head, rest) ← takePart .word 4 bytes
    return (UInt32.ofNat (Bytes.toNat head), rest)
  | .long, bytes => do
    let (head, rest) ← takePart .long 8 bytes
    return (UInt64.ofNat (Bytes.toNat head), rest)
  | .offset, bytes => do
    let (head, rest) ← takePart .offset 4 bytes
    return ((UInt32.ofNat (Bytes.toNat head)).toInt32, rest)
  | .rangeKind, bytes => takeCoded .rangeKind RangeKind.ofCode? bytes
  | .listKind, bytes => takeCoded .listKind ListKind.ofCode? bytes
  | .valueType, bytes => takeCoded .valueType ValueType.ofCode? bytes

end FieldType

/-- The bytes of all fields, one after the other. -/
def encodeFields : (types : List FieldType) → FieldValues types → Bytes
  | [], _ => []
  | type :: types, (value, values) => type.encode value ++ encodeFields types values

/-- The values of all fields, and the bytes after the last one. -/
def decodeFields : (types : List FieldType) → Bytes →
    Except FieldFault (FieldValues types × Bytes)
  | [], bytes => .ok ((), bytes)
  | type :: types, bytes => do
    let (value, rest) ← type.decode bytes
    let (values, rest) ← decodeFields types rest
    return ((value, values), rest)

/-- The values of all fields, where nothing may follow them. -/
def decodeAllFields (types : List FieldType) (bytes : Bytes) :
    Except FieldFault (FieldValues types) := do
  let (values, rest) ← decodeFields types bytes
  if rest.isEmpty then return values else throw (.trailing rest.length)

end MaskedList
