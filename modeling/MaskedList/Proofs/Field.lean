import MaskedList.Field

/-!
# Payload fields are read back

Every field is read back from its own bytes, whatever follows them, and what is read
is the only value with these bytes.  So a sequence of fields has one spelling and one
reading.  The length in front of a text or of opaque bytes is written modulo `2 ^ 32`;
the laws ask for payloads shorter than that, where no length wraps.
-/

namespace MaskedList

/-! ## Pieces of a payload -/

section Pieces

variable {front rest bytes : Bytes}

theorem takePart_append (part : FieldPart) (front rest : Bytes) :
    takePart part front.length (front ++ rest) = .ok (front, rest) := by
  simp [takePart]

theorem takePart_eq_ok {part : FieldPart} {size : Nat}
    (h : takePart part size bytes = .ok (front, rest)) :
    front.length = size ∧ bytes = front ++ rest := by
  simp only [takePart] at h
  split at h
  · cases h
  · rename_i hlength
    simp only [Except.ok.injEq, Prod.mk.injEq] at h
    obtain ⟨rfl, rfl⟩ := h
    exact ⟨List.length_take_of_le (Nat.le_of_not_lt hlength), (List.take_append_drop _ _).symm⟩

/-- A number is read back from the bytes of its width. -/
theorem takePart_ofNat_append (part : FieldPart) (width n : Nat) (rest : Bytes) :
    takePart part width (Bytes.ofNat width n ++ rest) = .ok (Bytes.ofNat width n, rest) := by
  simpa using takePart_append part (Bytes.ofNat width n) rest

theorem length_encodeSized (bytes : Bytes) : (encodeSized bytes).length = 4 + bytes.length := by
  simp [encodeSized]

theorem takeSized_encodeSized_append (hlength : bytes.length < Bytes.bound 4) (rest : Bytes) :
    takeSized (encodeSized bytes ++ rest) = .ok (bytes, rest) := by
  have hfield : Bytes.toNat (Bytes.ofNat 4 bytes.length) = bytes.length := by
    rw [Bytes.toNat_ofNat, Nat.mod_eq_of_lt hlength]
  rw [takeSized, encodeSized, List.append_assoc, takePart_ofNat_append]
  simp only [bind, Except.bind, hfield, takePart_append]

theorem takeSized_eq_ok (h : takeSized bytes = .ok (front, rest)) :
    bytes = encodeSized front ++ rest := by
  simp only [takeSized, bind, Except.bind] at h
  split at h
  · cases h
  · rename_i parts hlength
    obtain ⟨hwidth, rfl⟩ := takePart_eq_ok hlength
    obtain ⟨hbody, hrest⟩ := takePart_eq_ok h
    -- the four bytes in front are the only ones that name this length
    have hfield : Bytes.ofNat 4 front.length = parts.1 := by
      rw [hbody, ← hwidth, Bytes.ofNat_toNat]
    rw [encodeSized, hfield, List.append_assoc, hrest]

/-- A number is read back from the bytes of its width, modulo what they can name. -/
theorem takeNumber_ofNat_append {α : Type} {f : Nat → α} (part : FieldPart) (width n : Nat)
    (rest : Bytes) :
    (do
      let (head, rest) ← takePart part width (Bytes.ofNat width n ++ rest)
      return (f (Bytes.toNat head), rest)) =
      (.ok (f (n % Bytes.bound width), rest) : Except FieldFault (α × Bytes)) := by
  simp only [takePart_ofNat_append, bind, Except.bind, Bytes.toNat_ofNat]
  rfl

theorem takeNumber_eq_ok {α : Type} {f : Nat → α} {part : FieldPart} {width : Nat} {value : α}
    (h : (do
      let (head, rest) ← takePart part width bytes
      return (f (Bytes.toNat head), rest)) =
      (.ok (value, rest) : Except FieldFault (α × Bytes))) :
    ∃ head, head.length = width ∧ bytes = head ++ rest ∧ value = f (Bytes.toNat head) := by
  simp only [bind, Except.bind] at h
  split at h
  · cases h
  · rename_i parts hpart
    obtain ⟨hwidth, rfl⟩ := takePart_eq_ok hpart
    simp only [pure, Except.pure, Except.ok.injEq, Prod.mk.injEq] at h
    obtain ⟨rfl, rfl⟩ := h
    exact ⟨parts.1, hwidth, rfl, rfl⟩

/-- A number is written in the bytes that it was read from. -/
theorem ofNat_toNat_of_length {head : Bytes} {width : Nat} (hwidth : head.length = width) :
    Bytes.toNat head < Bytes.bound width ∧ Bytes.ofNat width (Bytes.toNat head) = head := by
  subst hwidth
  exact ⟨Bytes.toNat_lt head, Bytes.ofNat_toNat head⟩

theorem ofNat_toNat_singleton (byte : UInt8) : UInt8.ofNat (Bytes.toNat [byte]) = byte := by
  simp [Bytes.toNat]

theorem takePart_singleton_append (part : FieldPart) (byte : UInt8) (rest : Bytes) :
    takePart part 1 (byte :: rest) = .ok ([byte], rest) :=
  takePart_append part [byte] rest

section Coded

variable {α : Type} {ofCode? : UInt8 → Option α} {byte : UInt8} {value : α}

theorem takeCoded_append (field : CodedField) (h : ofCode? byte = some value) (rest : Bytes) :
    takeCoded field ofCode? (byte :: rest) = .ok (value, rest) := by
  simp only [takeCoded, takePart_singleton_append, bind, Except.bind, ofNat_toNat_singleton, h]
  rfl

theorem takeCoded_unknown (field : CodedField) (h : ofCode? byte = none) (rest : Bytes) :
    takeCoded field ofCode? (byte :: rest) = .error (.unknownCode field byte) := by
  simp only [takeCoded, takePart_singleton_append, bind, Except.bind, ofNat_toNat_singleton, h]
  rfl

theorem takeCoded_eq_ok {field : CodedField}
    (h : takeCoded field ofCode? bytes = .ok (value, rest)) :
    ∃ byte, ofCode? byte = some value ∧ bytes = byte :: rest := by
  simp only [takeCoded, bind, Except.bind] at h
  split at h
  · cases h
  · rename_i parts hpart
    obtain ⟨hwidth, rfl⟩ := takePart_eq_ok hpart
    obtain ⟨byte, hbyte⟩ := List.length_eq_one_iff.mp hwidth
    rw [hbyte, ofNat_toNat_singleton] at h
    split at h
    · cases h
    · rename_i found hfound
      simp only [pure, Except.pure, Except.ok.injEq, Prod.mk.injEq] at h
      obtain ⟨rfl, rfl⟩ := h
      exact ⟨byte, hfound, by rw [hbyte]; rfl⟩

end Coded
end Pieces

/-! ## Single fields -/

namespace FieldType

/-- How many bytes a value takes up: texts and opaque bytes four more than they have. -/
def size : (type : FieldType) → type.Value → Nat
  | .text, value => 4 + value.utf8ByteSize
  | .blob, value => 4 + value.length
  | .byte, _ | .rangeKind, _ | .listKind, _ | .valueType, _ => 1
  | .word, _ | .offset, _ => 4
  | .long, _ => 8

theorem length_encode (type : FieldType) (value : type.Value) :
    (type.encode value).length = type.size value := by
  cases type with
  | text => exact length_encodeSized (Bytes.ofText value)
  | blob => exact length_encodeSized value
  | byte | rangeKind | listKind | valueType => rfl
  | word | long | offset => exact Bytes.length_ofNat _ _

/-- A field is read back from its own bytes, whatever follows them. -/
theorem decode_encode_append (type : FieldType) (value : type.Value)
    (hsize : type.size value < Bytes.bound 4) (rest : Bytes) :
    type.decode (type.encode value ++ rest) = .ok (value, rest) := by
  cases type with
  | text =>
    have hlength : (Bytes.ofText value).length < Bytes.bound 4 := by
      have h : 4 + (Bytes.ofText value).length < Bytes.bound 4 := hsize
      omega
    simp only [decode, encode, takeSized_encodeSized_append hlength, bind, Except.bind,
      Bytes.toText?_ofText]
    rfl
  | blob =>
    have hlength : List.length value < Bytes.bound 4 := by
      have h : 4 + List.length value < Bytes.bound 4 := hsize
      omega
    exact takeSized_encodeSized_append hlength rest
  | byte =>
    simp only [decode, encode, List.singleton_append, takePart_singleton_append, bind,
      Except.bind, ofNat_toNat_singleton]
    rfl
  | word =>
    have hbound : value.toNat < Bytes.bound 4 := value.toNat_lt
    refine (takeNumber_ofNat_append (f := UInt32.ofNat) .word 4 value.toNat rest).trans ?_
    rw [Nat.mod_eq_of_lt hbound, UInt32.ofNat_toNat]
  | long =>
    have hbound : value.toNat < Bytes.bound 8 := value.toNat_lt
    refine (takeNumber_ofNat_append (f := UInt64.ofNat) .long 8 value.toNat rest).trans ?_
    rw [Nat.mod_eq_of_lt hbound, UInt64.ofNat_toNat]
  | offset =>
    have hbound : value.toUInt32.toNat < Bytes.bound 4 := value.toUInt32.toNat_lt
    refine (takeNumber_ofNat_append (f := fun n => (UInt32.ofNat n).toInt32) .offset 4
      value.toUInt32.toNat rest).trans ?_
    rw [Nat.mod_eq_of_lt hbound, UInt32.ofNat_toNat, Int32.toInt32_toUInt32]
  | rangeKind => exact takeCoded_append .rangeKind (RangeKind.ofCode?_code value) rest
  | listKind => exact takeCoded_append .listKind (ListKind.ofCode?_code value) rest
  | valueType => exact takeCoded_append .valueType (ValueType.ofCode?_code value) rest

/-- What is read stands in front of the rest in its only spelling. -/
theorem eq_encode_append_of_decode {type : FieldType} {bytes rest : Bytes} {value : type.Value}
    (h : type.decode bytes = .ok (value, rest)) : bytes = type.encode value ++ rest := by
  cases type with
  | text =>
    simp only [decode, bind, Except.bind] at h
    split at h
    · cases h
    · rename_i parts hsized
      split at h
      · cases h
      · rename_i text htext
        simp only [pure, Except.pure, Except.ok.injEq, Prod.mk.injEq] at h
        obtain ⟨rfl, rfl⟩ := h
        rw [takeSized_eq_ok hsized, encode, Bytes.ofText_of_toText? htext]
  | blob => exact takeSized_eq_ok h
  | byte =>
    obtain ⟨head, hwidth, rfl, rfl⟩ := takeNumber_eq_ok (f := UInt8.ofNat) h
    obtain ⟨byte, rfl⟩ := List.length_eq_one_iff.mp hwidth
    rw [encode, ofNat_toNat_singleton]
  | word =>
    obtain ⟨head, hwidth, rfl, rfl⟩ := takeNumber_eq_ok (f := UInt32.ofNat) h
    obtain ⟨hbound, hhead⟩ := ofNat_toNat_of_length hwidth
    rw [encode, UInt32.toNat_ofNat_of_lt' hbound, hhead]
  | long =>
    obtain ⟨head, hwidth, rfl, rfl⟩ := takeNumber_eq_ok (f := UInt64.ofNat) h
    obtain ⟨hbound, hhead⟩ := ofNat_toNat_of_length hwidth
    rw [encode, UInt64.toNat_ofNat_of_lt' hbound, hhead]
  | offset =>
    obtain ⟨head, hwidth, rfl, rfl⟩ :=
      takeNumber_eq_ok (f := fun n => (UInt32.ofNat n).toInt32) h
    obtain ⟨hbound, hhead⟩ := ofNat_toNat_of_length hwidth
    rw [encode, UInt32.toUInt32_toInt32, UInt32.toNat_ofNat_of_lt' hbound, hhead]
  | rangeKind =>
    obtain ⟨byte, hbyte, rfl⟩ := takeCoded_eq_ok h
    rw [encode, RangeKind.code_of_ofCode? hbyte]
    rfl
  | listKind =>
    obtain ⟨byte, hbyte, rfl⟩ := takeCoded_eq_ok h
    rw [encode, ListKind.code_of_ofCode? hbyte]
    rfl
  | valueType =>
    obtain ⟨byte, hbyte, rfl⟩ := takeCoded_eq_ok h
    rw [encode, ValueType.code_of_ofCode? hbyte]
    rfl

/-- The bytes have the form of a field of this type, but no value is written so. -/
inductive Garbled : FieldType → Bytes → Prop where
  | text {raw : Bytes} : raw.toText? = none → raw.length < Bytes.bound 4 →
      Garbled .text (encodeSized raw)
  | rangeKind {byte : UInt8} : RangeKind.ofCode? byte = none → Garbled .rangeKind [byte]
  | listKind {byte : UInt8} : ListKind.ofCode? byte = none → Garbled .listKind [byte]
  | valueType {byte : UInt8} : ValueType.ofCode? byte = none → Garbled .valueType [byte]

theorem Garbled.decode_append {type : FieldType} {bytes : Bytes} (h : Garbled type bytes)
    (rest : Bytes) : ∃ fault, type.decode (bytes ++ rest) = .error fault := by
  cases h with
  | text htext hlength =>
    refine ⟨.notText, ?_⟩
    simp only [decode, takeSized_encodeSized_append hlength, bind, Except.bind, htext]
    rfl
  | rangeKind hbyte => exact ⟨_, takeCoded_unknown .rangeKind hbyte rest⟩
  | listKind hbyte => exact ⟨_, takeCoded_unknown .listKind hbyte rest⟩
  | valueType hbyte => exact ⟨_, takeCoded_unknown .valueType hbyte rest⟩

end FieldType

/-! ## Sequences of fields -/

/-- How many bytes the values take up together. -/
def fieldsSize : (types : List FieldType) → FieldValues types → Nat
  | [], _ => 0
  | type :: types, (value, values) => type.size value + fieldsSize types values

/-- The values that are written behind their lengths, as bytes. -/
def sizedFields : (types : List FieldType) → FieldValues types → List Bytes
  | [], _ => []
  | .text :: types, (value, values) => Bytes.ofText value :: sizedFields types values
  | .blob :: types, (value, values) => value :: sizedFields types values
  | .byte :: types, (_, values) | .word :: types, (_, values) | .long :: types, (_, values)
  | .offset :: types, (_, values) | .rangeKind :: types, (_, values)
  | .listKind :: types, (_, values) | .valueType :: types, (_, values) =>
    sizedFields types values

section Sequences

variable {types : List FieldType} {bytes rest : Bytes}

theorem length_encodeFields (types : List FieldType) (values : FieldValues types) :
    (encodeFields types values).length = fieldsSize types values := by
  induction types with
  | nil => rfl
  | cons type types ih =>
    simp only [encodeFields, fieldsSize, List.length_append, type.length_encode, ih]

/-- Each of these values stands in the payload behind its length. -/
theorem encodeSized_infix_encodeFields {values : FieldValues types} {field : Bytes}
    (h : field ∈ sizedFields types values) : encodeSized field <:+: encodeFields types values := by
  induction types with
  | nil => cases h
  | cons type types ih =>
    obtain ⟨value, values⟩ := values
    have hlater : field ∈ sizedFields types values →
        encodeSized field <:+: encodeFields (type :: types) (value, values) := fun hmem =>
      (ih hmem).trans (List.suffix_append _ _).isInfix
    have hfirst : encodeSized field = type.encode value →
        encodeSized field <:+: encodeFields (type :: types) (value, values) := fun hfield =>
      hfield ▸ (List.prefix_append _ _).isInfix
    cases type with
    | text | blob =>
      rcases List.mem_cons.mp h with rfl | hmem
      · exact hfirst rfl
      · exact hlater hmem
    | _ => exact hlater h

/-- The values are read back from their bytes, whatever follows them. -/
theorem decodeFields_encodeFields_append (values : FieldValues types)
    (hsize : fieldsSize types values < Bytes.bound 4) (rest : Bytes) :
    decodeFields types (encodeFields types values ++ rest) = .ok (values, rest) := by
  induction types with
  | nil => rfl
  | cons type types ih =>
    obtain ⟨value, values⟩ := values
    simp only [fieldsSize] at hsize
    have hfirst := type.decode_encode_append value (by omega) (encodeFields types values ++ rest)
    have hothers := ih values (by omega)
    simp only [encodeFields, decodeFields, List.append_assoc, hfirst, hothers, bind, Except.bind]
    rfl

/-- What is read stands in front of the rest in its only spelling. -/
theorem eq_encodeFields_append_of_decodeFields {values : FieldValues types}
    (h : decodeFields types bytes = .ok (values, rest)) :
    bytes = encodeFields types values ++ rest := by
  induction types generalizing bytes with
  | nil =>
    simp only [decodeFields, Except.ok.injEq, Prod.mk.injEq] at h
    exact h.2
  | cons type types ih =>
    simp only [decodeFields, bind, Except.bind] at h
    split at h
    · cases h
    · rename_i first hfirst
      split at h
      · cases h
      · rename_i others hothers
        simp only [pure, Except.pure, Except.ok.injEq, Prod.mk.injEq] at h
        obtain ⟨rfl, rfl⟩ := h
        rw [FieldType.eq_encode_append_of_decode hfirst, ih hothers, encodeFields,
          List.append_assoc]

/-- A garbled field stops the reading, whatever stands before and after it. -/
theorem decodeFields_of_garbled {before : List FieldType} {type : FieldType}
    (values : FieldValues before) {raw : Bytes} (hsize : fieldsSize before values < Bytes.bound 4)
    (h : type.Garbled raw) (after : List FieldType) (rest : Bytes) :
    ∃ fault, decodeFields (before ++ type :: after)
      (encodeFields before values ++ (raw ++ rest)) = .error fault := by
  induction before with
  | nil =>
    obtain ⟨fault, hfault⟩ := h.decode_append rest
    refine ⟨fault, ?_⟩
    simp only [encodeFields, List.nil_append, decodeFields, hfault, bind, Except.bind]
  | cons first before ih =>
    obtain ⟨value, values⟩ := values
    simp only [fieldsSize] at hsize
    have hfirst := first.decode_encode_append value (by omega)
      (encodeFields before values ++ (raw ++ rest))
    obtain ⟨fault, hothers⟩ := ih values (by omega)
    refine ⟨fault, ?_⟩
    simp only [List.cons_append, encodeFields, decodeFields, List.append_assoc, hfirst, hothers,
      bind, Except.bind]

theorem decodeAllFields_encodeFields {values : FieldValues types}
    (hsize : fieldsSize types values < Bytes.bound 4) :
    decodeAllFields types (encodeFields types values) = .ok values := by
  have h := decodeFields_encodeFields_append values hsize []
  rw [List.append_nil] at h
  simp only [decodeAllFields, h, bind, Except.bind]
  rfl

theorem decodeAllFields_of_garbled {before after : List FieldType} {type : FieldType}
    {values : FieldValues before} {raw : Bytes} (htypes : types = before ++ type :: after)
    (hsize : fieldsSize before values < Bytes.bound 4) (h : type.Garbled raw) (rest : Bytes) :
    ∃ fault, decodeAllFields types (encodeFields before values ++ (raw ++ rest)) =
      .error fault := by
  subst htypes
  obtain ⟨fault, hfault⟩ := decodeFields_of_garbled values hsize h after rest
  exact ⟨fault, by simp only [decodeAllFields, hfault, bind, Except.bind]⟩

/-- Bytes that are read to their end are the bytes of what is read. -/
theorem eq_encodeFields_of_decodeAllFields {values : FieldValues types}
    (h : decodeAllFields types bytes = .ok values) : bytes = encodeFields types values := by
  simp only [decodeAllFields, bind, Except.bind] at h
  split at h
  · cases h
  · rename_i parts hparts
    split at h
    · rename_i hempty
      simp only [pure, Except.pure, Except.ok.injEq] at h
      rw [eq_encodeFields_append_of_decodeFields hparts, List.isEmpty_iff.mp hempty,
        List.append_nil, h]
    · cases h

end Sequences
end MaskedList
