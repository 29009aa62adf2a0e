import MaskedList.Gauge
import MaskedList.Proofs.Field

/-!
# Records of numbers and their payloads

All fields of a record are numbers of four or eight bytes, so a record is read back from
its payload whatever its numbers are, and a payload is a record's exactly if it has the
record's length: the records of a kind and the payloads of that length are one to one.
-/

namespace MaskedList

/-! ## Layouts of numbers -/

/-- A reader that takes `size` bytes, whatever they are, and finds fewer incomplete. -/
def TakesExactly {α : Type} (size : Nat) (read : Bytes → Except FieldFault (α × Bytes)) : Prop :=
  ∀ bytes : Bytes,
    (bytes.length < size ∧
      ∃ part expected got, read bytes = .error (.incomplete part expected got)) ∨
    size ≤ bytes.length ∧ ∃ value, read bytes = .ok (value, bytes.drop size)

theorem takesExactly_number {α : Type} (f : Nat → α) (part : FieldPart) (width : Nat) :
    TakesExactly width fun bytes => do
      let (head, rest) ← takePart part width bytes
      return (f (Bytes.toNat head), rest) := by
  intro bytes
  by_cases hshort : bytes.length < width
  · refine Or.inl ⟨hshort, part, width, bytes.length, ?_⟩
    simp only [takePart, if_pos hshort, bind, Except.bind]
  · refine Or.inr ⟨Nat.le_of_not_lt hshort, f (Bytes.toNat (bytes.take width)), ?_⟩
    simp only [takePart, if_neg hshort, bind, Except.bind]
    rfl

/-- How many bytes a number takes up. -/
def FieldType.width : FieldType → Nat
  | .long => 8
  | _ => 4

/-- How many bytes the numbers of a layout take up. -/
def layoutWidth : List FieldType → Nat
  | [] => 0
  | type :: types => type.width + layoutWidth types

theorem FieldType.takesExactly {type : FieldType} (h : type = .word ∨ type = .long) :
    TakesExactly type.width type.decode := by
  rcases h with rfl | rfl
  · exact takesExactly_number UInt32.ofNat .word 4
  · exact takesExactly_number UInt64.ofNat .long 8

/-- The numbers of a layout are read from any bytes that are enough for all of them. -/
theorem takesExactly_decodeFields {types : List FieldType}
    (h : ∀ type ∈ types, type = .word ∨ type = .long) :
    TakesExactly (layoutWidth types) (decodeFields types) := by
  induction types with
  | nil => exact fun bytes => Or.inr ⟨Nat.zero_le _, (), rfl⟩
  | cons type types ih =>
    intro bytes
    have hothers := ih fun other hmem => h other (List.mem_cons_of_mem type hmem)
    rw [layoutWidth]
    rcases FieldType.takesExactly (h type List.mem_cons_self) bytes with
      ⟨hshort, part, expected, got, hfirst⟩ | ⟨hlength, value, hfirst⟩
    · refine Or.inl ⟨by omega, part, expected, got, ?_⟩
      simp only [decodeFields, hfirst, bind, Except.bind]
    have hrest : (bytes.drop type.width).length = bytes.length - type.width := List.length_drop
    rcases hothers (bytes.drop type.width) with
      ⟨hshort, part, expected, got, hothers⟩ | ⟨hothersLength, values, hothers⟩
    · refine Or.inl ⟨by omega, part, expected, got, ?_⟩
      simp only [decodeFields, hfirst, hothers, bind, Except.bind]
    · refine Or.inr ⟨by omega, (value, values), ?_⟩
      simp only [decodeFields, hfirst, hothers, bind, Except.bind, List.drop_drop]
      rfl

namespace Gauge

/-- The length of a record's payload. -/
def size (gauge : Gauge) : Nat :=
  layoutWidth gauge.layout

/-- The size of a record does not depend on its numbers. -/
theorem fieldsSize_lt_bound (gauge : Gauge) (values : FieldValues gauge.layout) :
    fieldsSize gauge.layout values < Bytes.bound 4 := by
  cases gauge <;> exact of_decide_eq_true rfl

theorem decode_encodeFields (gauge : Gauge) (values : FieldValues gauge.layout) :
    gauge.decode (encodeFields gauge.layout values) = .ok values := by
  rw [Gauge.decode, decodeAllFields_encodeFields (gauge.fieldsSize_lt_bound values)]

/-- What is read from a payload has it as its own payload. -/
theorem encodeFields_of_decode {gauge : Gauge} {payload : Bytes}
    {values : FieldValues gauge.layout} (h : gauge.decode payload = .ok values) :
    encodeFields gauge.layout values = payload := by
  rw [Gauge.decode] at h
  split at h
  · rename_i read hread
    cases h
    exact (eq_encodeFields_of_decodeAllFields hread).symm
  · cases h
  · cases h

/-- A payload is read if it has the length of a record, and is too short or too long if it has
not. -/
theorem decode_of_length (gauge : Gauge) (payload : Bytes) :
    (payload.length = gauge.size → ∃ values, gauge.decode payload = .ok values) ∧
    (payload.length ≠ gauge.size → gauge.decode payload = .error (.protocol
      (.gauge gauge (if payload.length < gauge.size then .tooShort else .tooLong)))) := by
  have hnumbers : ∀ type ∈ gauge.layout, type = .word ∨ type = .long := by
    cases gauge <;> decide
  rcases takesExactly_decodeFields hnumbers payload with
    ⟨hshort, part, expected, got, hread⟩ | ⟨hlength, values, hread⟩
  · refine ⟨fun hsize => absurd hsize (Nat.ne_of_lt hshort), fun _ => ?_⟩
    rw [size, if_pos hshort]
    simp only [decode, decodeAllFields, hread, bind, Except.bind]
  constructor
  · intro hsize
    have hrest : (payload.drop (layoutWidth gauge.layout)).isEmpty = true := by
      simp [show payload.length = layoutWidth gauge.layout from hsize]
    refine ⟨values, ?_⟩
    simp only [decode, decodeAllFields, hread, bind, Except.bind, hrest, if_true]
    rfl
  · intro hsize
    have hlonger : layoutWidth gauge.layout < payload.length :=
      Nat.lt_of_le_of_ne hlength hsize.symm
    have hrest : ¬ (payload.drop (layoutWidth gauge.layout)).isEmpty = true := by
      simpa using hlonger
    rw [size, if_neg (Nat.not_lt.mpr hlength)]
    simp only [decode, decodeAllFields, hread, bind, Except.bind, if_neg hrest]
    rfl

/-- The records of a gauge and the payloads of its size are one to one: what is read from a
payload is the one record with that payload, every payload of the size is read, and every
other one is refused. -/
structure OneToOne {α : Type} (gauge : Gauge) (size : Nat) (encode : α → Bytes)
    (decode : Bytes → Except Error α) : Prop where
  decode_eq_ok_iff : ∀ payload record, decode payload = .ok record ↔ payload = encode record
  exists_decode_iff : ∀ payload, (∃ record, decode payload = .ok record) ↔ payload.length = size
  decode_eq_error : ∀ payload, payload.length ≠ size → decode payload =
    .error (.protocol (.gauge gauge (if payload.length < size then .tooShort else .tooLong)))

/-- Records that have the fields of the layout, and no others. -/
theorem oneToOne_fields {α : Type} {gauge : Gauge} {fields : α → FieldValues gauge.layout}
    {ofFields : FieldValues gauge.layout → α}
    (hfields : ∀ record, ofFields (fields record) = record)
    (hvalues : ∀ values, fields (ofFields values) = values) :
    gauge.OneToOne gauge.size (fun record => encodeFields gauge.layout (fields record))
      fun payload => (gauge.decode payload).map ofFields := by
  have hiff : ∀ payload record, (gauge.decode payload).map ofFields = .ok record ↔
      payload = encodeFields gauge.layout (fields record) := by
    intro payload record
    constructor
    · intro h
      cases hread : gauge.decode payload with
      | error error => simp [hread, Except.map] at h
      | ok values =>
        simp only [hread, Except.map, Except.ok.injEq] at h
        rw [← h, hvalues, encodeFields_of_decode hread]
    · rintro rfl
      simp only [decode_encodeFields, Except.map, hfields]
  refine ⟨hiff, ?_, ?_⟩
  · intro payload
    constructor
    · rintro ⟨record, h⟩
      refine Decidable.byContradiction fun hsize => ?_
      simp [(gauge.decode_of_length payload).2 hsize, Except.map] at h
    · intro hsize
      obtain ⟨values, hread⟩ := (gauge.decode_of_length payload).1 hsize
      exact ⟨ofFields values, by rw [hread]; rfl⟩
  · intro payload hsize
    rw [(gauge.decode_of_length payload).2 hsize]
    rfl

end Gauge

theorem KeyStats.oneToOne : Gauge.stat.OneToOne 28 encode decode :=
  Gauge.oneToOne_fields (fun _ => rfl) fun _ => rfl

theorem StoreStats.oneToOne : Gauge.statSys.OneToOne 36 encode decode :=
  Gauge.oneToOne_fields (fun _ => rfl) fun _ => rfl

theorem MatchCount.oneToOne : Gauge.count.OneToOne 8 encode decode :=
  Gauge.oneToOne_fields (fun _ => rfl) fun _ => rfl

@[simp]
theorem KeyStats.decode_encode (stats : KeyStats) : decode stats.encode = .ok stats :=
  (KeyStats.oneToOne.decode_eq_ok_iff _ _).mpr rfl

@[simp]
theorem StoreStats.decode_encode (stats : StoreStats) : decode stats.encode = .ok stats :=
  (StoreStats.oneToOne.decode_eq_ok_iff _ _).mpr rfl

@[simp]
theorem MatchCount.decode_encode (count : MatchCount) : decode count.encode = .ok count :=
  (MatchCount.oneToOne.decode_eq_ok_iff _ _).mpr rfl

/-- Statistics of a key, of a store, and counts are one to one with the payloads of 28, 36 and
8 bytes, and such a payload is nothing but the numbers of its record, one after the other in
the order in which they are declared. -/
theorem Gauge.records_are_their_payloads :
    (Gauge.stat.OneToOne 28 KeyStats.encode KeyStats.decode ∧
      Gauge.statSys.OneToOne 36 StoreStats.encode StoreStats.decode ∧
      Gauge.count.OneToOne 8 MatchCount.encode MatchCount.decode) ∧
    (∀ stats : KeyStats, stats.encode =
      [Bytes.ofNat 4 stats.valueSize.toNat, Bytes.ofNat 4 stats.maskSize.toNat,
        Bytes.ofNat 4 stats.blocks.toNat, Bytes.ofNat 4 stats.slots.toNat,
        Bytes.ofNat 4 stats.slotsUsed.toNat, Bytes.ofNat 8 stats.memory.toNat].flatten) ∧
    (∀ stats : StoreStats, stats.encode =
      [Bytes.ofNat 4 stats.keys.toNat, Bytes.ofNat 4 stats.values.toNat,
        Bytes.ofNat 4 stats.blocks.toNat, Bytes.ofNat 4 stats.slots.toNat,
        Bytes.ofNat 4 stats.slotsUsed.toNat, Bytes.ofNat 4 stats.blockSlots.toNat,
        Bytes.ofNat 8 stats.tableMemory.toNat, Bytes.ofNat 4 stats.spareBlocks.toNat].flatten) ∧
    ∀ count : MatchCount, count.encode =
      [Bytes.ofNat 4 count.visible.toNat, Bytes.ofNat 4 count.tagged.toNat].flatten :=
  ⟨⟨KeyStats.oneToOne, StoreStats.oneToOne, MatchCount.oneToOne⟩, fun _ => rfl, fun _ => rfl,
    fun _ => rfl⟩

/-- A payload that is cut off by a byte is no count, and neither is one with a byte behind it. -/
example : (MatchCount.decode [0, 0, 0, 2, 0, 0, 0]).toOption = none ∧
    (MatchCount.decode [0, 0, 0, 2, 0, 0, 0, 1, 0]).toOption = none ∧
    (MatchCount.decode [0, 0, 0, 2, 0, 0, 0, 1]).toOption = some ⟨2, 1⟩ :=
  ⟨rfl, rfl, rfl⟩

end MaskedList
