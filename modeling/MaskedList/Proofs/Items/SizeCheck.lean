import MaskedList.Proofs.Items

/-!
# The size check and headers that get round it

The size that the header of an item list calls for is worked out in 64 bits, and the three
numbers of a header can call for nearly twice as much as 64 bits can say.  A size that comes
round is still refused where it differs from the size of the payload, if with a wrong number
in the message.  Where it comes round to the size of the payload itself, the check passes, not
even the first record lies within the payload, and cutting it out is a panic.  Such headers are
the only ones that the check does not hold against: every other payload is a list of the
declared size or is refused before a record is cut off.
-/

namespace MaskedList
namespace ItemList

variable {payload : Bytes}

/-- A header that calls for so much that the size worked out from it comes round to that of
the payload. -/
def WrapsToFit (payload : Bytes) : Prop :=
  itemsHeaderSize ≤ payload.length ∧ declaredSize payload = UInt64.size + payload.length

instance (payload : Bytes) : Decidable (WrapsToFit payload) :=
  inferInstanceAs (Decidable (_ ∧ _))

theorem toNat_expectedSize_headerWord (payload : Bytes) :
    (expectedSize (headerWord payload 0) (headerWord payload 4) (headerWord payload 8)).toNat =
      declaredSize payload % UInt64.size :=
  toNat_expectedSize_eq_mod

theorem size_uint32 : UInt32.size = 4294967296 := rfl

theorem size_uint64 : UInt64.size = 18446744073709551616 := rfl

/-- No header calls for twice as much as 64 bits can say. -/
theorem declaredSize_lt (payload : Bytes) : declaredSize payload < 2 * UInt64.size := by
  have hcount := (headerWord payload 0).toNat_lt
  have hvalue := (headerWord payload 4).toNat_lt
  have hmask := (headerWord payload 8).toNat_lt
  have hrecords : (headerWord payload 0).toNat *
      ((headerWord payload 4).toNat + (headerWord payload 8).toNat) ≤
        4294967295 * (2 * 4294967295) :=
    Nat.mul_le_mul (by omega) (by omega)
  rw [declaredSize, itemsHeaderSize, size_uint64]
  omega

/-- A header calls for more than 64 bits can say only with records of more than 32 bits, and
then with values that have a width. -/
theorem widths_of_overflow (h : UInt64.size ≤ declaredSize payload) :
    0 < (headerWord payload 0).toNat ∧ 0 < (headerWord payload 4).toNat ∧
      UInt32.size ≤ (headerWord payload 4).toNat + (headerWord payload 8).toNat := by
  have hcount := (headerWord payload 0).toNat_lt
  have hmask := (headerWord payload 8).toNat_lt
  rw [declaredSize, itemsHeaderSize, size_uint64] at h
  rw [size_uint32]
  have hwide : 4294967296 ≤ (headerWord payload 4).toNat + (headerWord payload 8).toNat := by
    apply Nat.le_of_not_lt
    intro hnarrow
    have hrecords : (headerWord payload 0).toNat *
        ((headerWord payload 4).toNat + (headerWord payload 8).toNat) ≤ 4294967295 * 4294967295 :=
      Nat.mul_le_mul (by omega) (by omega)
    omega
  refine ⟨?_, by omega, hwide⟩
  apply Nat.pos_of_ne_zero
  intro hnone
  rw [hnone, Nat.zero_mul] at h
  omega

/-- Of bytes that are fewer than one record has, the first record cannot be cut off. -/
theorem takeRecords_of_short {widthOfValue widthOfMask number : Nat} {bytes : Bytes}
    (hnumber : 0 < number) (hshort : bytes.length < widthOfValue + widthOfMask) :
    takeRecords widthOfValue widthOfMask number [] bytes = .panicked (.outsidePayload 0) := by
  obtain ⟨number, rfl⟩ := Nat.exists_eq_succ_of_ne_zero (Nat.ne_of_gt hnumber)
  have hpieces : ¬ ((bytes.take widthOfValue).length = widthOfValue ∧
      ((bytes.drop widthOfValue).take widthOfMask).length = widthOfMask) := by
    rw [List.length_take, List.length_take, List.length_drop]
    omega
  simp only [takeRecords, List.splitAt_eq, hpieces, if_false, List.length_nil]

/-- What becomes of a header that calls for more than 64 bits can say. -/
theorem decodeItems_of_overflow (hfits : payload.length ≤ maxPayloadSize)
    (hbegun : itemsHeaderSize ≤ payload.length) (hover : UInt64.size ≤ declaredSize payload) :
    (WrapsToFit payload ∧ decodeItems payload = .panicked (.outsidePayload 0)) ∨
      (¬ WrapsToFit payload ∧ ∃ fault, decodeItems payload = .returned (.error fault)) := by
  have hbound := declaredSize_lt payload
  obtain ⟨hsome, hvalue, hwide⟩ := widths_of_overflow hover
  have hexpected : (expectedSize (headerWord payload 0) (headerWord payload 4)
      (headerWord payload 8)).toNat = declaredSize payload - UInt64.size := by
    rw [toNat_expectedSize_headerWord, Nat.mod_eq_sub_mod hover, Nat.mod_eq_of_lt (by omega)]
  have hwidth : ¬ (0 < headerWord payload 0 ∧ headerWord payload 4 = 0) := by
    rintro ⟨-, hzero⟩
    rw [hzero] at hvalue
    exact absurd hvalue (by decide)
  have hdecode := decodeItems_of_begun hbegun
  simp only [hexpected] at hdecode
  rw [if_neg hwidth] at hdecode
  -- the size that comes round is compared as if it were the true one
  by_cases hshort : payload.length < declaredSize payload - UInt64.size
  · rw [if_pos hshort] at hdecode
    exact Or.inr ⟨fun h => by have := h.2; omega, _, hdecode⟩
  rw [if_neg hshort] at hdecode
  by_cases hlong : declaredSize payload - UInt64.size < payload.length
  · rw [if_pos hlong] at hdecode
    exact Or.inr ⟨fun h => by have := h.2; omega, _, hdecode⟩
  rw [if_neg hlong] at hdecode
  have hrecord : (payload.drop itemsHeaderSize).length <
      (headerWord payload 4).toNat + (headerWord payload 8).toNat := by
    rw [List.length_drop]
    have hlimit : maxPayloadSize < UInt32.size := by decide
    omega
  rw [takeRecords_of_short hsome hrecord] at hdecode
  exact Or.inl ⟨⟨hbegun, by omega⟩, hdecode⟩

/-- What becomes of a payload that a response can carry. -/
theorem decode_of_fits (hfits : payload.length ≤ maxPayloadSize) :
    (WellSized payload ∧ ∃ list, decode payload = .returned (.ok list)) ∨
      (WrapsToFit payload ∧ decode payload = .panicked (.outsidePayload 0)) ∨
      (¬ WellSized payload ∧ ¬ WrapsToFit payload ∧
        ∃ fault, decode payload = .returned (.error (.protocol (.items fault)))) := by
  by_cases hover : itemsHeaderSize ≤ payload.length ∧ UInt64.size ≤ declaredSize payload
  · have hill : ¬ WellSized payload := by
      rintro ⟨-, -, hlength⟩
      have hlimit : maxPayloadSize < UInt64.size := by decide
      omega
    obtain ⟨hwraps, hdecode⟩ | ⟨hplain, fault, hdecode⟩ :=
      decodeItems_of_overflow hfits hover.1 hover.2
    · exact Or.inr (Or.inl ⟨hwraps, by rw [decode, hdecode]; rfl⟩)
    · exact Or.inr (Or.inr ⟨hill, hplain, fault, by rw [decode, hdecode]; rfl⟩)
  · have hplain : ¬ WrapsToFit payload := by
      rintro ⟨hbegun, hsize⟩
      exact hover ⟨hbegun, by omega⟩
    have hsize : itemsHeaderSize ≤ payload.length → declaredSize payload < UInt64.size :=
      fun hbegun => Nat.lt_of_not_le fun h => hover ⟨hbegun, h⟩
    obtain ⟨hwell, items, hdecode, -⟩ | ⟨hill, fault, hdecode⟩ := decode_cases hsize
    · exact Or.inl ⟨hwell, _, hdecode⟩
    · exact Or.inr (Or.inr ⟨hill, hplain, fault, hdecode⟩)

theorem WellSized.not_wrapsToFit (h : WellSized payload) : ¬ WrapsToFit payload := by
  rintro ⟨-, hwraps⟩
  rw [← h.2.2, size_uint64] at hwraps
  omega

/-- Such a header, and no other, makes the decoder cut out the first record where there is
none. -/
theorem decode_eq_panicked_iff {panic : Panic} (hfits : payload.length ≤ maxPayloadSize) :
    decode payload = .panicked panic ↔ WrapsToFit payload ∧ panic = .outsidePayload 0 := by
  obtain ⟨hwell, list, hdecode⟩ | ⟨hwraps, hdecode⟩ | ⟨-, hplain, fault, hdecode⟩ :=
    decode_of_fits hfits
  · simp [hdecode, hwell.not_wrapsToFit]
  · simp [hdecode, hwraps, eq_comm]
  · simp [hdecode, hplain]

/-- The size that is worked out for a payload is the declared one up to multiples of `2 ^ 64`,
and the declared one itself exactly if that is less.  Only lists of the declared size are read.
Decoding panics exactly if the size comes round to that of the payload, and then over the first
record; any other payload is refused for what is wrong with it. -/
theorem size_check_holds_unless_wrapped (hfits : payload.length ≤ maxPayloadSize) :
    (expectedSize (headerWord payload 0) (headerWord payload 4) (headerWord payload 8)).toNat =
      declaredSize payload % UInt64.size ∧
    ((expectedSize (headerWord payload 0) (headerWord payload 4) (headerWord payload 8)).toNat =
      declaredSize payload ↔ declaredSize payload < UInt64.size) ∧
    ((∃ list, decode payload = .returned (.ok list)) ↔ WellSized payload) ∧
    (∀ panic, decode payload = .panicked panic ↔
      WrapsToFit payload ∧ panic = .outsidePayload 0) ∧
    ((¬ WellSized payload ∧ ¬ WrapsToFit payload) ↔
      ∃ fault, decode payload = .returned (.error (.protocol (.items fault)))) := by
  refine ⟨toNat_expectedSize_headerWord payload, ?_, ?_⟩
  · rw [toNat_expectedSize_headerWord]
    constructor
    · intro h
      rw [← h]
      exact Nat.mod_lt _ (by decide)
    · exact Nat.mod_eq_of_lt
  have hpanic (panic : Panic) : decode payload = .panicked panic ↔
      WrapsToFit payload ∧ panic = .outsidePayload 0 := decode_eq_panicked_iff hfits
  obtain ⟨hwell, list, hdecode⟩ | ⟨hwraps, hdecode⟩ | ⟨hill, hplain, fault, hdecode⟩ :=
    decode_of_fits hfits
  · exact ⟨by simp [hdecode, hwell], hpanic, by simp [hdecode, hwell]⟩
  · have hill : ¬ WellSized payload := fun hwell => hwell.not_wrapsToFit hwraps
    exact ⟨by simp [hdecode, hill], hpanic, by simp [hdecode, hwraps]⟩
  · exact ⟨by simp [hdecode, hill], hpanic, by simp [hdecode, hill, hplain]⟩

/-- All three numbers of this header are as large as they can be, so the size comes round, but
not to the twelve bytes that are there. -/
theorem size_check_holds_unless_wrapped_largest_header :
    let payload : Bytes := List.replicate 12 255
    payload.length ≤ maxPayloadSize ∧ UInt64.size ≤ declaredSize payload ∧
      ∃ fault, decode payload = .returned (.error (.protocol (.items fault))) := by
  intro payload
  have hfits : payload.length ≤ maxPayloadSize := by decide
  have hplain : ¬ WellSized payload ∧ ¬ WrapsToFit payload := by decide +kernel
  obtain ⟨-, -, -, -, hrefused⟩ := size_check_holds_unless_wrapped hfits
  exact ⟨hfits, by decide +kernel, hrefused.mp hplain⟩

/-- A header that gets round the check: its records are of more than 32 bits each, but four
bytes are all that is behind it. -/
theorem size_check_fooled :
    let payload : Bytes :=
      [0x80, 0x01, 0x00, 0x01, 0xFF, 0xFC, 0x00, 0x05, 0xFF, 0xFF, 0xFF, 0xFF, 0, 0, 0, 0]
    payload.length ≤ maxPayloadSize ∧
      (expectedSize (headerWord payload 0) (headerWord payload 4)
        (headerWord payload 8)).toNat = payload.length ∧
      declaredSize payload = UInt64.size + payload.length ∧
      decode payload = .panicked (.outsidePayload 0) := by
  intro payload
  have hfits : payload.length ≤ maxPayloadSize := by decide
  have hwraps : WrapsToFit payload := by decide +kernel
  exact ⟨hfits, by decide +kernel, hwraps.2, (decode_eq_panicked_iff hfits).mpr ⟨hwraps, rfl⟩⟩

end ItemList
end MaskedList
