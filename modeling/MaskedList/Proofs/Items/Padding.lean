import Mathlib.Data.List.DropRight
import Mathlib.Data.List.Forall2
import MaskedList.Proofs.Items

/-!
# Padding and what is left of a field

A field that is put into a fixed width and trimmed again is what was left of it when it was
cut off at the width, without the zero bytes that it may have ended in.  So a field that fits
its width and does not end in a zero byte comes back as it was, and lists of such fields have
different payloads: padding loses nothing that trimming could not tell from padding.
-/

namespace MaskedList

/-! ## Trimming -/

section Trimming

variable {bytes : Bytes} {width : Nat}

/-- Bytes that do not end in a zero byte. -/
def Unpadded (bytes : Bytes) : Prop :=
  bytes.getLast? ≠ some 0

instance (bytes : Bytes) : Decidable (Unpadded bytes) :=
  inferInstanceAs (Decidable (¬ _))

/-- The bytes are the trimmed ones and zero bytes behind them. -/
structure TrimmedTo (bytes trimmed : Bytes) : Prop where
  unpadded : Unpadded trimmed
  padding : ∃ count, bytes = trimmed ++ List.replicate count 0

theorem trimPadding_eq_rdropWhile (bytes : Bytes) :
    trimPadding bytes = bytes.rdropWhile (· = 0) := rfl

theorem trimPadding_of_unpadded (h : Unpadded bytes) : trimPadding bytes = bytes := by
  rw [trimPadding_eq_rdropWhile, List.rdropWhile_eq_self_iff]
  intro hne hzero
  exact h (by rw [List.getLast?_eq_some_getLast hne, of_decide_eq_true hzero])

/-- Padding is all that is trimmed off. -/
theorem trimPadding_append_replicate (bytes : Bytes) (count : Nat) :
    trimPadding (bytes ++ List.replicate count 0) = trimPadding bytes := by
  induction count with
  | zero => rw [List.replicate_zero, List.append_nil]
  | succ count ih =>
    rw [List.replicate_succ', ← List.append_assoc, trimPadding_eq_rdropWhile,
      List.rdropWhile_concat_pos _ _ _ (by decide), ← trimPadding_eq_rdropWhile, ih]

theorem trimmedTo_trimPadding (bytes : Bytes) : TrimmedTo bytes (trimPadding bytes) := by
  -- on the bytes from their end, of which zero bytes are dropped
  induction bytes using List.reverseRecOn with
  | nil => exact ⟨by decide, 0, rfl⟩
  | append_singleton bytes byte ih =>
    by_cases hbyte : byte = 0
    · obtain ⟨hunpadded, count, hcount⟩ := ih
      rw [hbyte]
      have htrim := trimPadding_append_replicate bytes 1
      rw [List.replicate_one] at htrim
      rw [htrim]
      refine ⟨hunpadded, count + 1, ?_⟩
      rw [List.replicate_succ', ← List.append_assoc, ← hcount]
    · have hunpadded : Unpadded (bytes ++ [byte]) := by
        simpa [Unpadded] using hbyte
      rw [trimPadding_of_unpadded hunpadded]
      exact ⟨hunpadded, 0, by simp⟩

/-- A field in its width is trimmed to what fits of it, trimmed. -/
theorem trimPadding_fitWidth (width : Nat) (field : Bytes) :
    trimPadding (fitWidth width field) = trimPadding (field.take width) := by
  rw [fitWidth, trimPadding_append_replicate]

theorem trimPadding_fitWidth_of_le {field : Bytes} (hwidth : field.length ≤ width)
    (hunpadded : Unpadded field) : trimPadding (fitWidth width field) = field := by
  rw [trimPadding_fitWidth, List.take_of_length_le hwidth, trimPadding_of_unpadded hunpadded]

end Trimming

namespace ItemList

variable {valueSize maskSize : UInt32} {given : Bytes × Bytes} {items : List (Bytes × Bytes)}

/-! ## Items -/

/-- What is read back of a value and a mask that were written in these widths: what fits of
them, filled up with zero bytes, and for the caller without the zero bytes at the end. -/
structure ReadBack (valueSize maskSize : UInt32) (given : Bytes × Bytes) (item : Item) : Prop where
  value : item.value = given.1.take valueSize.toNat ++
    List.replicate (valueSize.toNat - given.1.length) 0
  mask : item.mask = given.2.take maskSize.toNat ++
    List.replicate (maskSize.toNat - given.2.length) 0
  value_trimmed : TrimmedTo (given.1.take valueSize.toNat) item.valueTrimmed
  mask_trimmed : TrimmedTo (given.2.take maskSize.toNat) (trimPadding item.mask)
  value_unchanged : given.1.length ≤ valueSize.toNat → Unpadded given.1 →
    item.valueTrimmed = given.1
  mask_unchanged : given.2.length ≤ maskSize.toNat → Unpadded given.2 →
    trimPadding item.mask = given.2

theorem readBack_fitted (given : Bytes × Bytes) :
    ReadBack valueSize maskSize given (fitted valueSize maskSize given) where
  value := rfl
  mask := rfl
  value_trimmed := by
    rw [Item.valueTrimmed, fitted, trimPadding_fitWidth]
    exact trimmedTo_trimPadding _
  mask_trimmed := by
    rw [fitted, trimPadding_fitWidth]
    exact trimmedTo_trimPadding _
  value_unchanged := trimPadding_fitWidth_of_le
  mask_unchanged := trimPadding_fitWidth_of_le

theorem forall₂_readBack (items : List (Bytes × Bytes)) :
    List.Forall₂ (ReadBack valueSize maskSize) items
      (items.map (fitted valueSize maskSize)) := by
  rw [List.forall₂_map_right_iff, List.forall₂_same]
  intro given _
  exact readBack_fitted given

/-- Both fit their widths and end in no zero byte. -/
structure Restorable (valueSize maskSize : UInt32) (given : Bytes × Bytes) : Prop where
  value_le : given.1.length ≤ valueSize.toNat
  mask_le : given.2.length ≤ maskSize.toNat
  value_unpadded : Unpadded given.1
  mask_unpadded : Unpadded given.2

/-- The value and the mask of an item as its reader takes them. -/
def trimmed (item : Item) : Bytes × Bytes :=
  (item.valueTrimmed, trimPadding item.mask)

theorem Restorable.trimmed_fitted (h : Restorable valueSize maskSize given) :
    trimmed (fitted valueSize maskSize given) = given :=
  Prod.ext (trimPadding_fitWidth_of_le h.value_le h.value_unpadded)
    (trimPadding_fitWidth_of_le h.mask_le h.mask_unpadded)

theorem map_trimmed_fitted (h : ∀ given ∈ items, Restorable valueSize maskSize given) :
    (items.map (fitted valueSize maskSize)).map trimmed = items := by
  rw [List.map_map]
  refine (List.map_congr_left ?_).trans (List.map_id items)
  intro given hmem
  exact (h given hmem).trimmed_fitted

/-- The payload of a list tells how its items look in their widths. -/
theorem map_fitted_eq_of_encode_eq {others : List (Bytes × Bytes)}
    (hitems : items.length < UInt32.size) (hothers : others.length < UInt32.size)
    (h : encode valueSize maskSize items = encode valueSize maskSize others) :
    items.map (fitted valueSize maskSize) = others.map (fitted valueSize maskSize) := by
  rw [encode_eq_header_append hitems, encode_eq_header_append hothers] at h
  obtain ⟨hheader, hrecords⟩ := List.append_inj h (by rw [length_header, length_header])
  -- the header counts the items, and as many records are cut off
  have hcount : items.length = others.length := by
    have hfield := (List.append_inj hheader (by simp)).1
    rw [UInt32.toNat_ofNat_of_lt' hitems, UInt32.toNat_ofNat_of_lt' hothers] at hfield
    have hnumber := congrArg Bytes.toNat hfield
    have hbound : Bytes.bound 4 = UInt32.size := rfl
    rwa [Bytes.toNat_ofNat, Bytes.toNat_ofNat, hbound, Nat.mod_eq_of_lt hitems,
      Nat.mod_eq_of_lt hothers] at hnumber
  have hread : takeRecords valueSize.toNat maskSize.toNat items.length [] _ = _ :=
    takeRecords_fitted items
  rw [hrecords, hcount, takeRecords_fitted others] at hread
  exact (Ending.returned.inj hread).symm

/-- Values without a width are refused. -/
theorem decode_encode_zero_width (hcount : items.length < UInt32.size) (hsome : items ≠ []) :
    decode (encode 0 maskSize items) =
      .returned (.error (.protocol (.items (.zeroWidth (UInt32.ofNat items.length))))) := by
  have hpositive : 0 < UInt32.ofNat items.length := by
    rw [UInt32.lt_iff_toNat_lt, UInt32.toNat_ofNat_of_lt' hcount]
    exact List.length_pos_iff.mpr hsome
  rw [decode, encode_eq_header_append hcount, decodeItems_header_append]
  simp only [hpositive, and_self, if_true]
  rfl

/-- Of a list with widths that can be told, everything that fits is read back: as many items,
in the same order, each filled up to its widths, and its value trimmed as the caller sees it.
What fits without a zero byte at its end is not changed at all, so lists of such items have
different payloads.  Items whose values have no width are refused. -/
theorem padded_items_are_read_back (valueSize maskSize : UInt32) :
    (∀ items : List (Bytes × Bytes), items.length < UInt32.size →
      (1 ≤ valueSize ∨ items = []) → (encode valueSize maskSize items).length < UInt64.size →
      ∃ list, decode (encode valueSize maskSize items) = .returned (.ok list) ∧
        list.valueSize = valueSize ∧ list.maskSize = maskSize ∧ list.count = items.length ∧
        List.Forall₂ (ReadBack valueSize maskSize) items list.items ∧
        List.Forall₂ (fun given value => TrimmedTo (given.1.take valueSize.toNat) value)
          items list.values) ∧
    (∀ items others : List (Bytes × Bytes), items.length < UInt32.size →
      others.length < UInt32.size → (∀ given ∈ items, Restorable valueSize maskSize given) →
      (∀ given ∈ others, Restorable valueSize maskSize given) →
      encode valueSize maskSize items = encode valueSize maskSize others → items = others) ∧
    ∀ items : List (Bytes × Bytes), items.length < UInt32.size → items ≠ [] →
      decode (encode 0 maskSize items) =
        .returned (.error (.protocol (.items (.zeroWidth (UInt32.ofNat items.length))))) := by
  refine ⟨?_, ?_, fun _ => decode_encode_zero_width⟩
  · intro items hcount hwidth hsize
    rw [length_encode] at hsize
    have hnone : valueSize = 0 → items = [] := by
      rintro rfl
      exact hwidth.resolve_left (by decide)
    refine ⟨_, decode_encode hcount hnone hsize, rfl, rfl, List.length_map ..,
      forall₂_readBack items, ?_⟩
    rw [values, List.forall₂_map_right_iff]
    exact (forall₂_readBack items).imp fun _ _ hread => hread.value_trimmed
  · intro items others hitems hothers hfirst hsecond h
    rw [← map_trimmed_fitted hfirst, ← map_trimmed_fitted hsecond,
      map_fitted_eq_of_encode_eq hitems hothers h]

/-- A value that is too long, and one that begins with a zero byte and has to be filled up. -/
theorem padded_items_are_read_back_cut_and_filled :
    let items : List (Bytes × Bytes) := [([1, 2, 3, 4], [5]), ([0, 7], [])]
    items.length < UInt32.size ∧ (encode 3 2 items).length < UInt64.size ∧
      ∃ list, decode (encode 3 2 items) = .returned (.ok list) ∧ list.count = 2 ∧
        list.values = [[1, 2, 3], [0, 7]] := by
  intro items
  have hcount : items.length < UInt32.size := by decide
  have hsize : (encode 3 2 items).length < UInt64.size := by decide
  obtain ⟨list, hdecode, -, -, hlength, -⟩ :=
    (padded_items_are_read_back 3 2).1 items hcount (.inl (by decide)) hsize
  have hread : decode (encode 3 2 items) = _ := decode_encode hcount (by decide) (by decide)
  refine ⟨hcount, hsize, list, hdecode, hlength, ?_⟩
  cases hread.symm.trans hdecode
  decide

end ItemList
end MaskedList
