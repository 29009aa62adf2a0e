import MaskedList.Proofs.Frame
import MaskedList.Proofs.Items
import MaskedList.Proofs.Store.Sound

/-!
# What callers see of entries

Ranges and pops answer with entries as an item list.  Its reader sees every value filled up to
the width of the collection and every mask in the one width that masks have,
`Collection.shown`, and that is all that is lost on the way: `Collection.Shows`.
-/

namespace MaskedList

namespace Collection

/-- Entries as a caller sees them: every value filled up to the collection's width with zero
bytes, every mask cut off at its width or filled up to it. -/
def shown (collection : Collection) (entries : List Entry) : ItemList where
  valueSize := collection.valueSize
  maskSize := Store.maskSize
  items := entries.map fun entry =>
    { value := entry.value ++
        List.replicate (collection.valueSize.toNat - entry.value.length) 0
      mask := fitWidth Store.maskSize.toNat (Bytes.ofText entry.mask) }

/-- The response is a success, and if the collection is sound and the response may travel, its
data are just these entries. -/
def Shows (collection : Collection) (response : Response) (entries : List Entry) : Prop :=
  response.status = .ok ∧ (collection.Sound → response.Fits →
    ItemList.decode response.body = .returned (.ok (collection.shown entries)))

end Collection

namespace Store

variable {collection : Collection} {entries : List Entry}

/-- Values that have room in a sound collection are read back with all their bytes. -/
theorem decode_itemsResponse (hsound : collection.Sound)
    (hroom : ∀ entry ∈ entries, entry.value.length ≤ collection.valueSize.toNat)
    (hfits : (itemsResponse collection entries).Fits) :
    ItemList.decode (itemsResponse collection entries).body =
      .returned (.ok (collection.shown entries)) := by
  have hpositive : 0 < collection.valueSize.toNat :=
    Nat.pos_of_ne_zero fun hzero => hsound.valueSize_ne_zero (UInt32.toNat_inj.mp hzero)
  have hlength : (ItemList.encode collection.valueSize maskSize _).length ≤ maxPayloadSize :=
    hfits
  rw [ItemList.length_encode, List.length_map, itemsHeaderSize, maxPayloadSize] at hlength
  -- every record has a byte, so there are not more of them than bytes
  have hcount := Nat.le_mul_of_pos_right entries.length
    (Nat.add_pos_left hpositive maskSize.toNat)
  refine (ItemList.decode_encode ?_ ?_ ?_).trans ?_
  · rw [List.length_map, UInt32.size]
    omega
  · exact fun hzero => absurd hzero hsound.valueSize_ne_zero
  · rw [List.length_map, itemsHeaderSize, UInt64.size]
    omega
  · rw [Collection.shown, List.map_map]
    refine congrArg (fun items => Ending.returned (Except.ok (ItemList.mk _ _ items false))) ?_
    refine List.map_congr_left fun entry hmem => ?_
    simp only [Function.comp_apply, ItemList.fitted, fitWidth_of_le (hroom entry hmem)]

/-- Entries of the collection itself are shown. -/
theorem shows_of_subset (hentries : entries ⊆ collection.entries) :
    collection.Shows (itemsResponse collection entries) entries :=
  ⟨rfl, fun hsound hfits => decode_itemsResponse hsound
    (fun entry hmem => hsound.length_le entry (hentries hmem)) hfits⟩

end Store
end MaskedList
