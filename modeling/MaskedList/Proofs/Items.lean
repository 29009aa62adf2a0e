import MaskedList.Items.Wire

/-!
# What item lists are read back as

The payload of an item list is read back as its items, each in the widths that the
header tells: what is longer is cut off, what is shorter is filled up with zero bytes.
Nothing else is asked for than that the sizes fit the arithmetic that they are checked in.
Where they do, the payloads that are read at all are those that are just as long as their
headers say, and each of them can be made again from what was read.
-/

namespace MaskedList

@[simp]
theorem length_fitWidth (width : Nat) (field : Bytes) : (fitWidth width field).length = width := by
  simp only [fitWidth, List.length_append, List.length_take, List.length_replicate]
  omega

/-- What is not too long only gets its padding. -/
theorem fitWidth_of_le {width : Nat} {field : Bytes} (h : field.length ≤ width) :
    fitWidth width field = field ++ List.replicate (width - field.length) 0 := by
  rw [fitWidth, List.take_of_length_le h]

namespace ItemList

variable {count valueSize maskSize : UInt32}

/-- The header of a list. -/
def header (count valueSize maskSize : UInt32) : Bytes :=
  Bytes.ofNat 4 count.toNat ++ (Bytes.ofNat 4 valueSize.toNat ++ Bytes.ofNat 4 maskSize.toNat)

@[simp]
theorem length_header : (header count valueSize maskSize).length = itemsHeaderSize := by
  simp [header, itemsHeaderSize]

/-- An item as it stands in a payload. -/
def record (item : Item) : Bytes :=
  item.value ++ item.mask

/-- An item of these widths. -/
def fitted (valueSize maskSize : UInt32) (item : Bytes × Bytes) : Item :=
  ⟨fitWidth valueSize.toNat item.1, fitWidth maskSize.toNat item.2⟩

theorem length_record_fitted (item : Bytes × Bytes) :
    (record (fitted valueSize maskSize item)).length = valueSize.toNat + maskSize.toNat := by
  simp [record, fitted]

/-- The records stand one behind the other, after the three numbers of the header. -/
theorem encode_eq (items : List (Bytes × Bytes)) :
    encode valueSize maskSize items =
      Bytes.ofNat 4 items.length ++ (Bytes.ofNat 4 valueSize.toNat ++
        (Bytes.ofNat 4 maskSize.toNat ++
          (items.map (fitted valueSize maskSize)).flatMap record)) := by
  rw [List.flatMap_map]
  rfl

theorem encode_eq_header_append {items : List (Bytes × Bytes)}
    (hcount : items.length < UInt32.size) :
    encode valueSize maskSize items =
      header (UInt32.ofNat items.length) valueSize maskSize ++
        (items.map (fitted valueSize maskSize)).flatMap record := by
  have htoNat : (UInt32.ofNat items.length).toNat = items.length :=
    UInt32.toNat_ofNat_of_lt' hcount
  simp only [encode_eq, header, htoNat, List.append_assoc]

theorem length_records (items : List (Bytes × Bytes)) :
    ((items.map (fitted valueSize maskSize)).flatMap record).length =
      items.length * (valueSize.toNat + maskSize.toNat) := by
  induction items with
  | nil => simp
  | cons item items ih =>
    rw [List.map_cons, List.flatMap_cons, List.length_append, length_record_fitted, ih,
      List.length_cons, Nat.succ_mul, Nat.add_comm]

theorem length_encode (items : List (Bytes × Bytes)) :
    (encode valueSize maskSize items).length =
      itemsHeaderSize + items.length * (valueSize.toNat + maskSize.toNat) := by
  simp only [encode_eq, List.length_append, Bytes.length_ofNat, length_records, itemsHeaderSize]
  omega

/-- The size that a header calls for, as far as it can be worked out in 64 bits. -/
theorem toNat_expectedSize_eq_mod :
    (expectedSize count valueSize maskSize).toNat =
      (itemsHeaderSize + count.toNat * (valueSize.toNat + maskSize.toNat)) % UInt64.size := by
  have hvalue := valueSize.toNat_lt
  have hmask := maskSize.toNat_lt
  have hwidth : (valueSize.toUInt64 + maskSize.toUInt64).toNat =
      valueSize.toNat + maskSize.toNat := by
    rw [UInt64.toNat_add, UInt32.toNat_toUInt64, UInt32.toNat_toUInt64, Nat.mod_eq_of_lt]
    omega
  rw [expectedSize, UInt64.toNat_add, UInt64.toNat_mul, hwidth, UInt32.toNat_toUInt64]
  exact Nat.add_mod_mod ..

/-- The size that a header calls for, if it is not too large to be worked out. -/
theorem toNat_expectedSize
    (hsize : itemsHeaderSize + count.toNat * (valueSize.toNat + maskSize.toNat) < UInt64.size) :
    (expectedSize count valueSize maskSize).toNat =
      itemsHeaderSize + count.toNat * (valueSize.toNat + maskSize.toNat) := by
  rw [toNat_expectedSize_eq_mod, Nat.mod_eq_of_lt hsize]

/-- Records of the widths that are asked for are taken one after the other. -/
theorem takeRecords_records {valueSize maskSize : Nat} {items : List Item}
    (hwidths : ∀ item ∈ items, item.value.length = valueSize ∧ item.mask.length = maskSize)
    (taken : List Item) :
    takeRecords valueSize maskSize items.length taken (items.flatMap record) =
      .returned (taken.reverse ++ items) := by
  induction items generalizing taken with
  | nil => simp [takeRecords]
  | cons item items ih =>
    obtain ⟨hvalue, hmask⟩ := hwidths item List.mem_cons_self
    have hothers := ih (fun other hmem => hwidths other (List.mem_cons_of_mem item hmem))
      (item :: taken)
    rw [List.length_cons, List.flatMap_cons, record, List.append_assoc]
    simp only [takeRecords, List.splitAt_eq, List.take_left' hvalue, List.drop_left' hvalue,
      List.take_left' hmask, List.drop_left' hmask, hvalue, hmask, and_self, if_true]
    rw [hothers, List.reverse_cons, List.append_assoc, List.singleton_append]

/-- The records of items are cut off as these items in their widths. -/
theorem takeRecords_fitted (items : List (Bytes × Bytes)) :
    takeRecords valueSize.toNat maskSize.toNat items.length []
        ((items.map (fitted valueSize maskSize)).flatMap record) =
      .returned (items.map (fitted valueSize maskSize)) := by
  have htaken := takeRecords_records (fun item hmem => by
    obtain ⟨pair, -, rfl⟩ := List.mem_map.mp hmem
    exact ⟨length_fitWidth _ _, length_fitWidth _ _⟩ :
      ∀ item ∈ items.map (fitted valueSize maskSize),
        item.value.length = valueSize.toNat ∧ item.mask.length = maskSize.toNat) []
  rwa [List.length_map, List.reverse_nil, List.nil_append] at htaken

/-- The four bytes of a number name it. -/
theorem word_ofNat (word : UInt32) :
    UInt32.ofNat (Bytes.toNat (Bytes.ofNat 4 word.toNat)) = word := by
  have hbound : word.toNat < Bytes.bound 4 := word.toNat_lt
  rw [Bytes.toNat_ofNat, Nat.mod_eq_of_lt hbound, UInt32.ofNat_toNat]

/-- What becomes of a payload whose header is there. -/
theorem decodeItems_header_append (records : Bytes) :
    decodeItems (header count valueSize maskSize ++ records) =
      let expected := (expectedSize count valueSize maskSize).toNat
      let length := itemsHeaderSize + records.length
      if 0 < count ∧ valueSize = 0 then .returned (.error (.zeroWidth count))
      else if length < expected then
        .returned (.error (.truncated count (expectedSize count valueSize maskSize) length))
      else if expected < length then .returned (.error (.overrun (length - expected) count))
      else (takeRecords valueSize.toNat maskSize.toNat count.toNat [] records).map fun items =>
        .ok { valueSize, maskSize, items } := by
  have hlength : (header count valueSize maskSize ++ records).length =
      itemsHeaderSize + records.length := by
    rw [List.length_append, length_header]
  have hrecords : (header count valueSize maskSize ++ records).drop itemsHeaderSize = records :=
    List.drop_left' length_header
  -- the three numbers of the header
  have hcount : ((header count valueSize maskSize ++ records).drop 0).take 4 =
      Bytes.ofNat 4 count.toNat := by
    simp [header]
  have hvalueSize : ((header count valueSize maskSize ++ records).drop 4).take 4 =
      Bytes.ofNat 4 valueSize.toNat := by
    simp [header]
  have hmaskSize : ((header count valueSize maskSize ++ records).drop 8).take 4 =
      Bytes.ofNat 4 maskSize.toNat := by
    simp [header, List.drop_append, List.drop_of_length_le]
  have hbegun : ¬ itemsHeaderSize + records.length < itemsHeaderSize := by omega
  simp only [decodeItems, hlength, hrecords, hcount, hvalueSize, hmaskSize, word_ofNat, hbegun,
    if_false]

/-- A payload is read back as its items, fitted to the widths. -/
theorem decode_encode {items : List (Bytes × Bytes)} (hcount : items.length < UInt32.size)
    (hwidth : valueSize = 0 → items = [])
    (hsize : itemsHeaderSize + items.length * (valueSize.toNat + maskSize.toNat) < UInt64.size) :
    decode (encode valueSize maskSize items) =
      .returned (.ok
        { valueSize, maskSize, items := items.map (fitted valueSize maskSize) }) := by
  have htoNat : (UInt32.ofNat items.length).toNat = items.length :=
    UInt32.toNat_ofNat_of_lt' hcount
  have hexpected := toNat_expectedSize (htoNat.symm ▸ hsize)
  rw [htoNat] at hexpected
  have hsome : ¬ (0 < UInt32.ofNat items.length ∧ valueSize = 0) := by
    rintro ⟨hpositive, hzero⟩
    rw [hwidth hzero] at hpositive
    exact absurd hpositive (by decide)
  rw [decode, encode_eq_header_append hcount, decodeItems_header_append]
  -- the records have exactly the size that the header calls for
  simp only [hsome, length_records, hexpected, htoNat, takeRecords_fitted, Nat.lt_irrefl, if_false]
  rfl

/-! ## Every payload -/

section Payloads

variable {payload : Bytes} {widthOfValue widthOfMask number : Nat}

/-- The number that stands at a place of a header. -/
def headerWord (payload : Bytes) (start : Nat) : UInt32 :=
  UInt32.ofNat (Bytes.toNat ((payload.drop start).take 4))

/-- The size that a header calls for, in arithmetic without bounds. -/
def declaredSize (payload : Bytes) : Nat :=
  itemsHeaderSize +
    (headerWord payload 0).toNat * ((headerWord payload 4).toNat + (headerWord payload 8).toNat)

/-- A number of a header names the four bytes that it stands in. -/
theorem ofNat_headerWord {start : Nat} (hstart : start + 4 ≤ payload.length) :
    Bytes.ofNat 4 (headerWord payload start).toNat = (payload.drop start).take 4 := by
  have hlength : ((payload.drop start).take 4).length = 4 := by
    rw [List.length_take, List.length_drop]
    omega
  have hbound : Bytes.toNat ((payload.drop start).take 4) < UInt32.size := by
    have hlt := Bytes.toNat_lt ((payload.drop start).take 4)
    rwa [hlength] at hlt
  have hbytes := Bytes.ofNat_toNat ((payload.drop start).take 4)
  rwa [hlength, ← UInt32.toNat_ofNat_of_lt' hbound] at hbytes

/-- A payload that is long enough begins with the header of its three numbers. -/
theorem header_append_drop (hbegun : itemsHeaderSize ≤ payload.length) :
    header (headerWord payload 0) (headerWord payload 4) (headerWord payload 8) ++
      payload.drop itemsHeaderSize = payload := by
  rw [itemsHeaderSize] at hbegun ⊢
  have hmask : (payload.drop 8).take 4 ++ payload.drop 12 = payload.drop 8 := by
    simpa [List.drop_drop] using List.take_append_drop 4 (payload.drop 8)
  have hvalue : (payload.drop 4).take 4 ++ payload.drop 8 = payload.drop 4 := by
    simpa [List.drop_drop] using List.take_append_drop 4 (payload.drop 4)
  rw [header, ofNat_headerWord (by omega), ofNat_headerWord (by omega),
    ofNat_headerWord (by omega), List.append_assoc, List.append_assoc, hmask, hvalue,
    List.drop_zero, List.take_append_drop]

/-- Bytes of the right length are cut into records that together are these bytes. -/
theorem takeRecords_of_length {bytes : Bytes}
    (hlength : bytes.length = number * (widthOfValue + widthOfMask)) (taken : List Item) :
    ∃ items,
      takeRecords widthOfValue widthOfMask number taken bytes =
        .returned (taken.reverse ++ items) ∧
      items.length = number ∧ items.flatMap record = bytes ∧
      ∀ item ∈ items, item.value.length = widthOfValue ∧ item.mask.length = widthOfMask := by
  -- on the number of records that are still to be cut off
  induction number generalizing taken bytes with
  | zero =>
    have hnone : bytes = [] := List.eq_nil_of_length_eq_zero (by simpa using hlength)
    exact ⟨[], by simp [takeRecords], rfl, by simp [hnone], by simp⟩
  | succ number ih =>
    rw [Nat.succ_mul] at hlength
    have hvalue : (bytes.take widthOfValue).length = widthOfValue := by
      rw [List.length_take]
      omega
    have hmask : ((bytes.drop widthOfValue).take widthOfMask).length = widthOfMask := by
      rw [List.length_take, List.length_drop]
      omega
    have hrest : ((bytes.drop widthOfValue).drop widthOfMask).length =
        number * (widthOfValue + widthOfMask) := by
      rw [List.length_drop, List.length_drop]
      omega
    obtain ⟨items, htaken, hcount, hbytes, hwidths⟩ := ih hrest
      (⟨bytes.take widthOfValue, (bytes.drop widthOfValue).take widthOfMask⟩ :: taken)
    refine ⟨⟨bytes.take widthOfValue, (bytes.drop widthOfValue).take widthOfMask⟩ :: items,
      ?_, ?_, ?_, ?_⟩
    · simp only [takeRecords, List.splitAt_eq, hvalue, hmask, and_self, if_true]
      rw [htaken, List.reverse_cons, List.append_assoc, List.singleton_append]
    · rw [List.length_cons, hcount]
    · -- value, mask and the other records stand one behind the other
      rw [List.flatMap_cons, hbytes, record, List.append_assoc, List.take_append_drop,
        List.take_append_drop]
    · intro item hmem
      rcases List.mem_cons.mp hmem with rfl | hmem
      · exact ⟨hvalue, hmask⟩
      · exact hwidths item hmem

/-- A field of the right width is neither cut off nor filled up. -/
theorem fitWidth_of_length {width : Nat} {field : Bytes} (h : field.length = width) :
    fitWidth width field = field := by
  rw [fitWidth_of_le (Nat.le_of_eq h), h, Nat.sub_self, List.replicate_zero, List.append_nil]

/-- A payload with a header that has just the size that the header calls for, and records that
have a width if there are any. -/
def WellSized (payload : Bytes) : Prop :=
  itemsHeaderSize ≤ payload.length ∧ (headerWord payload 0 = 0 ∨ 1 ≤ headerWord payload 4) ∧
    payload.length = declaredSize payload

instance (payload : Bytes) : Decidable (WellSized payload) :=
  inferInstanceAs (Decidable (_ ∧ _ ∧ _))

/-- What becomes of a payload with a header, by the size that is worked out from it. -/
theorem decodeItems_of_begun (hbegun : itemsHeaderSize ≤ payload.length) :
    decodeItems payload =
      let expected :=
        expectedSize (headerWord payload 0) (headerWord payload 4) (headerWord payload 8)
      if 0 < headerWord payload 0 ∧ headerWord payload 4 = 0 then
        .returned (.error (.zeroWidth (headerWord payload 0)))
      else if payload.length < expected.toNat then
        .returned (.error (.truncated (headerWord payload 0) expected payload.length))
      else if expected.toNat < payload.length then
        .returned
          (.error (.overrun (payload.length - expected.toNat) (headerWord payload 0)))
      else
        (takeRecords (headerWord payload 4).toNat (headerWord payload 8).toNat
          (headerWord payload 0).toNat [] (payload.drop itemsHeaderSize)).map fun items =>
            .ok { valueSize := headerWord payload 4, maskSize := headerWord payload 8, items } := by
  have hlength : itemsHeaderSize + (payload.drop itemsHeaderSize).length = payload.length := by
    rw [List.length_drop]
    omega
  have hdecode : decodeItems (header (headerWord payload 0) (headerWord payload 4)
      (headerWord payload 8) ++ payload.drop itemsHeaderSize) = _ :=
    decodeItems_header_append (payload.drop itemsHeaderSize)
  rwa [header_append_drop hbegun, hlength] at hdecode

/-- What becomes of a payload with a header whose size can be worked out: the records of one
that is well-sized are cut off, and what is wrong with another one is found before that. -/
theorem decodeItems_of_header (hbegun : itemsHeaderSize ≤ payload.length)
    (hsize : declaredSize payload < UInt64.size) :
    (WellSized payload ∧
        decodeItems payload =
          (takeRecords (headerWord payload 4).toNat (headerWord payload 8).toNat
            (headerWord payload 0).toNat [] (payload.drop itemsHeaderSize)).map fun items =>
              .ok
                { valueSize := headerWord payload 4, maskSize := headerWord payload 8, items }) ∨
      (¬ WellSized payload ∧ ∃ fault, decodeItems payload = .returned (.error fault)) := by
  have hexpected := toNat_expectedSize hsize
  rw [← declaredSize] at hexpected
  have hdecode := decodeItems_of_begun hbegun
  simp only [hexpected] at hdecode
  have hwidth : (0 < headerWord payload 0 ∧ headerWord payload 4 = 0) ↔
      ¬ (headerWord payload 0 = 0 ∨ 1 ≤ headerWord payload 4) := by
    simp only [← UInt32.toNat_inj, UInt32.lt_iff_toNat_lt, UInt32.le_iff_toNat_le,
      UInt32.toNat_zero, UInt32.toNat_one]
    omega
  -- the checks in their order, each of which leaves less that can be wrong
  by_cases hzero : 0 < headerWord payload 0 ∧ headerWord payload 4 = 0
  · rw [if_pos hzero] at hdecode
    exact Or.inr ⟨fun h => hwidth.mp hzero h.2.1, _, hdecode⟩
  rw [if_neg hzero] at hdecode
  by_cases hshort : payload.length < declaredSize payload
  · rw [if_pos hshort] at hdecode
    exact Or.inr ⟨fun h => Nat.ne_of_lt hshort h.2.2, _, hdecode⟩
  rw [if_neg hshort] at hdecode
  by_cases hlong : declaredSize payload < payload.length
  · rw [if_pos hlong] at hdecode
    exact Or.inr ⟨fun h => Nat.ne_of_gt hlong h.2.2, _, hdecode⟩
  rw [if_neg hlong] at hdecode
  have hwide : headerWord payload 0 = 0 ∨ 1 ≤ headerWord payload 4 :=
    Decidable.not_not.mp fun h => hzero (hwidth.mpr h)
  exact Or.inl ⟨⟨hbegun, hwide, by omega⟩, hdecode⟩

/-- The records of a well-sized payload are its items; any other payload is refused. -/
theorem decode_cases
    (hsize : itemsHeaderSize ≤ payload.length → declaredSize payload < UInt64.size) :
    (WellSized payload ∧ ∃ items,
        decode payload = .returned (.ok
          { valueSize := headerWord payload 4, maskSize := headerWord payload 8, items }) ∧
        items.length = (headerWord payload 0).toNat ∧
        items.flatMap record = payload.drop itemsHeaderSize ∧
        ∀ item ∈ items, item.value.length = (headerWord payload 4).toNat ∧
          item.mask.length = (headerWord payload 8).toNat) ∨
      (¬ WellSized payload ∧
        ∃ fault, decode payload = .returned (.error (.protocol (.items fault)))) := by
  by_cases hbegun : itemsHeaderSize ≤ payload.length
  · obtain ⟨hwell, hdecode⟩ | ⟨hwrong, fault, hdecode⟩ :=
      decodeItems_of_header hbegun (hsize hbegun)
    · have hrecords : (payload.drop itemsHeaderSize).length = (headerWord payload 0).toNat *
          ((headerWord payload 4).toNat + (headerWord payload 8).toNat) := by
        rw [List.length_drop, hwell.2.2, declaredSize, Nat.add_sub_cancel_left]
      obtain ⟨items, htaken, hrest⟩ := takeRecords_of_length hrecords []
      refine Or.inl ⟨hwell, items, ?_, hrest⟩
      rw [decode, hdecode, htaken]
      rfl
    · exact Or.inr ⟨hwrong, fault, by rw [decode, hdecode]; rfl⟩
  · have hdecode : decodeItems payload =
        .returned (.error (.headerTruncated payload.length)) := by
      rw [decodeItems, if_pos (Nat.lt_of_not_le hbegun)]
    exact Or.inr ⟨fun h => hbegun h.1, _, by rw [decode, hdecode]; rfl⟩

/-- Items that have the widths of a list are written as they are. -/
theorem encode_of_widths {items : List Item} (hcount : items.length < UInt32.size)
    (hwidths : ∀ item ∈ items,
      item.value.length = valueSize.toNat ∧ item.mask.length = maskSize.toNat) :
    encode valueSize maskSize (items.map fun item => (item.value, item.mask)) =
      header (UInt32.ofNat items.length) valueSize maskSize ++ items.flatMap record := by
  have hfitted : (items.map fun item => (item.value, item.mask)).map
      (fitted valueSize maskSize) = items := by
    rw [List.map_map]
    refine (List.map_congr_left ?_).trans (List.map_id items)
    intro item hmem
    obtain ⟨hvalue, hmask⟩ := hwidths item hmem
    simp [fitted, fitWidth_of_length hvalue, fitWidth_of_length hmask]
  rw [encode_eq_header_append (by rwa [List.length_map]), hfitted, List.length_map]

/-- As long as the size that its header calls for can be worked out, decoding a payload does
not panic, and the payload is read as an item list exactly if it is well-sized; what is wrong
with any other payload is a fault of the protocol.  The items are as many as the header says, in
the widths that it says, and one behind the other they are the payload behind the header; the
payload can be made from them again. -/
theorem decode_exact_and_reproducible (payload : Bytes)
    (hsize : itemsHeaderSize ≤ payload.length → declaredSize payload < UInt64.size) :
    (∃ result, decode payload = .returned result) ∧
    ((∃ list, decode payload = .returned (.ok list)) ↔ WellSized payload) ∧
    (∀ error, decode payload = .returned (.error error) →
      ∃ fault, error = .protocol (.items fault)) ∧
    ∀ list, decode payload = .returned (.ok list) →
      list.valueSize = headerWord payload 4 ∧ list.maskSize = headerWord payload 8 ∧
      list.released = false ∧ list.count = (headerWord payload 0).toNat ∧
      (∀ item ∈ list.items, item.value.length = list.valueSize.toNat ∧
        item.mask.length = list.maskSize.toNat) ∧
      list.items.flatMap record = payload.drop itemsHeaderSize ∧
      encode list.valueSize list.maskSize
        (list.items.map fun item => (item.value, item.mask)) = payload := by
  obtain ⟨hwell, items, hdecode, hcount, hbytes, hwidths⟩ | ⟨hwrong, fault, hdecode⟩ :=
    decode_cases hsize
  · refine ⟨⟨_, hdecode⟩, ⟨fun _ => hwell, fun _ => ⟨_, hdecode⟩⟩, by simp [hdecode], ?_⟩
    intro list hlist
    cases hdecode.symm.trans hlist
    refine ⟨rfl, rfl, rfl, hcount, hwidths, hbytes, ?_⟩
    rw [encode_of_widths (by rw [hcount]; exact UInt32.toNat_lt _) hwidths, hbytes, hcount,
      UInt32.ofNat_toNat]
    exact header_append_drop hwell.1
  · refine ⟨⟨_, hdecode⟩, ⟨?_, fun hwell => absurd hwell hwrong⟩, ?_, by simp [hdecode]⟩
    · rintro ⟨list, hlist⟩
      cases hdecode.symm.trans hlist
    · intro error herror
      cases hdecode.symm.trans herror
      exact ⟨fault, rfl⟩

/-- Two items with values of one byte and no masks are read, and written as they were. -/
theorem decode_exact_two_values :
    let payload : Bytes := [0, 0, 0, 2, 0, 0, 0, 1, 0, 0, 0, 0, 7, 9]
    declaredSize payload < UInt64.size ∧
      decode payload = .returned (.ok ⟨1, 0, [⟨[7], []⟩, ⟨[9], []⟩], false⟩) ∧
      encode 1 0 [([7], []), ([9], [])] = payload := by
  intro payload
  have hsize : declaredSize payload < UInt64.size := by decide +kernel
  have hdecode : decode payload = .returned (.ok ⟨1, 0, [⟨[7], []⟩, ⟨[9], []⟩], false⟩) := rfl
  obtain ⟨-, -, -, hread⟩ := decode_exact_and_reproducible payload fun _ => hsize
  obtain ⟨-, -, -, -, -, -, hencode⟩ := hread _ hdecode
  exact ⟨hsize, hdecode, hencode⟩

end Payloads

end ItemList
end MaskedList
