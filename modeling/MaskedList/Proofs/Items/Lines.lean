import MaskedList.Proofs.Items
import MaskedList.Proofs.Text.Lossy

/-!
# The lines of a list

A list is shown as a line with its sizes and a line for each item.  The values and masks in
these lines are whatever bytes the store keeps, read as text, and a newline among them is shown
as one.  So the text has as many newlines as it should have lines and the bytes have newlines,
and it falls into these lines just when the bytes have none: `InLines`.
-/

namespace MaskedList

/-! ## Texts made of lines -/

section Lines

/-- The lines, with a newline behind each. -/
def joinLines (lines : List (List Char)) : List Char :=
  lines.flatMap (· ++ ['\n'])

theorem joinLines_cons (line : List Char) (lines : List (List Char)) :
    joinLines (line :: lines) = line ++ '\n' :: joinLines lines := by
  rw [joinLines, List.flatMap_cons, List.append_assoc]
  rfl

theorem count_joinLines (lines : List (List Char)) :
    (joinLines lines).count '\n' = lines.length + lines.flatten.count '\n' := by
  induction lines with
  | nil => rfl
  | cons line lines ih =>
    rw [joinLines_cons, List.count_append, List.count_cons_self, ih, List.length_cons,
      List.flatten_cons, List.count_append]
    omega

theorem getLast?_joinLines (line : List Char) (lines : List (List Char)) :
    (joinLines (line :: lines)).getLast? = some '\n' := by
  induction lines generalizing line with
  | nil => simp [joinLines]
  | cons next lines ih =>
    rw [joinLines_cons, List.getLast?_append, List.getLast?_cons, ih]
    rfl

/-- Lines without newlines are what the text falls into, with nothing behind the last one. -/
theorem splitOn_joinLines {lines : List (List Char)} (h : ∀ line ∈ lines, '\n' ∉ line) :
    (joinLines lines).splitOn '\n' = lines ++ [[]] := by
  induction lines with
  | nil => exact List.splitOn_nil '\n'
  | cons line lines ih =>
    obtain ⟨hline, hlines⟩ := List.forall_mem_cons.mp h
    rw [joinLines_cons, List.splitOn_append_cons_self_of_not_mem hline, ih hlines,
      List.cons_append]

/-- A text falls into one piece more than it has newlines. -/
theorem length_splitOn_newline (text : List Char) :
    (text.splitOn '\n').length = text.count '\n' + 1 := by
  induction text with
  | nil => rfl
  | cons c text ih =>
    rw [List.splitOn_cons_eq_if_modifyHead, List.count_cons]
    split
    · rw [List.length_cons, ih]
    · rw [List.length_modifyHead, ih, Nat.add_zero]

end Lines

/-! ## Items -/

theorem newline_notMem_toDigits (n : Nat) : '\n' ∉ Nat.toDigits 10 n := by
  intro hmem
  exact absurd (Nat.isDigit_of_mem_toDigits (by decide) (by decide) hmem) (by decide)

namespace Item

/-- The line that an item is shown as. -/
def line (item : Item) : List Char :=
  ("value:" ++ item.valueText ++ " mask:" ++ item.maskText).toList

/-- The bytes of an item that are shown. -/
def shownBytes (item : Item) : Bytes :=
  item.valueTrimmed ++ trimPadding item.mask

theorem count_line (item : Item) : item.line.count '\n' = item.shownBytes.count 0x0A := by
  have hshown (bytes : Bytes) : (Bytes.toTextLossy bytes).toList.count '\n' = bytes.count 0x0A :=
    Bytes.count_toTextLossy (by decide) bytes
  have hvalue : "value:".toList.count '\n' = 0 := by decide
  have hmask : " mask:".toList.count '\n' = 0 := by decide
  simp only [line, String.toList_append, List.count_append, valueText, maskText, hshown, hvalue,
    hmask, shownBytes]
  omega

end Item

namespace ItemList

/-- The line that says how many items there are and how wide they are. -/
def headerLine (list : ItemList) : List Char :=
  s!"count:{list.count} valuesize:{list.valueSize} masksize:{list.maskSize}".toList

/-- The lines that a list is to be shown as. -/
def lines (list : ItemList) : List (List Char) :=
  list.headerLine :: list.items.map Item.line

/-- The bytes of all items that are shown. -/
def shownBytes (list : ItemList) : Bytes :=
  list.items.flatMap Item.shownBytes

variable {list : ItemList}

theorem toList_render (list : ItemList) : list.render.toList = joinLines list.lines := by
  have htext (text : String) : toString text = text := rfl
  rw [lines, joinLines_cons]
  simp [render, headerLine, joinLines, String.toList_join, List.flatMap_map, Item.line, htext]

theorem newline_notMem_headerLine (list : ItemList) : '\n' ∉ list.headerLine := by
  have htext (text : String) : toString text = text := rfl
  have hwidth (n : UInt32) : '\n' ∉ (toString n).toList := by
    change '\n' ∉ n.toNat.repr.toList
    rw [Nat.toList_repr]
    exact newline_notMem_toDigits n.toNat
  simp [headerLine, htext, hwidth, newline_notMem_toDigits]

theorem count_flatten_lines (list : ItemList) :
    list.lines.flatten.count '\n' = list.shownBytes.count 0x0A := by
  rw [lines, List.flatten_cons, List.count_append,
    List.count_eq_zero.mpr list.newline_notMem_headerLine, Nat.zero_add, shownBytes]
  induction list.items with
  | nil => rfl
  | cons item items ih =>
    rw [List.map_cons, List.flatten_cons, List.count_append, ih, Item.count_line,
      List.flatMap_cons, List.count_append]

theorem count_shownBytes_eq_zero :
    list.shownBytes.count 0x0A = 0 ↔
      ∀ item ∈ list.items, 0x0A ∉ item.valueTrimmed ∧ 0x0A ∉ trimPadding item.mask := by
  simp [List.count_eq_zero, shownBytes, Item.shownBytes, not_or]

/-- How the text of a list falls into lines. -/
structure InLines (list : ItemList) : Prop where
  count_newline : list.render.toList.count '\n' =
    1 + list.count + list.shownBytes.count 0x0A
  ended : list.render.toList.getLast? = some '\n'
  count_iff : list.render.toList.count '\n' = 1 + list.count ↔
    ∀ item ∈ list.items, 0x0A ∉ item.valueTrimmed ∧ 0x0A ∉ trimPadding item.mask
  lines_iff : list.render.toList.splitOn '\n' = list.lines ++ [[]] ↔
    ∀ item ∈ list.items, 0x0A ∉ item.valueTrimmed ∧ 0x0A ∉ trimPadding item.mask

theorem inLines (list : ItemList) : list.InLines := by
  have hcount : list.render.toList.count '\n' = 1 + list.count + list.shownBytes.count 0x0A := by
    rw [toList_render, count_joinLines, count_flatten_lines, lines, List.length_cons,
      List.length_map, count]
    omega
  have hiff : list.render.toList.count '\n' = 1 + list.count ↔
      ∀ item ∈ list.items, 0x0A ∉ item.valueTrimmed ∧ 0x0A ∉ trimPadding item.mask := by
    rw [← count_shownBytes_eq_zero, hcount]
    omega
  refine ⟨hcount, ?_, hiff, fun hlines => hiff.mp ?_, fun hnone => ?_⟩
  · rw [toList_render, lines]
    exact getLast?_joinLines _ _
  · -- as many pieces as lines, and one behind the last newline
    have hpieces := length_splitOn_newline list.render.toList
    rw [hlines, List.length_append, lines, List.length_cons, List.length_map,
      List.length_singleton] at hpieces
    rw [count]
    omega
  · rw [toList_render]
    have hzero : list.lines.flatten.count '\n' = 0 := by
      rw [count_flatten_lines]
      exact count_shownBytes_eq_zero.mpr hnone
    refine splitOn_joinLines fun line hline hmem => ?_
    exact List.count_eq_zero.mp hzero (List.mem_flatten_of_mem hline hmem)

/-! ## Lists that were read from a payload -/

theorem length_of_takeRecords {valueSize maskSize number : Nat} {taken items : List Item}
    {bytes : Bytes} (h : takeRecords valueSize maskSize number taken bytes = .returned items) :
    items.length = taken.length + number := by
  induction number generalizing taken bytes with
  | zero =>
    cases h
    rw [List.length_reverse, Nat.add_zero]
  | succ number ih =>
    simp only [takeRecords, List.splitAt_eq] at h
    split at h
    · rw [ih h, List.length_cons]
      omega
    · cases h

/-- A list has as many items as the header says, and they have not been given back. -/
theorem count_of_decode {payload : Bytes} (h : decode payload = .returned (.ok list)) :
    list.count = (headerWord payload 0).toNat ∧ list.released = false := by
  have hitems : decodeItems payload = .returned (.ok list) := by
    obtain ⟨_ | read, hdecode, hread⟩ := Ending.map_eq_returned_iff.mp h
    · cases hread
    · cases hread
      exact hdecode
  by_cases hbegun : itemsHeaderSize ≤ payload.length
  · rw [decodeItems_of_begun hbegun] at hitems
    simp only at hitems
    split at hitems
    · cases hitems
    split at hitems
    · cases hitems
    split at hitems
    · cases hitems
    · obtain ⟨items, htaken, hlist⟩ := Ending.map_eq_returned_iff.mp hitems
      cases hlist
      have hlength := length_of_takeRecords htaken
      rw [List.length_nil, Nat.zero_add] at hlength
      exact ⟨hlength, rfl⟩
  · rw [decodeItems, if_pos (Nat.lt_of_not_le hbegun)] at hitems
    cases hitems

/-- A list that was read from a payload is shown line by line, before it is given back and
after: there is a newline behind the line with its sizes, one behind each item and one for each
newline among the bytes of its items, and the text ends with a newline. So it falls into the
line with the sizes and one line for each of the items that the header counts just when none of
these bytes is a newline, whatever they are as text. -/
theorem decoded_list_falls_into_lines {payload : Bytes}
    (h : decode payload = .returned (.ok list)) :
    list.count = (headerWord payload 0).toNat ∧ list.release.count = 0 ∧
      ∀ shown, shown = list ∨ shown = list.release → InLines shown := by
  obtain ⟨hcount, hreleased⟩ := count_of_decode h
  refine ⟨hcount, ?_, fun shown _ => shown.inLines⟩
  simp [release, hreleased, count]

/-- A value with two newlines of which one follows the beginning of a longer character. -/
theorem decoded_list_falls_apart :
    let payload : Bytes :=
      [0, 0, 0, 1, 0, 0, 0, 4, 0, 0, 0, 2, 0x0A, 0xE2, 0x0A, 0, 0xFF, 0]
    let list : ItemList := ⟨4, 2, [⟨[0x0A, 0xE2, 0x0A, 0], [0xFF, 0]⟩], false⟩
    decode payload = .returned (.ok list) ∧ list.render.toList.count '\n' = 4 ∧
      list.render.toList.splitOn '\n' ≠ list.lines ++ [[]] ∧
      list.release.render.toList.count '\n' = 1 := by
  intro payload list
  have hdecode : decode payload = .returned (.ok list) := rfl
  obtain ⟨-, -, hlines⟩ := decoded_list_falls_into_lines hdecode
  have hwhole := hlines list (.inl rfl)
  have hreleased := hlines list.release (.inr rfl)
  have hnewline : ¬ ∀ item ∈ list.items,
      0x0A ∉ item.valueTrimmed ∧ 0x0A ∉ trimPadding item.mask := by decide
  exact ⟨hdecode, hwhole.count_newline.trans (by decide), fun heq =>
    hnewline (hwhole.lines_iff.mp heq), hreleased.count_newline.trans (by decide)⟩

end ItemList
end MaskedList
