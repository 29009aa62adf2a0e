import MaskedList.Text.Lossy

/-!
# Item lists

Ranges and pops are answered with a list of items: values with their masks, all
of one width, padded with zero bytes.  A list can be given back early; its items
are gone then, and giving it back again changes nothing.
-/

namespace MaskedList

/-- The bytes without the zero bytes at their end. -/
def trimPadding (bytes : Bytes) : Bytes :=
  (bytes.reverse.dropWhile (· = 0)).reverse

/-- A stored value and its mask, both with their padding. -/
structure Item where
  value : Bytes
  mask : Bytes
  deriving DecidableEq, Repr

namespace Item

/-- The value without its padding. -/
def valueTrimmed (item : Item) : Bytes :=
  trimPadding item.value

/-- The value without its padding, as text. -/
def valueText (item : Item) : String :=
  Bytes.toTextLossy item.valueTrimmed

/-- The mask without its padding, as text. -/
def maskText (item : Item) : String :=
  Bytes.toTextLossy (trimPadding item.mask)

end Item

/-- Items of one width, in the order in which the store answered. -/
structure ItemList where
  /-- Width of every value in bytes. -/
  valueSize : UInt32
  /-- Width of every mask in bytes. -/
  maskSize : UInt32
  items : List Item
  /-- Whether the items have been given back. -/
  released : Bool := false
  deriving DecidableEq, Repr

namespace ItemList

/-- The number of items, zero once they are given back. -/
def count (list : ItemList) : Nat :=
  list.items.length

def isEmpty (list : ItemList) : Bool :=
  list.items.isEmpty

def get? (list : ItemList) (index : Nat) : Option Item :=
  list.items[index]?

/-- The values without their padding. -/
def values (list : ItemList) : List Bytes :=
  list.items.map Item.valueTrimmed

/-- Gives the items back; the widths stay known. -/
def release (list : ItemList) : ItemList :=
  if list.released then list else { list with items := [], released := true }

/-- A line with the sizes, then one for each item. -/
def render (list : ItemList) : String :=
  let header :=
    s!"count:{list.count} valuesize:{list.valueSize} masksize:{list.maskSize}\n"
  let line (item : Item) : String :=
    "value:" ++ item.valueText ++ " mask:" ++ item.maskText ++ "\n"
  header ++ String.join (list.items.map line)

/-- Giving back twice is giving back once. -/
theorem release_release (list : ItemList) : list.release.release = list.release := by
  unfold release
  split <;> simp_all

end ItemList
end MaskedList
