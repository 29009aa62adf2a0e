import MaskedList.Store.Mask
import MaskedList.Store.Order

/-!
# What is stored under a key

A collection is a list of entries, each a value with its mask and perhaps a
tag that marks it as deleted.  Sorted lists keep their values in the order of
their type; a new value goes after those that compare as equal to it.
-/

namespace MaskedList

/-- A stored value. -/
structure Entry where
  value : Bytes
  mask : String
  /-- Whether the value is marked as deleted. -/
  tagged : Bool := false
  deriving DecidableEq, Repr

/-- The values under one key. -/
structure Collection where
  kind : ListKind
  /-- The most bytes that a value may have. -/
  valueSize : UInt32
  type : ValueType
  entries : List Entry := []
  deriving DecidableEq, Repr

namespace RangeKind

/-- Whether a range of this kind shows the entry. -/
def shows : RangeKind → Entry → Bool
  | .visible, entry => !entry.tagged
  | .tagDeleted, entry => entry.tagged
  | .all, _ => true

end RangeKind

namespace Collection

/-- The entries of a kind whose masks pass a filter, in order. -/
def select (collection : Collection) (kind : RangeKind) (filter : String) : List Entry :=
  collection.entries.filter fun entry => kind.shows entry && Mask.passes filter entry.mask

/-- The place of the first entry with a value. -/
def find? (collection : Collection) (value : Bytes) : Option Nat :=
  collection.entries.findIdx? fun entry => entry.value = value

/-- Whether a value is small enough to be stored. -/
def fits (collection : Collection) (value : Bytes) : Bool :=
  value.length ≤ collection.valueSize.toNat

/-- Whether an entry has to stand behind a new value of a sorted list. -/
def isAfter (collection : Collection) (value : Bytes) (entry : Entry) : Bool :=
  collection.type.compareValues entry.value value = .gt

/-- Puts an entry in.  A sorted list puts it before the first greater value;
elsewhere it goes to the position, or to the end for one that is negative or
too large. -/
def place (collection : Collection) (entry : Entry) (pos : Int32) : Collection :=
  let entries := collection.entries
  let index :=
    if collection.kind = .sortList then
      (entries.findIdx? (collection.isAfter entry.value)).getD entries.length
    else if pos.toInt < 0 then entries.length
    else min pos.toInt.toNat entries.length
  { collection with entries := entries.insertIdx index entry }

/-- Takes the first `num` untagged entries out; the others keep their order. -/
def takeVisible : (num : Nat) → List Entry → List Entry × List Entry
  | 0, entries => ([], entries)
  | _ + 1, [] => ([], [])
  | num + 1, entry :: entries =>
    if entry.tagged then
      let (taken, left) := takeVisible (num + 1) entries
      (taken, entry :: left)
    else
      let (taken, left) := takeVisible num entries
      (entry :: taken, left)

/-- Takes up to `num` untagged entries out from the head. -/
def popHead (collection : Collection) (num : Nat) : List Entry × Collection :=
  let (taken, left) := takeVisible num collection.entries
  (taken, { collection with entries := left })

/-- Takes up to `num` untagged entries out from the tail, last one first. -/
def popTail (collection : Collection) (num : Nat) : List Entry × Collection :=
  let (taken, left) := takeVisible num collection.entries.reverse
  (taken, { collection with entries := left.reverse })

end Collection
end MaskedList
