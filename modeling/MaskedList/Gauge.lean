import MaskedList.Error

/-!
# Records of numbers

Three queries are answered with plain numbers: the statistics of a key, the
statistics of the whole store, and a count.  Each record is a fixed sequence of
numeric fields, so only payloads of one length are read.
-/

namespace MaskedList

/-- Statistics of one key. -/
structure KeyStats where
  /-- Width of every value in bytes. -/
  valueSize : UInt32 := 0
  /-- Width of every mask in bytes. -/
  maskSize : UInt32 := 0
  /-- Allocated blocks. -/
  blocks : UInt32 := 0
  /-- Value slots in all blocks. -/
  slots : UInt32 := 0
  /-- Slots that hold a value. -/
  slotsUsed : UInt32 := 0
  /-- Memory held by the key, in bytes. -/
  memory : UInt64 := 0
  deriving DecidableEq, Repr

/-- Statistics of the whole store. -/
structure StoreStats where
  keys : UInt32 := 0
  values : UInt32 := 0
  /-- Allocated blocks. -/
  blocks : UInt32 := 0
  /-- Value slots in all blocks. -/
  slots : UInt32 := 0
  /-- Slots that hold a value. -/
  slotsUsed : UInt32 := 0
  /-- Value slots in one block. -/
  blockSlots : UInt32 := 0
  /-- Memory held by the table of keys, in bytes. -/
  tableMemory : UInt64 := 0
  /-- Free blocks kept for later use. -/
  spareBlocks : UInt32 := 0
  deriving DecidableEq, Repr

/-- How many values of a key match a mask. -/
structure MatchCount where
  /-- Matching values not tagged as deleted. -/
  visible : UInt32 := 0
  /-- Matching values tagged as deleted. -/
  tagged : UInt32 := 0
  deriving DecidableEq, Repr

namespace Gauge

/-- The fields of the record, in order. -/
abbrev layout : Gauge → List FieldType
  | .stat => [.word, .word, .word, .word, .word, .long]
  | .statSys => [.word, .word, .word, .word, .word, .word, .long, .word]
  | .count => [.word, .word]

/-- The values of a record that fills the payload exactly. -/
def decode (gauge : Gauge) (payload : Bytes) : Except Error (FieldValues gauge.layout) :=
  match decodeAllFields gauge.layout payload with
  | .ok values => .ok values
  | .error (.trailing _) => .error (.protocol (.gauge gauge .tooLong))
  | .error _ => .error (.protocol (.gauge gauge .tooShort))

/-- One line for each name, with the number it stands for. -/
def renderLines (lines : List (String × Nat)) : String :=
  String.join (lines.map fun (name, value) => s!"{name}:{value}\n")

end Gauge

namespace KeyStats

def fields (stats : KeyStats) : FieldValues Gauge.stat.layout :=
  (stats.valueSize, stats.maskSize, stats.blocks, stats.slots, stats.slotsUsed,
    stats.memory, ())

def ofFields : FieldValues Gauge.stat.layout → KeyStats
  | (valueSize, maskSize, blocks, slots, slotsUsed, memory, _) =>
    { valueSize, maskSize, blocks, slots, slotsUsed, memory }

def encode (stats : KeyStats) : Bytes :=
  encodeFields Gauge.stat.layout stats.fields

def decode (payload : Bytes) : Except Error KeyStats :=
  (Gauge.stat.decode payload).map ofFields

/-- The numbers line by line. -/
def render (stats : KeyStats) : String :=
  Gauge.renderLines
    [("valuesize", stats.valueSize.toNat), ("masksize", stats.maskSize.toNat),
     ("blocks", stats.blocks.toNat), ("data", stats.slots.toNat),
     ("data_used", stats.slotsUsed.toNat), ("mem", stats.memory.toNat)]

end KeyStats

namespace StoreStats

def fields (stats : StoreStats) : FieldValues Gauge.statSys.layout :=
  (stats.keys, stats.values, stats.blocks, stats.slots, stats.slotsUsed,
    stats.blockSlots, stats.tableMemory, stats.spareBlocks, ())

def ofFields : FieldValues Gauge.statSys.layout → StoreStats
  | (keys, values, blocks, slots, slotsUsed, blockSlots, tableMemory, spareBlocks, _) =>
    { keys, values, blocks, slots, slotsUsed, blockSlots, tableMemory, spareBlocks }

def encode (stats : StoreStats) : Bytes :=
  encodeFields Gauge.statSys.layout stats.fields

def decode (payload : Bytes) : Except Error StoreStats :=
  (Gauge.statSys.decode payload).map ofFields

/-- The numbers line by line. -/
def render (stats : StoreStats) : String :=
  Gauge.renderLines
    [("keys", stats.keys.toNat), ("values", stats.values.toNat),
     ("blocks", stats.blocks.toNat), ("data", stats.slots.toNat),
     ("data_used", stats.slotsUsed.toNat), ("block_values", stats.blockSlots.toNat),
     ("ht_mem", stats.tableMemory.toNat), ("pool_blocks", stats.spareBlocks.toNat)]

end StoreStats

namespace MatchCount

def fields (count : MatchCount) : FieldValues Gauge.count.layout :=
  (count.visible, count.tagged, ())

def ofFields : FieldValues Gauge.count.layout → MatchCount
  | (visible, tagged, _) => { visible, tagged }

def encode (count : MatchCount) : Bytes :=
  encodeFields Gauge.count.layout count.fields

def decode (payload : Bytes) : Except Error MatchCount :=
  (Gauge.count.decode payload).map ofFields

/-- The numbers line by line. -/
def render (count : MatchCount) : String :=
  Gauge.renderLines
    [("visible", count.visible.toNat), ("tagged", count.tagged.toNat)]

end MatchCount
end MaskedList
