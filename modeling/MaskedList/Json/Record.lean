import MaskedList.Config
import MaskedList.Gauge
import MaskedList.Json.Value

/-!
# Records in JSON

Settings, the records of numbers and the kinds of arguments are read from JSON
and written as JSON without blanks.  A record is an object with its fields by
name, or an array with its fields in order.  Settings may leave fields to their
defaults; the other records name every field.
-/

namespace MaskedList
namespace Json

/-! ## Reading -/

/-- The value of each named field, where it is given.  A field may be given
once; other names are passed over.  An array gives fields from the first on. -/
def Value.slots (names : List String) : Value → Option (List (Option Value))
  | .object members =>
    if members.all fun (name, _) => name.isSome then
      names.mapM fun name =>
        match members.filter fun member => member.1 = some name with
        | [] => some none
        | [(_, value)] => some (some value)
        | _ => none
    else none
  | .array items =>
    if items.length ≤ names.length then
      some (items.map some ++ List.replicate (names.length - items.length) none)
    else none
  | _ => none

def Value.text? : Value → Option String
  | .string text => text
  | _ => none

def Value.bool? : Value → Option Bool
  | .bool value => some value
  | _ => none

/-- A number below a bound. -/
def Value.natBelow? (bound : Nat) : Value → Option Nat
  | .natural n => if n < bound then some n else none
  | _ => none

def Value.short? (value : Value) : Option UInt16 :=
  (value.natBelow? UInt16.size).map UInt16.ofNat

def Value.word? (value : Value) : Option UInt32 :=
  (value.natBelow? UInt32.size).map UInt32.ofNat

def Value.long? (value : Value) : Option UInt64 :=
  (value.natBelow? UInt64.size).map UInt64.ofNat

/-- A field that may be left out. -/
def orDefault {α : Type} (default : α) (read : Value → Option α) :
    Option Value → Option α
  | none => some default
  | some value => read value

/-- One of several named values: its name, or an object with that name alone
and nothing under it. -/
def readName {α : Type} (all : List α) (name : α → String) : Value → Option α
  | .string (some text) => all.find? fun value => name value = text
  | .object [(some text, .null)] => all.find? fun value => name value = text
  | _ => none

/-! ## Writing -/

def hexDigit (n : Nat) : Char :=
  if n < 10 then Char.ofNat ('0'.toNat + n) else Char.ofNat ('a'.toNat + (n - 10))

/-- The form of a character inside a string. -/
def escape (c : Char) : List Char :=
  match c with
  | '"' => ['\\', '"']
  | '\\' => ['\\', '\\']
  | '\x08' => ['\\', 'b']
  | '\x0c' => ['\\', 'f']
  | '\n' => ['\\', 'n']
  | '\r' => ['\\', 'r']
  | '\t' => ['\\', 't']
  | c =>
    if c.toNat < 0x20 then
      ['\\', 'u', '0', '0', hexDigit (c.toNat / 16), hexDigit (c.toNat % 16)]
    else [c]

/-- A string in quotes. -/
def quote (text : String) : String :=
  String.ofList ('"' :: (text.toList.flatMap escape ++ ['"']))

/-- An object from names and written values. -/
def writeObject (members : List (String × String)) : String :=
  "\x7b" ++ ",".intercalate (members.map fun (name, value) => quote name ++ ":" ++ value)
    ++ "\x7d"

def writeNumbers (members : List (String × Nat)) : String :=
  writeObject (members.map fun (name, n) => (name, toString n))

end Json

/-! ## Each record -/

open Json

namespace Config

def fieldNames : List String :=
  ["host", "read_port", "write_port", "timeout_ms", "nodelay"]

/-- Settings in JSON, any of them left out. -/
def ofJson (value : Value) : Option Config := do
  let [host, readPort, writePort, timeoutMs, nodelay] ← value.slots fieldNames | none
  let default : Config := {}
  return {
    host := ← orDefault default.host Value.text? host
    readPort := ← orDefault default.readPort Value.short? readPort
    writePort := ← orDefault default.writePort Value.short? writePort
    timeoutMs := ← orDefault default.timeoutMs Value.long? timeoutMs
    nodelay := ← orDefault default.nodelay Value.bool? nodelay }

def toJson (config : Config) : String :=
  writeObject
    [("host", quote config.host),
     ("read_port", toString config.readPort.toNat),
     ("write_port", toString config.writePort.toNat),
     ("timeout_ms", toString config.timeoutMs.toNat),
     ("nodelay", if config.nodelay then "true" else "false")]

end Config

namespace KeyStats

def fieldNames : List String :=
  ["value_size", "mask_size", "blocks", "data", "data_used", "mem"]

def ofJson (value : Value) : Option KeyStats := do
  let [valueSize, maskSize, blocks, slots, slotsUsed, memory] ←
    value.slots fieldNames | none
  return {
    valueSize := ← valueSize.bind Value.word?
    maskSize := ← maskSize.bind Value.word?
    blocks := ← blocks.bind Value.word?
    slots := ← slots.bind Value.word?
    slotsUsed := ← slotsUsed.bind Value.word?
    memory := ← memory.bind Value.long? }

def toJson (stats : KeyStats) : String :=
  writeNumbers (fieldNames.zip
    [stats.valueSize.toNat, stats.maskSize.toNat, stats.blocks.toNat, stats.slots.toNat,
     stats.slotsUsed.toNat, stats.memory.toNat])

end KeyStats

namespace StoreStats

def fieldNames : List String :=
  ["keys", "values", "blocks", "data", "data_used", "block_values", "ht_mem", "pool_blocks"]

def ofJson (value : Value) : Option StoreStats := do
  let [keys, values, blocks, slots, slotsUsed, blockSlots, tableMemory, spareBlocks] ←
    value.slots fieldNames | none
  return {
    keys := ← keys.bind Value.word?
    values := ← values.bind Value.word?
    blocks := ← blocks.bind Value.word?
    slots := ← slots.bind Value.word?
    slotsUsed := ← slotsUsed.bind Value.word?
    blockSlots := ← blockSlots.bind Value.word?
    tableMemory := ← tableMemory.bind Value.long?
    spareBlocks := ← spareBlocks.bind Value.word? }

def toJson (stats : StoreStats) : String :=
  writeNumbers (fieldNames.zip
    [stats.keys.toNat, stats.values.toNat, stats.blocks.toNat, stats.slots.toNat,
     stats.slotsUsed.toNat, stats.blockSlots.toNat, stats.tableMemory.toNat,
     stats.spareBlocks.toNat])

end StoreStats

namespace MatchCount

def fieldNames : List String :=
  ["visible", "tagged"]

def ofJson (value : Value) : Option MatchCount := do
  let [visible, tagged] ← value.slots fieldNames | none
  return { visible := ← visible.bind Value.word?, tagged := ← tagged.bind Value.word? }

def toJson (count : MatchCount) : String :=
  writeNumbers (fieldNames.zip [count.visible.toNat, count.tagged.toNat])

end MatchCount

def Status.ofJson : Value → Option Status :=
  readName Status.all Status.name

def Status.toJson (status : Status) : String :=
  quote status.name

def ListKind.ofJson : Value → Option ListKind :=
  readName ListKind.all ListKind.name

def ListKind.toJson (kind : ListKind) : String :=
  quote kind.name

def ValueType.ofJson : Value → Option ValueType :=
  readName ValueType.all ValueType.name

def ValueType.toJson (type : ValueType) : String :=
  quote type.name

def RangeKind.ofJson : Value → Option RangeKind :=
  readName RangeKind.kinds RangeKind.name

def RangeKind.toJson (kind : RangeKind) : String :=
  quote kind.name

end MaskedList
