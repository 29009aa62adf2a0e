/-!
# Command arguments with a fixed set of values

Each of these kinds travels as one byte; the byte of a value is read back as
that value, and no byte stands for two.
-/

namespace MaskedList

/-- Tag that marks a value as deleted: kept, but hidden from visible ranges. -/
def tagDeleted : UInt8 := 1

/-- Tag that makes a deleted value visible again. -/
def tagRestored : UInt8 := 0

/-- Position by which a caller leaves the place of a value to the store. -/
def automaticPosition : Int32 := -1

/-- How the values under a key are arranged. -/
inductive ListKind where
  /-- Values stay where they are inserted. -/
  | list
  /-- Values enter and leave at the ends. -/
  | queue
  /-- Values are kept in the order of their type. -/
  | sortList
  deriving DecidableEq, Repr

namespace ListKind

def all : List ListKind := [.list, .queue, .sortList]

def code : ListKind → UInt8
  | .list => 0x01
  | .queue => 0x02
  | .sortList => 0x03

def ofCode? (byte : UInt8) : Option ListKind :=
  all.find? fun kind => kind.code = byte

/-- The name in data files. -/
def name : ListKind → String
  | .list => "List"
  | .queue => "Queue"
  | .sortList => "SortList"

/-- The word a kind is shown by. -/
def word : ListKind → String
  | .list => "list"
  | .queue => "queue"
  | .sortList => "sortlist"

@[simp]
theorem ofCode?_code (kind : ListKind) : ofCode? kind.code = some kind := by
  cases kind <;> rfl

theorem code_of_ofCode? {byte : UInt8} {kind : ListKind}
    (h : ofCode? byte = some kind) : kind.code = byte := by
  simpa using List.find?_some h

end ListKind

/-- How a sorted list compares its values. -/
inductive ValueType where
  | int
  | uint
  | long
  | ulong
  | float
  | double
  | string
  | binary
  deriving DecidableEq, Repr

namespace ValueType

def all : List ValueType :=
  [.int, .uint, .long, .ulong, .float, .double, .string, .binary]

def code : ValueType → UInt8
  | .int => 0x01
  | .uint => 0x02
  | .long => 0x03
  | .ulong => 0x04
  | .float => 0x05
  | .double => 0x06
  | .string => 0x07
  | .binary => 0x08

def ofCode? (byte : UInt8) : Option ValueType :=
  all.find? fun type => type.code = byte

/-- The name in data files. -/
def name : ValueType → String
  | .int => "Int"
  | .uint => "UInt"
  | .long => "Long"
  | .ulong => "ULong"
  | .float => "Float"
  | .double => "Double"
  | .string => "String"
  | .binary => "Binary"

@[simp]
theorem ofCode?_code (type : ValueType) : ofCode? type.code = some type := by
  cases type <;> rfl

theorem code_of_ofCode? {byte : UInt8} {type : ValueType}
    (h : ofCode? byte = some type) : type.code = byte := by
  simpa using List.find?_some h

end ValueType

/-- Which values a range query answers with. -/
inductive RangeKind where
  /-- Values not tagged as deleted. -/
  | visible
  /-- Only values tagged as deleted. -/
  | tagDeleted
  /-- Every value. -/
  | all
  deriving DecidableEq, Repr

namespace RangeKind

def kinds : List RangeKind := [.visible, .tagDeleted, .all]

def code : RangeKind → UInt8
  | .visible => 0x01
  | .tagDeleted => 0x02
  | .all => 0x03

def ofCode? (byte : UInt8) : Option RangeKind :=
  kinds.find? fun kind => kind.code = byte

/-- The name in data files. -/
def name : RangeKind → String
  | .visible => "Visible"
  | .tagDeleted => "TagDeleted"
  | .all => "All"

@[simp]
theorem ofCode?_code (kind : RangeKind) : ofCode? kind.code = some kind := by
  cases kind <;> rfl

theorem code_of_ofCode? {byte : UInt8} {kind : RangeKind}
    (h : ofCode? byte = some kind) : kind.code = byte := by
  simpa using List.find?_some h

end RangeKind
end MaskedList
