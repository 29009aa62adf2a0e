import MaskedList.Command.Opcode

/-!
# Commands

A command is an opcode together with a value for each of its fields.  Either view can be
had from the other: `ofFields` makes the command again of what `fields` takes it apart into.
-/

namespace MaskedList

/-- A request to the store. -/
inductive Command where
  /-- Health check. -/
  | ping
  /-- Ask the store to write a dump of its data. -/
  | dump
  /-- Statistics of one key. -/
  | stat (key : String)
  /-- Statistics of the whole store. -/
  | statSys
  /-- List `len` values of `kind` whose masks match, from position `start` on. -/
  | range (key : String) (kind : RangeKind) (mask : String) (start : Int32) (len : UInt32)
  /-- Count the visible and the tagged values whose masks match. -/
  | count (key : String) (mask : String)
  /-- Make a new key for values of at most `valueSize` bytes. -/
  | create (key : String) (valueSize : UInt32) (mask : String) (kind : ListKind)
      (type : ValueType)
  /-- Remove the tagged values of a key. -/
  | clean (key : String)
  /-- Remove a key with all its values. -/
  | rmKey (key : String)
  /-- Remove one value. -/
  | delete (key : String) (value : Bytes)
  /-- Remove every value whose mask matches. -/
  | deleteByMask (key : String) (mask : String)
  /-- Insert a value at a position. -/
  | insert (key : String) (value : Bytes) (mask : String) (pos : Int32)
  /-- Move a value to another position. -/
  | move (key : String) (value : Bytes) (pos : Int32)
  /-- Replace the mask of a value. -/
  | setMask (key : String) (value : Bytes) (mask : String)
  /-- Set the tag of a value. -/
  | setTag (key : String) (value : Bytes) (tag : UInt8)
  /-- Push a value at the head. -/
  | lpush (key : String) (value : Bytes) (mask : String)
  /-- Push a value at the tail. -/
  | rpush (key : String) (value : Bytes) (mask : String)
  /-- Pop values from the head. -/
  | lpop (key : String) (num : UInt32)
  /-- Pop values from the tail. -/
  | rpop (key : String) (num : UInt32)
  deriving DecidableEq, Repr

namespace Command

/-- The command's name on the wire. -/
def opcode : Command → Opcode
  | .ping => .ping
  | .dump => .dump
  | .stat _ => .stat
  | .statSys => .statSys
  | .range .. => .range
  | .count .. => .count
  | .create .. => .create
  | .clean _ => .clean
  | .rmKey _ => .rmKey
  | .delete .. => .delete
  | .deleteByMask .. => .deleteByMask
  | .insert .. => .insert
  | .move .. => .move
  | .setMask .. => .setMask
  | .setTag .. => .setTag
  | .lpush .. => .lpush
  | .rpush .. => .rpush
  | .lpop .. => .lpop
  | .rpop .. => .rpop

/-- The channel the command must travel on. -/
def role (command : Command) : Role :=
  command.opcode.role

/-- The values of the command's fields, in the order of its layout. -/
def fields : (command : Command) → FieldValues command.opcode.layout
  | .ping | .dump | .statSys => ()
  | .stat key | .clean key | .rmKey key => (key, ())
  | .range key kind mask start len => (key, kind, mask, start, len, ())
  | .count key mask | .deleteByMask key mask => (key, mask, ())
  | .create key valueSize mask kind type => (key, valueSize, mask, kind, type, ())
  | .delete key value => (key, value, ())
  | .insert key value mask pos => (key, value, mask, pos, ())
  | .move key value pos => (key, value, pos, ())
  | .setMask key value mask | .lpush key value mask | .rpush key value mask =>
    (key, value, mask, ())
  | .setTag key value tag => (key, value, tag, ())
  | .lpop key num | .rpop key num => (key, num, ())

/-- The command with the given opcode and field values. -/
def ofFields : (opcode : Opcode) → FieldValues opcode.layout → Command
  | .ping, _ => .ping
  | .dump, _ => .dump
  | .statSys, _ => .statSys
  | .stat, (key, _) => .stat key
  | .clean, (key, _) => .clean key
  | .rmKey, (key, _) => .rmKey key
  | .range, (key, kind, mask, start, len, _) => .range key kind mask start len
  | .count, (key, mask, _) => .count key mask
  | .deleteByMask, (key, mask, _) => .deleteByMask key mask
  | .create, (key, valueSize, mask, kind, type, _) => .create key valueSize mask kind type
  | .delete, (key, value, _) => .delete key value
  | .insert, (key, value, mask, pos, _) => .insert key value mask pos
  | .move, (key, value, pos, _) => .move key value pos
  | .setMask, (key, value, mask, _) => .setMask key value mask
  | .lpush, (key, value, mask, _) => .lpush key value mask
  | .rpush, (key, value, mask, _) => .rpush key value mask
  | .setTag, (key, value, tag, _) => .setTag key value tag
  | .lpop, (key, num, _) => .lpop key num
  | .rpop, (key, num, _) => .rpop key num

@[simp]
theorem ofFields_fields (command : Command) :
    ofFields command.opcode command.fields = command := by
  cases command <;> rfl

@[simp]
theorem opcode_ofFields (opcode : Opcode) (values : FieldValues opcode.layout) :
    (ofFields opcode values).opcode = opcode := by
  cases opcode <;> rfl

end Command
end MaskedList
