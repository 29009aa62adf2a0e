import MaskedList.Field

/-!
# Opcodes and what follows them

An opcode names a command.  It decides the channel on which the command
travels and the fields that its payload is made of, in order.
-/

namespace MaskedList

/-- Which of a session's two channels carries a command. -/
inductive Role where
  /-- Queries, which leave the store as it is. -/
  | read
  /-- Commands that may change the store. -/
  | write
  deriving DecidableEq, Repr

namespace Role

def name : Role → String
  | .read => "read"
  | .write => "write"

end Role

/-- The commands a store understands. -/
inductive Opcode where
  | ping
  | dump
  | stat
  | statSys
  | range
  | count
  | create
  | clean
  | rmKey
  | delete
  | deleteByMask
  | insert
  | move
  | setMask
  | setTag
  | lpush
  | rpush
  | lpop
  | rpop
  deriving DecidableEq, Repr

namespace Opcode

/-- Every opcode, in the order of the codes. -/
def all : List Opcode :=
  [.ping, .dump, .stat, .statSys, .range, .count, .create, .clean, .rmKey, .delete,
   .deleteByMask, .insert, .move, .setMask, .setTag, .lpush, .rpush, .lpop, .rpop]

/-- The first byte of the command's frame. -/
def code : Opcode → UInt8
  | .ping => 0x01
  | .dump => 0x02
  | .stat => 0x03
  | .statSys => 0x04
  | .range => 0x05
  | .count => 0x06
  | .create => 0x10
  | .clean => 0x11
  | .rmKey => 0x12
  | .delete => 0x13
  | .deleteByMask => 0x14
  | .insert => 0x15
  | .move => 0x16
  | .setMask => 0x17
  | .setTag => 0x18
  | .lpush => 0x19
  | .rpush => 0x1A
  | .lpop => 0x1B
  | .rpop => 0x1C

/-- The opcode with the given code. -/
def ofCode? (byte : UInt8) : Option Opcode :=
  all.find? fun opcode => opcode.code = byte

/-- The name used in messages and logs. -/
def name : Opcode → String
  | .ping => "Ping"
  | .dump => "Dump"
  | .stat => "Stat"
  | .statSys => "StatSys"
  | .range => "Range"
  | .count => "Count"
  | .create => "Create"
  | .clean => "Clean"
  | .rmKey => "RmKey"
  | .delete => "Delete"
  | .deleteByMask => "DeleteByMask"
  | .insert => "Insert"
  | .move => "Move"
  | .setMask => "Mask"
  | .setTag => "Tag"
  | .lpush => "LPush"
  | .rpush => "RPush"
  | .lpop => "LPop"
  | .rpop => "RPop"

/-- The channel the command must travel on. -/
def role : Opcode → Role
  | .ping | .dump | .stat | .statSys | .range | .count => .read
  | _ => .write

/-- The fields of the command's payload. -/
abbrev layout : Opcode → List FieldType
  | .ping | .dump | .statSys => []
  | .stat | .clean | .rmKey => [.text]
  | .range => [.text, .rangeKind, .text, .offset, .word]
  | .count | .deleteByMask => [.text, .text]
  | .create => [.text, .word, .text, .listKind, .valueType]
  | .delete => [.text, .blob]
  | .insert => [.text, .blob, .text, .offset]
  | .move => [.text, .blob, .offset]
  | .setMask | .lpush | .rpush => [.text, .blob, .text]
  | .setTag => [.text, .blob, .byte]
  | .lpop | .rpop => [.text, .word]

@[simp]
theorem ofCode?_code (opcode : Opcode) : ofCode? opcode.code = some opcode := by
  cases opcode <;> rfl

theorem code_of_ofCode? {byte : UInt8} {opcode : Opcode}
    (h : ofCode? byte = some opcode) : opcode.code = byte := by
  simpa using List.find?_some h

end Opcode
end MaskedList
