import MaskedList.Session.Requests

/-!
# The functions of a session

A caller runs a command by calling the function for it, and some functions leave out
arguments that others ask for: what is made as a queue is made by the `create` command, and
what is inserted in its order by the `insert` command.  Whatever function is called, what
comes of it is what comes of sending its command: `Session.invoke_eq_issue`.
-/

namespace MaskedList

/-- A function of a session that runs a command, with what it is called on. -/
inductive Call where
  | ping
  | dump
  | stat (key : String)
  | statSys
  | range (key : String) (kind : RangeKind) (mask : String) (start : Int32) (len : UInt32)
  | rangeVisible (key mask : String) (start : Int32) (len : UInt32)
  | rangeTagDeleted (key mask : String) (start : Int32) (len : UInt32)
  | rangeAll (key mask : String) (start : Int32) (len : UInt32)
  | count (key mask : String)
  | create (key : String) (valueSize : UInt32) (mask : String) (kind : ListKind)
      (type : ValueType)
  | createList (key : String) (valueSize : UInt32) (mask : String)
  | createQueue (key : String) (valueSize : UInt32) (mask : String)
  | createSortList (key : String) (valueSize : UInt32) (mask : String) (type : ValueType)
  | clean (key : String)
  | rmKey (key : String)
  | delete (key : String) (value : Bytes)
  | deleteByMask (key mask : String)
  | insert (key : String) (value : Bytes) (mask : String) (pos : Int32)
  | insertSorted (key : String) (value : Bytes) (mask : String)
  | move (key : String) (value : Bytes) (pos : Int32)
  | setMask (key : String) (value : Bytes) (mask : String)
  | setTag (key : String) (value : Bytes) (tag : UInt8)
  | lpush (key : String) (value : Bytes) (mask : String)
  | rpush (key : String) (value : Bytes) (mask : String)
  | lpop (key : String) (num : UInt32)
  | rpop (key : String) (num : UInt32)
  | lpopOne (key : String)
  | rpopOne (key : String)
  deriving DecidableEq, Repr

/-- The command that is sent for a call. -/
def Call.command : Call → Command
  | .ping => .ping
  | .dump => .dump
  | .stat key => .stat key
  | .statSys => .statSys
  | .range key kind mask start len => .range key kind mask start len
  | .rangeVisible key mask start len => .range key .visible mask start len
  | .rangeTagDeleted key mask start len => .range key .tagDeleted mask start len
  | .rangeAll key mask start len => .range key .all mask start len
  | .count key mask => .count key mask
  | .create key valueSize mask kind type => .create key valueSize mask kind type
  | .createList key valueSize mask => .create key valueSize mask .list .binary
  | .createQueue key valueSize mask => .create key valueSize mask .queue .binary
  | .createSortList key valueSize mask type => .create key valueSize mask .sortList type
  | .clean key => .clean key
  | .rmKey key => .rmKey key
  | .delete key value => .delete key value
  | .deleteByMask key mask => .deleteByMask key mask
  | .insert key value mask pos => .insert key value mask pos
  | .insertSorted key value mask => .insert key value mask automaticPosition
  | .move key value pos => .move key value pos
  | .setMask key value mask => .setMask key value mask
  | .setTag key value tag => .setTag key value tag
  | .lpush key value mask => .lpush key value mask
  | .rpush key value mask => .rpush key value mask
  | .lpop key num => .lpop key num
  | .rpop key num => .rpop key num
  | .lpopOne key => .lpop key 1
  | .rpopOne key => .rpop key 1

namespace Session

variable {m : Type → Type} [Monad m]

/-- Calls a function of a session. -/
def invoke (transport : Transport m) (session : Session) :
    (call : Call) → m (Ending call.command.opcode.Outcome × Session)
  | .ping => session.ping transport
  | .dump => session.dump transport
  | .stat key => session.stat transport key
  | .statSys => session.statSys transport
  | .range key kind mask start len => session.range transport key kind mask start len
  | .rangeVisible key mask start len => session.rangeVisible transport key mask start len
  | .rangeTagDeleted key mask start len =>
    session.rangeTagDeleted transport key mask start len
  | .rangeAll key mask start len => session.rangeAll transport key mask start len
  | .count key mask => session.count transport key mask
  | .create key valueSize mask kind type =>
    session.create transport key valueSize mask kind type
  | .createList key valueSize mask => session.createList transport key valueSize mask
  | .createQueue key valueSize mask => session.createQueue transport key valueSize mask
  | .createSortList key valueSize mask type =>
    session.createSortList transport key valueSize mask type
  | .clean key => session.clean transport key
  | .rmKey key => session.rmKey transport key
  | .delete key value => session.delete transport key value
  | .deleteByMask key mask => session.deleteByMask transport key mask
  | .insert key value mask pos => session.insert transport key value mask pos
  | .insertSorted key value mask => session.insertSorted transport key value mask
  | .move key value pos => session.move transport key value pos
  | .setMask key value mask => session.setMask transport key value mask
  | .setTag key value tag => session.setTag transport key value tag
  | .lpush key value mask => session.lpush transport key value mask
  | .rpush key value mask => session.rpush transport key value mask
  | .lpop key num => session.lpop transport key num
  | .rpop key num => session.rpop transport key num
  | .lpopOne key => session.lpopOne transport key
  | .rpopOne key => session.rpopOne transport key

/-- What comes of a call is what comes of sending its command. -/
theorem invoke_eq_issue (transport : Transport m) (session : Session) (call : Call) :
    session.invoke transport call = session.issue transport call.command := by
  cases call <;> rfl

/-- Calls functions one after the other, whatever comes of them. -/
def invokeAll (transport : Transport m) (session : Session) :
    List Call → m (List Step × Session)
  | [] => pure ([], session)
  | call :: calls => do
    let (outcome, after) ← session.invoke transport call
    let (run, last) ← after.invokeAll transport calls
    return (⟨.send call.command, outcome, session, after⟩ :: run, last)

end Session
end MaskedList
