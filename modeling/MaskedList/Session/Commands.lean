import MaskedList.Gauge
import MaskedList.Items.Wire
import MaskedList.Session.Exchange

/-!
# The commands of a session

One function for each thing that a caller can ask of a store.
-/

namespace MaskedList

variable {m : Type → Type} [Monad m] (transport : Transport m) (session : Session)

namespace Session

/-! ## Queries -/

/-- Health check. -/
def ping : m (Ending Status × Session) :=
  session.execute transport .ping

/-- Asks the store to write a dump of its data. -/
def dump : m (Ending Status × Session) :=
  session.execute transport .dump

/-- Statistics of one key. -/
def stat (key : String) : m (Ending (Reply KeyStats) × Session) :=
  session.dispatch transport (.stat key) fun payload => .returned (KeyStats.decode payload)

/-- Statistics of the whole store. -/
def statSys : m (Ending (Reply StoreStats) × Session) :=
  session.dispatch transport .statSys fun payload => .returned (StoreStats.decode payload)

/-- Up to `len` values of `kind` whose masks match, from position `start` on. -/
def range (key : String) (kind : RangeKind) (mask : String) (start : Int32)
    (len : UInt32) : m (Ending (Reply ItemList) × Session) :=
  session.dispatch transport (.range key kind mask start len) ItemList.decode

def rangeVisible (key mask : String) (start : Int32) (len : UInt32) :
    m (Ending (Reply ItemList) × Session) :=
  session.range transport key .visible mask start len

def rangeTagDeleted (key mask : String) (start : Int32) (len : UInt32) :
    m (Ending (Reply ItemList) × Session) :=
  session.range transport key .tagDeleted mask start len

def rangeAll (key mask : String) (start : Int32) (len : UInt32) :
    m (Ending (Reply ItemList) × Session) :=
  session.range transport key .all mask start len

/-- How many values match a mask. -/
def count (key mask : String) : m (Ending (Reply MatchCount) × Session) :=
  session.dispatch transport (.count key mask) fun payload =>
    .returned (MatchCount.decode payload)

/-! ## Keys -/

/-- Makes a key for values of `valueSize` bytes. -/
def create (key : String) (valueSize : UInt32) (mask : String) (kind : ListKind)
    (type : ValueType) : m (Ending Status × Session) :=
  session.execute transport (.create key valueSize mask kind type)

def createList (key : String) (valueSize : UInt32) (mask : String) :
    m (Ending Status × Session) :=
  session.create transport key valueSize mask .list .binary

def createQueue (key : String) (valueSize : UInt32) (mask : String) :
    m (Ending Status × Session) :=
  session.create transport key valueSize mask .queue .binary

def createSortList (key : String) (valueSize : UInt32) (mask : String)
    (type : ValueType) : m (Ending Status × Session) :=
  session.create transport key valueSize mask .sortList type

/-- Removes the tagged values of a key. -/
def clean (key : String) : m (Ending Status × Session) :=
  session.execute transport (.clean key)

/-- Removes a key with all its values. -/
def rmKey (key : String) : m (Ending Status × Session) :=
  session.execute transport (.rmKey key)

/-! ## Values -/

def delete (key : String) (value : Bytes) : m (Ending Status × Session) :=
  session.execute transport (.delete key value)

def deleteByMask (key mask : String) : m (Ending Status × Session) :=
  session.execute transport (.deleteByMask key mask)

/-- Inserts at a position; `automaticPosition` leaves it to the store. -/
def insert (key : String) (value : Bytes) (mask : String) (pos : Int32) :
    m (Ending Status × Session) :=
  session.execute transport (.insert key value mask pos)

/-- Inserts where the order of a sorted list wants it. -/
def insertSorted (key : String) (value : Bytes) (mask : String) : m (Ending Status × Session) :=
  session.insert transport key value mask automaticPosition

def move (key : String) (value : Bytes) (pos : Int32) : m (Ending Status × Session) :=
  session.execute transport (.move key value pos)

def setMask (key : String) (value : Bytes) (mask : String) : m (Ending Status × Session) :=
  session.execute transport (.setMask key value mask)

def setTag (key : String) (value : Bytes) (tag : UInt8) : m (Ending Status × Session) :=
  session.execute transport (.setTag key value tag)

def lpush (key : String) (value : Bytes) (mask : String) : m (Ending Status × Session) :=
  session.execute transport (.lpush key value mask)

def rpush (key : String) (value : Bytes) (mask : String) : m (Ending Status × Session) :=
  session.execute transport (.rpush key value mask)

/-- Pops values from the head. -/
def lpop (key : String) (num : UInt32) : m (Ending (Reply ItemList) × Session) :=
  session.dispatch transport (.lpop key num) ItemList.decode

/-- Pops values from the tail. -/
def rpop (key : String) (num : UInt32) : m (Ending (Reply ItemList) × Session) :=
  session.dispatch transport (.rpop key num) ItemList.decode

def lpopOne (key : String) : m (Ending (Reply ItemList) × Session) :=
  session.lpop transport key 1

def rpopOne (key : String) : m (Ending (Reply ItemList) × Session) :=
  session.rpop transport key 1

end Session
end MaskedList
