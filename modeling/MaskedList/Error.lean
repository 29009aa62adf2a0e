import MaskedList.Command.Opcode
import MaskedList.Limits
import MaskedList.Status

/-!
# What can go wrong

Errors are causes.  Their wording is in the `message` functions alone, and
`Error.status` folds every cause into the status that a caller of a command
sees.  An error whose status is one of `timeout`, `connectionLost` and
`protocolError` leaves open which answers are still on their way on the
channel, so such a channel cannot be used again.
-/

namespace MaskedList

/-- The kinds of input and output failures that are told apart. -/
inductive IoKind where
  /-- Nothing happened; the operation may be tried again. -/
  | interrupted
  | timedOut
  | wouldBlock
  | endOfStream
  | writeZero
  | brokenPipe
  | other
  deriving DecidableEq, Repr

/-- A failed input or output operation. -/
structure IoError where
  kind : IoKind
  detail : String
  deriving DecidableEq, Repr

namespace IoError

/-- The stream ended before everything asked for had come. -/
def endOfStream : IoError := ⟨.endOfStream, "failed to fill whole buffer"⟩

/-- The stream took nothing although there was something to write. -/
def writeZero : IoError := ⟨.writeZero, "failed to write whole buffer"⟩

/-- The time for the whole exchange is used up. -/
def deadlineExceeded : IoError := ⟨.timedOut, "call deadline exceeded"⟩

/-- Whether the operation ended because time ran out. -/
def isExpiry (error : IoError) : Bool :=
  error.kind = .timedOut || error.kind = .wouldBlock

/-- Whether nothing happened and the operation may be tried again. -/
def isInterruption (error : IoError) : Bool :=
  error.kind = .interrupted

end IoError

/-- The two kinds of frames. -/
inductive FrameKind where
  | command
  | response
  deriving DecidableEq, Repr

def FrameKind.name : FrameKind → String
  | .command => "command"
  | .response => "response"

/-- What can be wrong with an item list. -/
inductive ItemsFault where
  | headerTruncated (got : Nat)
  | zeroWidth (count : UInt32)
  | truncated (count : UInt32) (expected : UInt64) (got : Nat)
  | overrun (extra : Nat) (count : UInt32)
  deriving DecidableEq, Repr

def ItemsFault.message : ItemsFault → String
  | .headerTruncated got =>
    s!"Item list header truncated: expected {itemsHeaderSize} bytes, got {got}"
  | .zeroWidth count => s!"Item list declares {count} items of zero width"
  | .truncated count expected got =>
    s!"Item list truncated: {count} items need {expected} bytes, got {got}"
  | .overrun extra count =>
    s!"Item list overrun: {extra} trailing bytes after {count} items"

/-- The records of plain numbers that a store answers with. -/
inductive Gauge where
  | stat
  | statSys
  | count
  deriving DecidableEq, Repr

def Gauge.name : Gauge → String
  | .stat => "Stat"
  | .statSys => "StatSys"
  | .count => "Count"

/-- What can be wrong with a record of numbers: only its length. -/
inductive GaugeFault where
  | tooShort
  | tooLong
  deriving DecidableEq, Repr

def GaugeFault.message : GaugeFault → String
  | .tooShort => "io error: unexpected end of file"
  | .tooLong => "Slice had bytes remaining after deserialization"

/-- The ways in which bytes fail to be what the protocol says. -/
inductive ProtocolFault where
  | incompleteHeader (kind : FrameKind) (got : Nat)
  | oversized (size : Nat)
  | incompletePayload (kind : FrameKind) (expected got : Nat)
  | unknownOpcode (byte : UInt8)
  | unknownStatus (byte : UInt8)
  | fields (opcode : Opcode) (fault : FieldFault)
  | items (fault : ItemsFault)
  | gauge (record : Gauge) (fault : GaugeFault)
  /-- A fault that someone else found and worded. -/
  | other (detail : String)
  deriving DecidableEq, Repr

def ProtocolFault.message : ProtocolFault → String
  | .incompleteHeader kind got =>
    "Incomplete " ++ kind.name ++
      s!" header: expected {frameHeaderSize} bytes, got {got}"
  | .oversized size => s!"Payload too large: {size} bytes (max {maxPayloadSize})"
  | .incompletePayload kind expected got =>
    "Incomplete " ++ kind.name ++ s!" payload: expected {expected} bytes, got {got}"
  | .unknownOpcode byte => "Unknown command type: 0x" ++ Bytes.hex byte
  | .unknownStatus byte => "Unknown response status: 0x" ++ Bytes.hex byte
  | .fields opcode fault => opcode.name ++ " command: " ++ fault.message
  | .items fault => fault.message
  | .gauge record fault => record.name ++ " payload: " ++ fault.message
  | .other detail => detail

/-- What can be wrong with the settings of a session. -/
inductive ConfigFault where
  | emptyHost
  | zeroPort (read write : UInt16)
  /-- A fault that someone else found and worded. -/
  | other (detail : String)
  deriving DecidableEq, Repr

def ConfigFault.message : ConfigFault → String
  | .emptyHost => "host must not be empty"
  | .zeroPort read write => s!"ports must be non-zero (read={read}, write={write})"
  | .other detail => detail

/-- Everything that can go wrong in a client. -/
inductive Error where
  | io (error : IoError)
  /-- No channel to the store could be opened. -/
  | connect (host : String) (port : UInt16) (reason : String)
  /-- A channel is gone and could not be replaced. -/
  | connectionLost (detail : String)
  | timeout
  | protocol (fault : ProtocolFault)
  | serialization (detail : String)
  /-- A command whose payload may not travel. -/
  | payloadTooLarge (size limit : Nat)
  | closedSession
  /-- The store answered a command with a status other than success. -/
  | refused (status : Status)
  | config (fault : ConfigFault)
  deriving DecidableEq, Repr

namespace Error

/-- The name of the kind of error. -/
def name : Error → String
  | .io _ => "Io"
  | .connect .. => "Connect"
  | .connectionLost _ => "ConnectionLost"
  | .timeout => "Timeout"
  | .protocol _ => "Protocol"
  | .serialization _ => "Serialization"
  | .payloadTooLarge .. => "PayloadTooLarge"
  | .closedSession => "ClosedSession"
  | .refused _ => "Status"
  | .config _ => "Config"

/-- The text an error is shown by. -/
def message : Error → String
  | .io error => "IO error: " ++ error.detail
  | .connect host port reason => "Failed to connect to " ++ host ++ s!":{port}: " ++ reason
  | .connectionLost detail => "Connection lost: " ++ detail
  | .timeout => "Operation timed out"
  | .protocol fault => "Protocol error: " ++ fault.message
  | .serialization detail => "Serialization error: " ++ detail
  | .payloadTooLarge size limit => s!"Payload too large: {size} bytes (max {limit})"
  | .closedSession => "Session is closed"
  | .refused status => "Command failed with status " ++ status.render
  | .config fault => "Configuration error: " ++ fault.message

/-- The status that a caller of a command sees. -/
def status : Error → Status
  | .io error => if error.isExpiry then .timeout else .connectionLost
  | .connect .. | .connectionLost _ => .connectionLost
  | .timeout => .timeout
  | .protocol _ | .serialization _ => .protocolError
  | .closedSession => .closedSession
  | .refused status => status
  | .config _ | .payloadTooLarge .. => .invalidParam

/-- Whether the channel that the error comes from can no longer be trusted. -/
def desynchronizes (error : Error) : Bool :=
  error.status = .timeout || error.status = .connectionLost ||
    error.status = .protocolError

end Error
end MaskedList
