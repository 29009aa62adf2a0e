/-!
# Statuses

A status says how one command ended.  `ok` is the only success.  Codes below 16
are sent by the store; the others are made by the client itself when no answer
of the store can be used.
-/

namespace MaskedList

/-- How a command ended. -/
inductive Status where
  | ok
  | notFound
  | error
  | keyExists
  | typeMismatch
  | invalidParam
  | empty
  | protocolError
  | timeout
  | connectionLost
  | closedSession
  deriving DecidableEq, Repr

namespace Status

/-- Every status, in the order of the codes. -/
def all : List Status :=
  [.ok, .notFound, .error, .keyExists, .typeMismatch, .invalidParam, .empty,
   .protocolError, .timeout, .connectionLost, .closedSession]

/-- The byte that stands for the status in a response. -/
def code : Status → UInt8
  | .ok => 0x00
  | .notFound => 0x01
  | .error => 0x02
  | .keyExists => 0x03
  | .typeMismatch => 0x04
  | .invalidParam => 0x05
  | .empty => 0x06
  | .protocolError => 0x10
  | .timeout => 0x11
  | .connectionLost => 0x12
  | .closedSession => 0x13

/-- The status with the given code. -/
def ofCode? (byte : UInt8) : Option Status :=
  all.find? fun status => status.code = byte

def isOk (status : Status) : Bool :=
  status = .ok

/-- The name a status has in configuration and data files. -/
def name : Status → String
  | .ok => "Ok"
  | .notFound => "NotFound"
  | .error => "Error"
  | .keyExists => "KeyExists"
  | .typeMismatch => "TypeMismatch"
  | .invalidParam => "InvalidParam"
  | .empty => "Empty"
  | .protocolError => "ProtocolError"
  | .timeout => "Timeout"
  | .connectionLost => "ConnectionLost"
  | .closedSession => "ClosedSession"

/-- The word a status is shown by. -/
def word : Status → String
  | .ok => "OK"
  | .notFound => "NOT_FOUND"
  | .error => "ERROR"
  | .keyExists => "KEY_EXISTS"
  | .typeMismatch => "TYPE_MISMATCH"
  | .invalidParam => "INVALID_PARAM"
  | .empty => "EMPTY"
  | .protocolError => "PROTOCOL_ERROR"
  | .timeout => "TIMEOUT"
  | .connectionLost => "CONNECTION_LOST"
  | .closedSession => "CLOSED_SESSION"

/-- The word and the code in decimal, such as `OK (0)`. -/
def render (status : Status) : String :=
  status.word ++ " (" ++ toString status.code.toNat ++ ")"

@[simp]
theorem ofCode?_code (status : Status) : ofCode? status.code = some status := by
  cases status <;> rfl

theorem code_of_ofCode? {byte : UInt8} {status : Status}
    (h : ofCode? byte = some status) : status.code = byte := by
  simpa using List.find?_some h

end Status
end MaskedList
