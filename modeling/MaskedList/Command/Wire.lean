import MaskedList.Command.Basic
import MaskedList.Frame

/-!
# Commands on the wire

The payload of a command is its fields one after the other.  Reading goes
through the layout of the opcode and stops at the first field that is not
there, is no text or names nothing; bytes after the last field are refused.
-/

namespace MaskedList

namespace Command

/-- The command's fields as bytes. -/
def payload (command : Command) : Bytes :=
  encodeFields command.opcode.layout command.fields

/-- The command's frame, unless its payload is over the limit. -/
def encode (command : Command) : Except Error Bytes :=
  let payload := command.payload
  if maxPayloadSize < payload.length then
    .error (.payloadTooLarge payload.length maxPayloadSize)
  else .ok (Frame.encode command.opcode.code payload)

/-- The command whose frame is at the front of `bytes`. -/
def decode (bytes : Bytes) : Except Error Command := do
  let (code, payload) ← Frame.split .command bytes
  match Opcode.ofCode? code with
  | none => throw (.protocol (.unknownOpcode code))
  | some opcode =>
    match decodeAllFields opcode.layout payload with
    | .error fault => throw (.protocol (.fields opcode fault))
    | .ok values => return ofFields opcode values

end Command
end MaskedList
