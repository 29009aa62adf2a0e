import MaskedList.Ending
import MaskedList.Reply
import MaskedList.Session.Basic
import MaskedList.Stream.Message

/-!
# One command, one answer

An exchange writes a command's frame on a channel and reads one response frame
from it, both within one deadline.  Where an exchange, or the reading of its
answer, fails in a way that leaves open what is still to come on the channel,
the channel is closed and its slot discarded; the next call opens another one.
A command is never sent twice.

Reading an answer can also panic.  The caller gets nothing then, and the panic passes by
what would discard the slot: it keeps its channel, on which the whole answer has come.
-/

namespace MaskedList

variable {m : Type → Type} [Monad m] {α : Type}

/-- A stream that ran out of time is a timeout of the command. -/
def Error.ofExpired : Error → Error
  | .io error => if error.isExpiry then .timeout else .io error
  | other => other

namespace Transport

/-- The moment at which an exchange that begins now has used up its time. -/
def deadline (transport : Transport m) : Option Nat → m Deadline
  | none => pure none
  | some span => do return some ((← transport.now) + span)

/-- Sends a command on a channel and reads its response. -/
def exchange (transport : Transport m) (channel : ChannelId)
    (timeout : Option Nat) (command : Command) : m (Except Error Response) := do
  let deadline ← transport.deadline timeout
  let outcome ← ExceptT.run do
    (transport.sink channel deadline).writeCommand command
    (transport.source channel deadline).readResponse
  return outcome.mapError Error.ofExpired

end Transport

namespace Session

/-- Opens a channel for a role, and notes whether the session was destroyed
meanwhile. -/
def openChannel (transport : Transport m) (session : Session) (role : Role) :
    m (Except Error ChannelId × Session) := do
  let config := session.config
  let opening ← transport.connect config.host (config.port role) config.timeout
  return (opening.result,
    { session with destroyed := session.destroyed || opening.destroyed })

/-- What becomes of the outcome of an exchange when its response is read. -/
def decoded (decode : Response → Ending (Except Error α)) :
    Except Error Response → Ending (Except Error α)
  | .ok response => decode response
  | .error error => .returned (.error error)

/-- Runs a command on the channel that a role's slot holds. -/
def converse (transport : Transport m) (session : Session) (role : Role)
    (channel : ChannelId) (command : Command)
    (decode : Response → Ending (Except Error α)) :
    m (Ending (Except Error α) × Session) := do
  let response ← transport.exchange channel session.config.timeout command
  match decoded decode response with
  | .returned (.ok value) => return (.returned (.ok value), session)
  | .returned (.error error) =>
    if error.desynchronizes then
      let _ ← transport.close channel
      return (.returned (.error error), session.setSlot role .discarded)
    else return (.returned (.error error), session)
  | .panicked panic => return (.panicked panic, session)

/-- Runs a command on its role's slot, with a new channel if the last one was
discarded. -/
def call (transport : Transport m) (session : Session) (command : Command)
    (decode : Response → Ending (Except Error α)) :
    m (Ending (Except Error α) × Session) := do
  let role := command.role
  match session.slot role with
  | .closed => return (.returned (.error .closedSession), session)
  | .connected channel => session.converse transport role channel command decode
  | .discarded =>
    match ← session.openChannel transport role with
    | (.error error, session) =>
      return (.returned (.error (.connectionLost error.message)), session)
    | (.ok channel, session) =>
      (session.setSlot role (.connected channel)).converse transport role channel
        command decode

/-- What a response means to a command that reads its data with `decode`. -/
def interpret (decode : Bytes → Ending (Except Error α)) (response : Response) :
    Ending (Except Error (Reply α)) :=
  if response.status = .ok then (decode response.body).map fun data => data.map Reply.ok
  else .returned (.ok (.failed response.status))

/-- What a caller is told of a call. -/
def told : Except Error (Reply α) → Reply α
  | .ok reply => reply
  | .error error => .failed error.status

@[simp]
theorem told_ok (reply : Reply α) : told (.ok reply) = reply := rfl

@[simp]
theorem told_error (error : Error) : told (.error error) = (.failed error.status : Reply α) := rfl

/-- Runs a command and tells its caller how it went. -/
def dispatch (transport : Transport m) (session : Session) (command : Command)
    (decode : Bytes → Ending (Except Error α)) : m (Ending (Reply α) × Session) := do
  if session.destroyed then return (.returned (.failed .closedSession), session)
  let (ending, session) ← session.call transport command (interpret decode)
  return (ending.map told, session)

/-- Runs a command that answers with its status alone. -/
def execute (transport : Transport m) (session : Session) (command : Command) :
    m (Ending Status × Session) := do
  let (ending, session) ← session.dispatch transport command fun _ => .returned (.ok ())
  return (ending.map Reply.status, session)

end Session
end MaskedList
