import MaskedList.Command.Wire
import MaskedList.Response
import MaskedList.Stream.Basic

/-!
# Messages on a stream

A message is read by its header first, which says how much more to read; the
limit is checked before the payload is waited for.  A message is written whole
and then sent on.
-/

namespace MaskedList

variable {m : Type → Type} [Monad m]

/-- A stream operation among operations that can fail in other ways too. -/
def ofStream {α : Type} (operation : m (Except IoError α)) : ExceptT Error m α :=
  ExceptT.mk do return (← operation).mapError .io

namespace Source

/-- The next frame. -/
def readFrame (source : Source m) : ExceptT Error m Bytes := do
  let header ← ofStream (source.readExact frameHeaderSize)
  let length := Frame.announced header
  Frame.checkLength length
  let payload ← ofStream (source.readExact length)
  return header ++ payload

/-- The next frame as a command. -/
def readCommand (source : Source m) : ExceptT Error m Command := do
  let frame ← source.readFrame
  Command.decode frame

/-- The next frame as a response. -/
def readResponse (source : Source m) : ExceptT Error m Response := do
  let frame ← source.readFrame
  Response.decode frame

end Source

namespace Sink

/-- Writes a whole frame and sends it on. -/
def writeFrame (sink : Sink m) (frame : Bytes) : ExceptT Error m Unit := do
  ofStream (sink.writeAll frame)
  ofStream sink.flush

/-- Writes a command, unless its payload may not travel. -/
def writeCommand (sink : Sink m) (command : Command) : ExceptT Error m Unit := do
  let frame ← command.encode
  sink.writeFrame frame

/-- Writes a response. -/
def writeResponse (sink : Sink m) (response : Response) : ExceptT Error m Unit :=
  sink.writeFrame response.encode

end Sink
end MaskedList
