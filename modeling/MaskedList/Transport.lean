import MaskedList.Config
import MaskedList.Stream.Basic

/-!
# Transports

A transport opens channels to a host and moves bytes over them.  An operation
on a channel takes the moment at which the exchange that it belongs to has used
up its time; it is never reported as interrupted, because an interrupted
operation is tried again until that moment.
-/

namespace MaskedList

/-- A channel, named by its port and by how many were opened there before it. -/
structure ChannelId where
  port : UInt16
  ordinal : Nat
  deriving DecidableEq, Repr

/-- What came of trying to open a channel.  Opening is the step that can take
long, so it may be found afterwards that the session was destroyed during it. -/
structure Opening (α : Type) where
  result : Except Error α
  /-- Whether the session was destroyed while the channel was being opened. -/
  destroyed : Bool := false

/-- The moment by which an exchange has to be over, if there is one. -/
abbrev Deadline := Option Nat

/-- The operations that sessions need. -/
structure Transport (m : Type → Type) where
  now : m Nat
  connect : (host : String) → (port : UInt16) → (timeout : Option Nat) →
    m (Opening ChannelId)
  read : ChannelId → Deadline → (limit : Nat) → m (Except IoError Bytes)
  write : ChannelId → Deadline → Bytes → m (Except IoError Nat)
  flush : ChannelId → Deadline → m (Except IoError Unit)
  close : ChannelId → m (Except Error Unit)

namespace Transport

variable {m : Type → Type}

/-- The bytes that come in on a channel. -/
def source (transport : Transport m) (channel : ChannelId) (deadline : Deadline) :
    Source m where
  read := transport.read channel deadline

/-- The bytes that go out on a channel. -/
def sink (transport : Transport m) (channel : ChannelId) (deadline : Deadline) :
    Sink m where
  write := transport.write channel deadline
  flush := transport.flush channel deadline

end Transport
end MaskedList
