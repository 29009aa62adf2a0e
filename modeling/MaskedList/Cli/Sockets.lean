import MaskedList.Table
import MaskedList.Transport
import Std.Internal.UV.DNS
import Std.Internal.UV.TCP
import Std.Internal.UV.Timer

/-!
# Sockets as a transport

Channels are TCP connections.  Every wait is bounded by the deadline of its
exchange, or by the timeout of the settings while a connection is made.
-/

namespace MaskedList
namespace Cli

open Std.Internal.UV Std.Net

/-- The connections of a process, by the channels that they carry. -/
structure Sockets where
  live : IO.Ref (Table ChannelId TCP.Socket)
  /-- The ports for which channels were named, one entry for each channel. -/
  named : IO.Ref (List UInt16)
  nodelay : Bool

namespace Sockets

/-- No connections yet. -/
def new (nodelay : Bool) : IO Sockets := do
  return { live := ← IO.mkRef [], named := ← IO.mkRef [], nodelay }

/-- Waits for a result, but no longer than `span` nanoseconds. -/
def await {α : Type} (promise : IO.Promise (Except IO.Error α)) (span : Option Nat) :
    IO (Except IoError α) := do
  let outcome : Option (Except IO.Error α) → Except IoError α
    | some (.ok value) => .ok value
    | some (.error error) => .error ⟨.other, toString error⟩
    | none => .error ⟨.wouldBlock, "no result in time"⟩
  let result := promise.result?.map outcome
  match span with
  | none => IO.wait result
  | some span =>
    let timer ← Timer.mk (UInt64.ofNat ((span + 999999) / 1000000)) false
    let expired := (← timer.next).result?.map fun _ => outcome none
    let first ← IO.waitAny [result, expired]
    timer.stop
    return first

/-- The time left until a deadline. -/
def remaining (deadline : Deadline) : IO (Except IoError (Option Nat)) := do
  match deadline with
  | none => return .ok none
  | some expiry =>
    let now ← IO.monoNanosNow
    return if expiry ≤ now then .error .deadlineExceeded else .ok (some (expiry - now))

/-- Runs an operation on the connection of a channel in the time that is left. -/
def within {α : Type} (sockets : Sockets) (channel : ChannelId) (deadline : Deadline)
    (operation : TCP.Socket → Option Nat → IO (Except IoError α)) :
    IO (Except IoError α) := do
  match Table.get? channel (← sockets.live.get) with
  | none => return .error ⟨.other, "channel is closed"⟩
  | some socket =>
    match ← remaining deadline with
    | .error error => return .error error
    | .ok span =>
      try operation socket span
      catch error => return .error ⟨.other, toString error⟩

def address (port : UInt16) : IPAddr → SocketAddress
  | .v4 addr => .v4 ⟨addr, port⟩
  | .v6 addr => .v6 ⟨addr, port⟩

/-- Tries the addresses of a host one after the other; the last failure counts. -/
def dial (port : UInt16) (timeout : Option Nat) :
    String → List IPAddr → IO (Except String TCP.Socket)
  | reason, [] => return .error reason
  | _, addr :: addrs => do
    let socket ← TCP.Socket.new
    match ← await (← socket.connect (address port addr)) timeout with
    | .ok () => return .ok socket
    | .error error => dial port timeout error.detail addrs

def connect (sockets : Sockets) (host : String) (port : UInt16) (timeout : Option Nat) :
    IO (Opening ChannelId) := do
  let refused (reason : String) : Opening ChannelId :=
    { result := .error (.connect host port reason) }
  try
    match ← await (← DNS.getAddrInfo host (toString port.toNat) 0) timeout with
    | .error error => return refused ("address resolution failed: " ++ error.detail)
    | .ok addrs =>
      match ← dial port timeout "host resolved to no addresses" addrs.toList with
      | .error reason => return refused reason
      | .ok socket =>
        if sockets.nodelay then socket.noDelay
        let ordinal := (← sockets.named.get).count port
        let channel : ChannelId := ⟨port, ordinal⟩
        sockets.named.modify (port :: ·)
        sockets.live.modify (Table.insert channel socket)
        return { result := .ok channel }
  catch error => return refused (toString error)

/-- The transport over these connections.  What is written is sent at once, so
there is nothing to flush. -/
def transport (sockets : Sockets) : Transport IO where
  now := IO.monoNanosNow
  connect := sockets.connect
  read channel deadline limit :=
    sockets.within channel deadline fun socket span => do
      let result ← await (← socket.recv? (UInt64.ofNat limit)) span
      if result matches .error _ then socket.cancelRecv
      return result.map fun bytes => (bytes.map ByteArray.toList).getD []
  write channel deadline bytes :=
    sockets.within channel deadline fun socket span => do
      let sent ← await (← socket.send #[ByteArray.mk bytes.toArray]) span
      return sent.map fun _ => bytes.length
  flush channel deadline := sockets.within channel deadline fun _ _ => return .ok ()
  close channel := do
    if let some socket := Table.get? channel (← sockets.live.get) then
      sockets.live.modify (Table.erase channel)
      try discard (await (← socket.shutdown) (some (milliseconds 1000)))
      catch _ => pure ()
    return .ok ()

end Sockets
end Cli
end MaskedList
