import MaskedList.Frame
import MaskedList.Network.Basic
import MaskedList.Table

/-!
# Servers that answer by plan

A server on a port has a plan for each connection that it will accept, and the
plan says what to do after each whole request frame.  Bytes on the way to the
client carry the moment at which they arrive.  A client that reads waits for the
next of them as long as it was allowed to.
-/

namespace MaskedList

/-- What a server does after a request. -/
inductive Act where
  | send (bytes : Bytes)
  /-- Sends the bytes one by one with a pause after each. -/
  | trickle (bytes : Bytes) (gap : Nat)
  | close
  /-- Never sends anything again. -/
  | stall
  deriving DecidableEq, Repr

/-- The server's end of a connection. -/
structure PlannedChannel where
  /-- What to do after the requests to come. -/
  plan : List Act
  /-- Received and not yet a whole frame. -/
  pending : Bytes := []
  /-- The frames received, last one first. -/
  requests : List Bytes := []
  /-- Bytes for the client with their moments of arrival, in order. -/
  coming : List (Nat × UInt8) := []
  /-- The moment at which the last act is over. -/
  busyUntil : Nat := 0
  /-- The moment at which the server closed the connection. -/
  hungUp : Option Nat := none
  /-- How long a read of the client may wait; it may wait forever without. -/
  allowance : Option Nat := none

namespace PlannedChannel

/-- Takes one request frame at a moment and does what the plan says. -/
def serve (now : Nat) (frame : Bytes) (channel : PlannedChannel) : PlannedChannel :=
  let start := max now channel.busyUntil
  let taken := { channel with requests := frame :: channel.requests }
  match channel.plan with
  | [] => taken
  | .send bytes :: plan =>
    { taken with plan, coming := taken.coming ++ bytes.map fun byte => (start, byte) }
  | .trickle bytes gap :: plan =>
    let timed := bytes.zipIdx.map fun (byte, index) => (start + index * gap, byte)
    { taken with plan, coming := taken.coming ++ timed,
                 busyUntil := start + bytes.length * gap }
  | .close :: plan => { taken with plan, hungUp := some start }
  | .stall :: _ => { taken with plan := [] }

/-- Takes every whole frame among the bytes, and keeps the rest. -/
def serveAll (now : Nat) (bytes : Bytes) (channel : PlannedChannel) : PlannedChannel :=
  let size := frameHeaderSize + Frame.announced bytes
  if _hwhole : frameHeaderSize ≤ bytes.length ∧ size ≤ bytes.length then
    (channel.serve now (bytes.take size)).serveAll now (bytes.drop size)
  else { channel with pending := bytes }
termination_by bytes.length
decreasing_by
  simp only [List.length_drop, size, frameHeaderSize] at *
  omega

/-- The moment at which there is something to read, the end of the stream
included. -/
def nextArrival (channel : PlannedChannel) : Option Nat :=
  match channel.coming with
  | (arrival, _) :: _ => some arrival
  | [] => channel.hungUp

/-- Whether there is something to read before the client gives up, and the
moment at which the client goes on. -/
def await (now : Nat) (channel : PlannedChannel) : Bool × Nat :=
  match channel.nextArrival, channel.allowance with
  | some arrival, some span =>
    if arrival < now + span then (true, max now arrival) else (false, now + span)
  | some arrival, none => (true, max now arrival)
  | none, some span => (false, now + span)
  | none, none => (false, now)

theorem le_await (now : Nat) (channel : PlannedChannel) : now ≤ (channel.await now).2 := by
  unfold await
  split <;> try split
  all_goals
    dsimp only
    omega

end PlannedChannel

/-- Servers, with the plans of the connections that they will still accept. -/
structure PlannedWorld where
  /-- A port without plans refuses connections. -/
  servers : Table UInt16 (List (List Act))
  channels : Table ChannelId PlannedChannel := []
  clock : Nat := 0

namespace PlannedWorld

def channel (world : PlannedWorld) (id : ChannelId) : PlannedChannel :=
  (Table.get? id world.channels).getD { plan := [] }

def setChannel (world : PlannedWorld) (id : ChannelId) (channel : PlannedChannel) :
    PlannedWorld :=
  { world with channels := Table.insert id channel world.channels }

/-- The reason given where nothing listens. -/
def unreachable : String := "Network is unreachable (os error 101)"

/-- The reason given for a host name with the character that ends names. -/
def unresolvable : String :=
  "address resolution failed: file name contained an unexpected NUL byte"

/-- The wait of a read was too long. -/
def unavailable : IoError :=
  ⟨.wouldBlock, "Resource temporarily unavailable (os error 11)"⟩

def connect (id : ChannelId) (host : String) (timeout : Option Nat)
    (world : PlannedWorld) : Opening Unit × PlannedWorld :=
  if host.toList.contains '\x00' then
    ({ result := .error (.connect host id.port unresolvable) }, world)
  else
    match Table.get? id.port world.servers with
    | some (plan :: plans) =>
      let world := { world with servers := Table.insert id.port plans world.servers }
      ({ result := .ok () }, world.setChannel id { plan, allowance := timeout })
    | _ => ({ result := .error (.connect host id.port unreachable) }, world)

def allow (id : ChannelId) (span : Nat) (world : PlannedWorld) :
    Except IoError Unit × PlannedWorld :=
  (.ok (), world.setChannel id { world.channel id with allowance := some span })

/-- Gives what has arrived by the time that there is something. -/
def read (id : ChannelId) (limit : Nat) (world : PlannedWorld) :
    Except IoError Bytes × PlannedWorld :=
  let channel := world.channel id
  let (found, clock) := channel.await world.clock
  if found then
    let arrived := channel.coming.takeWhile fun (arrival, _) => arrival ≤ clock
    let piece := (arrived.map Prod.snd).take limit
    let channel := { channel with coming := channel.coming.drop piece.length }
    (.ok piece, { world with clock }.setChannel id channel)
  else (.error unavailable, { world with clock })

def write (id : ChannelId) (bytes : Bytes) (world : PlannedWorld) :
    Except IoError Nat × PlannedWorld :=
  let channel := world.channel id
  let served := match channel.hungUp with
    | some _ => channel
    | none => channel.serveAll world.clock (channel.pending ++ bytes)
  (.ok bytes.length, world.setChannel id served)

/-- The request frames that came in on each connection of a port. -/
def received (world : PlannedWorld) (port : UInt16) : List (List Bytes) :=
  (world.channels.filter fun entry => entry.1.port = port).map
    fun (_, channel) => channel.requests.reverse

end PlannedWorld

/-- The network of servers that answer by plan. -/
def plannedNetwork : Network PlannedWorld where
  time := PlannedWorld.clock
  patience _ _ := 0
  connect := PlannedWorld.connect
  allow := PlannedWorld.allow
  read := PlannedWorld.read
  write := PlannedWorld.write
  flush _ world := (.ok (), world)
  close _ world := (.ok (), world)
  read_length_le := by
    intro channel limit before bytes after h
    simp only [PlannedWorld.read] at h
    split at h
    · simp only [Prod.mk.injEq, Except.ok.injEq] at h
      rw [← h.1]
      exact List.length_take_le _ _
    · simp at h
  write_le_length := by
    intro channel bytes before count after h
    simp only [PlannedWorld.write, Prod.mk.injEq, Except.ok.injEq] at h
    omega
  connect_time_le channel host timeout before := by
    simp only [PlannedWorld.connect]
    split
    · exact Nat.le_refl _
    · split <;> exact Nat.le_refl _
  allow_time_le _ _ _ := Nat.le_refl _
  read_time_le channel limit before := by
    simp only [PlannedWorld.read]
    split <;> exact PlannedChannel.le_await before.clock (before.channel channel)
  write_time_le _ _ _ := Nat.le_refl _
  flush_time_le _ _ := Nat.le_refl _
  close_time_le _ _ := Nat.le_refl _
  allow_patience_le _ _ _ := Nat.le_refl _
  allow_interrupted := by
    intro channel span before error after h _
    simp [PlannedWorld.allow] at h
  read_interrupted := by
    intro channel limit before error after h hinterrupted
    simp only [PlannedWorld.read] at h
    split at h
    · simp at h
    · simp only [Prod.mk.injEq, Except.error.injEq] at h
      rw [← h.1] at hinterrupted
      simp [PlannedWorld.unavailable, IoError.isInterruption] at hinterrupted
  write_interrupted := by
    intro channel bytes before error after h _
    simp [PlannedWorld.write] at h

end MaskedList
