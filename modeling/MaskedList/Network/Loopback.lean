import MaskedList.Command.Wire
import MaskedList.Network.Basic
import MaskedList.Store.Basic

/-!
# A network that ends in a store

Every channel of this network leads to the same in-memory store.  What is
written on a channel waits until it is flushed; then every whole frame is
carried out and its answer can be read.  Faults can be laid in for the commands
to come, and ports can be told to refuse.
-/

namespace MaskedList

/-- What goes wrong with one command. -/
inductive Fault where
  /-- The command is not carried out and never answered. -/
  | stall
  /-- Two stray bytes follow the payload of the answer. -/
  | trailingGarbage
  /-- The command is not carried out and the channel hangs up. -/
  | disconnect
  deriving DecidableEq, Repr

/-- The store's end of a channel. -/
structure LoopbackChannel where
  /-- Written and not yet carried out. -/
  pending : Bytes := []
  /-- Answered and not yet read. -/
  replies : Bytes := []
  stalled : Bool := false
  hungUp : Bool := false

/-- A store with the channels that lead to it. -/
structure LoopbackWorld where
  store : Store := {}
  /-- Faults for the commands to come, next one first. -/
  faults : List Fault := []
  /-- Ports on which no channel can be opened. -/
  refused : List UInt16 := []
  /-- The commands that came in, with their ports, last one first. -/
  requests : List (UInt16 × Opcode) := []
  channels : Table ChannelId LoopbackChannel := []

namespace LoopbackWorld

def channel (world : LoopbackWorld) (id : ChannelId) : LoopbackChannel :=
  (Table.get? id world.channels).getD {}

def setChannel (world : LoopbackWorld) (id : ChannelId) (channel : LoopbackChannel) :
    LoopbackWorld :=
  { world with channels := Table.insert id channel world.channels }

/-- Lays in a fault for the first command that has none yet. -/
def inject (fault : Fault) (world : LoopbackWorld) : LoopbackWorld :=
  { world with faults := world.faults ++ [fault] }

/-- Lets no more channels be opened on a port. -/
def refuse (port : UInt16) (world : LoopbackWorld) : LoopbackWorld :=
  { world with refused := port :: world.refused }

/-- Lets channels be opened on a port again. -/
def accept (port : UInt16) (world : LoopbackWorld) : LoopbackWorld :=
  { world with refused := world.refused.filter (· ≠ port) }

def connect (id : ChannelId) (host : String) (_timeout : Option Nat)
    (world : LoopbackWorld) : Opening Unit × LoopbackWorld :=
  if world.refused.contains id.port then
    ({ result := .error (.connect host id.port "connection refused") }, world)
  else ({ result := .ok () }, world.setChannel id {})

/-- The bytes that stray behind an answer. -/
def garbage : Bytes := [0xDE, 0xAD]

/-- Carries out one frame that came in on a port. -/
def serve (port : UInt16) (frame : Bytes) (world : LoopbackWorld)
    (channel : LoopbackChannel) : LoopbackWorld × LoopbackChannel :=
  let reply (response : Response) : LoopbackChannel :=
    { channel with replies := channel.replies ++ response.encode }
  match Command.decode frame with
  | .error error => (world, reply (.failure error.message))
  | .ok command =>
    let world := { world with requests := (port, command.opcode) :: world.requests }
    let (response, store) := world.store.execute command
    match world.faults with
    | [] => ({ world with store }, reply response)
    | .stall :: faults => ({ world with faults }, { channel with stalled := true })
    | .disconnect :: faults => ({ world with faults }, { channel with hungUp := true })
    | .trailingGarbage :: faults =>
      ({ world with faults, store },
        reply { response with payload := some (response.body ++ garbage) })

/-- Carries out every whole frame among the bytes, and keeps the rest. -/
def serveAll (port : UInt16) (bytes : Bytes) (world : LoopbackWorld)
    (channel : LoopbackChannel) : LoopbackWorld × LoopbackChannel :=
  let size := frameHeaderSize + Frame.announced bytes
  if _hwhole : frameHeaderSize ≤ bytes.length ∧ size ≤ bytes.length then
    let (world, channel) := serve port (bytes.take size) world channel
    serveAll port (bytes.drop size) world channel
  else (world, { channel with pending := bytes })
termination_by bytes.length
decreasing_by
  simp only [List.length_drop, size, frameHeaderSize] at *
  omega

def read (id : ChannelId) (limit : Nat) (world : LoopbackWorld) :
    Except IoError Bytes × LoopbackWorld :=
  let channel := world.channel id
  if channel.replies.isEmpty && channel.stalled then
    (.error ⟨.timedOut, "no reply"⟩, world)
  else
    let (piece, replies) := channel.replies.splitAt limit
    (.ok piece, world.setChannel id { channel with replies })

def write (id : ChannelId) (bytes : Bytes) (world : LoopbackWorld) :
    Except IoError Nat × LoopbackWorld :=
  let channel := world.channel id
  if channel.hungUp then (.error ⟨.brokenPipe, "peer hung up"⟩, world)
  else
    (.ok bytes.length,
      world.setChannel id { channel with pending := channel.pending ++ bytes })

def flush (id : ChannelId) (world : LoopbackWorld) : Except IoError Unit × LoopbackWorld :=
  let channel := world.channel id
  let (world, channel) := serveAll id.port channel.pending world channel
  (.ok (), world.setChannel id channel)

end LoopbackWorld

/-- The network that ends in a store.  Its clock stands still. -/
def loopbackNetwork : Network LoopbackWorld where
  time _ := 0
  patience _ _ := 0
  connect := LoopbackWorld.connect
  allow _ _ world := (.ok (), world)
  read := LoopbackWorld.read
  write := LoopbackWorld.write
  flush := LoopbackWorld.flush
  close _ world := (.ok (), world)
  read_length_le := by
    intro channel limit before bytes after h
    simp only [LoopbackWorld.read, List.splitAt_eq] at h
    split at h
    · simp at h
    · simp only [Prod.mk.injEq, Except.ok.injEq] at h
      rw [← h.1]
      exact List.length_take_le _ _
  write_le_length := by
    intro channel bytes before count after h
    simp only [LoopbackWorld.write] at h
    split at h
    · simp at h
    · simp only [Prod.mk.injEq, Except.ok.injEq] at h
      omega
  connect_time_le _ _ _ _ := Nat.le_refl _
  allow_time_le _ _ _ := Nat.le_refl _
  read_time_le _ _ _ := Nat.le_refl _
  write_time_le _ _ _ := Nat.le_refl _
  flush_time_le _ _ := Nat.le_refl _
  close_time_le _ _ := Nat.le_refl _
  allow_patience_le _ _ _ := Nat.le_refl _
  allow_interrupted := by
    intro channel span before error after h _
    simp at h
  read_interrupted := by
    intro channel limit before error after h hinterrupted
    simp only [LoopbackWorld.read] at h
    split at h
    · simp only [Prod.mk.injEq, Except.error.injEq] at h
      rw [← h.1] at hinterrupted
      simp [IoError.isInterruption] at hinterrupted
    · simp at h
  write_interrupted := by
    intro channel bytes before error after h hinterrupted
    simp only [LoopbackWorld.write] at h
    split at h
    · simp only [Prod.mk.injEq, Except.error.injEq] at h
      rw [← h.1] at hinterrupted
      simp [IoError.isInterruption] at hinterrupted
    · simp at h

end MaskedList
