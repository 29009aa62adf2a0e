import MaskedList.Stream.Attempt
import MaskedList.Transport

/-!
# Networks as state machines

A network is everything beyond the client: a state, a clock, and what each
operation on a channel does to them.  It may give and take bytes in any pieces
and fail in any way.  Three things are asked of it: no operation moves more
bytes than were asked for or offered, the clock never goes back, and an
operation is not interrupted forever.

`Net` is a network in use: its state, the channels opened so far and a log of
every operation with its outcome.  `Network.transport` runs sessions on it.
Before each read, write and flush that has a deadline, it looks at the clock and
allows the channel no more time than is left.
-/

namespace MaskedList

/-- What is beyond the client, with states `ω`. -/
structure Network (ω : Type) where
  time : ω → Nat
  /-- A bound on the interruptions in a row that a channel still has in store. -/
  patience : ω → ChannelId → Nat
  connect : ChannelId → (host : String) → (timeout : Option Nat) →
    ω → Opening Unit × ω
  /-- Bounds how long the next reads and writes on a channel may take. -/
  allow : ChannelId → (span : Nat) → ω → Except IoError Unit × ω
  read : ChannelId → (limit : Nat) → ω → Except IoError Bytes × ω
  write : ChannelId → Bytes → ω → Except IoError Nat × ω
  flush : ChannelId → ω → Except IoError Unit × ω
  close : ChannelId → ω → Except Error Unit × ω
  read_length_le : ∀ {channel limit before bytes after},
    read channel limit before = (.ok bytes, after) → bytes.length ≤ limit
  write_le_length : ∀ {channel bytes before count after},
    write channel bytes before = (.ok count, after) → count ≤ bytes.length
  connect_time_le : ∀ channel host timeout before,
    time before ≤ time (connect channel host timeout before).2
  allow_time_le : ∀ channel span before,
    time before ≤ time (allow channel span before).2
  read_time_le : ∀ channel limit before,
    time before ≤ time (read channel limit before).2
  write_time_le : ∀ channel bytes before,
    time before ≤ time (write channel bytes before).2
  flush_time_le : ∀ channel before, time before ≤ time (flush channel before).2
  close_time_le : ∀ channel before, time before ≤ time (close channel before).2
  allow_patience_le : ∀ channel span before,
    patience (allow channel span before).2 channel ≤ patience before channel
  /-- Being interrupted takes time or patience. -/
  allow_interrupted : ∀ {channel span before error after},
    allow channel span before = (.error error, after) → error.isInterruption = true →
      patience after channel < patience before channel ∨ time before < time after
  read_interrupted : ∀ {channel limit before error after},
    read channel limit before = (.error error, after) → error.isInterruption = true →
      patience after channel < patience before channel
  write_interrupted : ∀ {channel bytes before error after},
    write channel bytes before = (.error error, after) → error.isInterruption = true →
      patience after channel < patience before channel

/-- One operation of a client on a network, with its outcome. -/
inductive Event where
  /-- A look at the clock. -/
  | time (now : Nat)
  | connect (host : String) (port : UInt16) (timeout : Option Nat)
      (result : Except Error ChannelId)
  | allow (channel : ChannelId) (span : Nat) (result : Except IoError Unit)
  | read (channel : ChannelId) (limit : Nat) (result : Except IoError Bytes)
  | write (channel : ChannelId) (offered : Bytes) (result : Except IoError Nat)
  | flush (channel : ChannelId) (result : Except IoError Unit)
  | close (channel : ChannelId) (result : Except Error Unit)

/-- A network in use. -/
structure Net (ω : Type) where
  world : ω
  /-- The channels opened so far, last one first. -/
  opened : List ChannelId := []
  /-- What has been done so far, last operation first. -/
  log : List Event := []

/-- A network on which nothing has been done yet. -/
def Net.fresh {ω : Type} (world : ω) : Net ω :=
  { world }

namespace Network

variable {ω : Type} {α : Type}

/-- The channel that the next successful opening of a port makes. -/
def nextChannel (net : Net ω) (port : UInt16) : ChannelId :=
  ⟨port, net.opened.countP fun channel => channel.port = port⟩

/-- Tries to open a channel. -/
def opening (network : Network ω) (host : String) (port : UInt16)
    (timeout : Option Nat) (net : Net ω) : Opening ChannelId × Net ω :=
  let channel := nextChannel net port
  let (outcome, world) := network.connect channel host timeout net.world
  let result := outcome.result.map fun _ => channel
  let log := .connect host port timeout result :: net.log
  let opened := if result.isOk then channel :: net.opened else net.opened
  ({ result, destroyed := outcome.destroyed }, { world, opened, log })

/-- Runs an operation and logs it. -/
def perform (operation : ω → Except IoError α × ω) (event : Except IoError α → Event)
    (net : Net ω) : Except IoError α × Net ω :=
  let (result, world) := operation net.world
  (result, { net with world, log := event result :: net.log })

/-- Runs an operation on a channel in the time that is left until the deadline. -/
def within (network : Network ω) (channel : ChannelId) (deadline : Deadline)
    (operation : ω → Except IoError α × ω) (event : Except IoError α → Event)
    (net : Net ω) : Except IoError α × Net ω :=
  match deadline with
  | none => perform operation event net
  | some expiry =>
    let now := network.time net.world
    let looked := { net with log := .time now :: net.log }
    if expiry ≤ now then (.error .deadlineExceeded, looked)
    else
      let span := expiry - now
      match perform (network.allow channel span) (.allow channel span) looked with
      | (.error error, allowed) => (.error error, allowed)
      | (.ok (), allowed) => perform operation event allowed

/-- The patience of a channel together with the time left for it. -/
def reserve (network : Network ω) (channel : ChannelId) (deadline : Deadline)
    (net : Net ω) : Nat :=
  network.patience net.world channel + (deadline.getD 0 - network.time net.world)

/-- An interruption within a deadline leaves less patience or less time. -/
theorem reserve_lt_of_within (network : Network ω) {channel : ChannelId}
    {deadline : Deadline} {operation : ω → Except IoError α × ω}
    {event : Except IoError α → Event} {before after : Net ω} {error : IoError}
    (htime : ∀ world, network.time world ≤ network.time (operation world).2)
    (hpatience : ∀ {first : ω} {failure : IoError} {last : ω},
      operation first = (.error failure, last) → failure.isInterruption = true →
        network.patience last channel < network.patience first channel)
    (hrun : network.within channel deadline operation event before = (.error error, after))
    (hinterrupted : error.isInterruption = true) :
    network.reserve channel deadline after < network.reserve channel deadline before := by
  have hperform : ∀ {first last : Net ω}, perform operation event first = (.error error, last) →
      network.time first.world ≤ network.time last.world ∧
        network.patience last.world channel < network.patience first.world channel := by
    intro first last h
    simp only [perform, Prod.mk.injEq] at h
    have hop : operation first.world = (.error error, (operation first.world).2) := by
      rw [← h.1]
    have hworld : last.world = (operation first.world).2 := by rw [← h.2]
    rw [hworld]
    exact ⟨htime first.world, hpatience hop hinterrupted⟩
  unfold within at hrun
  split at hrun
  · have h := hperform hrun
    simp only [reserve, Option.getD_none]
    omega
  · rename_i expiry
    simp only [reserve, Option.getD_some]
    dsimp only at hrun
    split at hrun
    · simp only [Prod.mk.injEq, Except.error.injEq] at hrun
      rw [← hrun.1] at hinterrupted
      simp [IoError.isInterruption, IoError.deadlineExceeded] at hinterrupted
    · rename_i hlate
      split at hrun
      · rename_i failure allowed hallow
        simp only [Prod.mk.injEq, Except.error.injEq] at hrun
        obtain ⟨rfl, rfl⟩ := hrun
        simp only [perform, Prod.mk.injEq] at hallow
        have hworld : allowed.world = (network.allow channel
            (expiry - network.time before.world) before.world).2 := by rw [← hallow.2]
        have hop : network.allow channel (expiry - network.time before.world) before.world =
            (.error failure, allowed.world) := by rw [hworld, ← hallow.1]
        have hle := network.allow_patience_le channel
          (expiry - network.time before.world) before.world
        have hmono := network.allow_time_le channel
          (expiry - network.time before.world) before.world
        have hless := network.allow_interrupted hop hinterrupted
        rw [← hworld] at hle hmono
        omega
      · rename_i allowed hallow
        simp only [perform, Prod.mk.injEq] at hallow
        have hworld : allowed.world = (network.allow channel
            (expiry - network.time before.world) before.world).2 := by rw [← hallow.2]
        have hle := network.allow_patience_le channel
          (expiry - network.time before.world) before.world
        have hmono := network.allow_time_le channel
          (expiry - network.time before.world) before.world
        rw [← hworld] at hle hmono
        have h := hperform hrun
        omega

/-- A read within a deadline, tried again after interruptions. -/
def reading (network : Network ω) (channel : ChannelId) (deadline : Deadline)
    (limit : Nat) : Attempt (Net ω) Bytes where
  run := network.within channel deadline (network.read channel limit)
    (.read channel limit)
  patience := network.reserve channel deadline
  patience_lt := reserve_lt_of_within network (network.read_time_le channel limit)
    network.read_interrupted

/-- A write within a deadline, tried again after interruptions. -/
def writing (network : Network ω) (channel : ChannelId) (deadline : Deadline)
    (bytes : Bytes) : Attempt (Net ω) Nat where
  run := network.within channel deadline (network.write channel bytes)
    (.write channel bytes)
  patience := network.reserve channel deadline
  patience_lt := reserve_lt_of_within network (network.write_time_le channel bytes)
    network.write_interrupted

/-- The transport that runs sessions on a network in use.  A flush that is
interrupted fails; it is not tried again. -/
def transport (network : Network ω) : Transport (StateM (Net ω)) where
  now net :=
    let now := network.time net.world
    (now, { net with log := .time now :: net.log })
  connect := network.opening
  read channel deadline limit := (network.reading channel deadline limit).persist
  write channel deadline bytes := (network.writing channel deadline bytes).persist
  flush channel deadline :=
    network.within channel deadline (network.flush channel) (.flush channel)
  close channel net :=
    let (result, world) := network.close channel net.world
    (result, { net with world, log := .close channel result :: net.log })

end Network
end MaskedList
