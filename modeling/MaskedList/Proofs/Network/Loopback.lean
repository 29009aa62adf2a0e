import MaskedList.Network.Loopback
import MaskedList.Proofs.Command
import MaskedList.Proofs.Stream.Delivery
import MaskedList.Session.Exchange

/-!
# An exchange with a store

While no faults are laid in, a channel on which nothing is under way takes one command's
frame as a whole, the store carries the command out once, and the one response frame that
comes back is the store's answer.  Then nothing is under way on the channel again, and
nothing has happened on any other.
-/

namespace MaskedList
namespace LoopbackWorld

variable {world : LoopbackWorld} {channel : LoopbackChannel} {id : ChannelId}

@[simp]
theorem channel_setChannel : (world.setChannel id channel).channel id = channel := by
  simp [LoopbackWorld.channel, setChannel]

@[simp]
theorem setChannel_setChannel (first second : LoopbackChannel) :
    (world.setChannel id first).setChannel id second = world.setChannel id second := by
  simp [setChannel]

theorem channel_setChannel_of_ne {other : ChannelId} (hne : other ≠ id) :
    (world.setChannel id channel).channel other = world.channel other := by
  simp only [LoopbackWorld.channel, setChannel, Table.get?_insert_of_ne hne]

/-- The world after the store has carried out a command that came in on a port. -/
def carryOut (port : UInt16) (command : Command) (world : LoopbackWorld) : LoopbackWorld :=
  { world with
    store := (world.store.execute command).2
    requests := (port, command.opcode) :: world.requests }

@[simp]
theorem carryOut_setChannel (port : UInt16) (command : Command) :
    (world.setChannel id channel).carryOut port command =
      (world.carryOut port command).setChannel id channel := rfl

theorem channel_carryOut (port : UInt16) (command : Command) :
    (world.carryOut port command).channel id = world.channel id := rfl

/-- A frame is the only one that is carried out when it is all that has come in. -/
theorem serveAll_frame {command : Command} {frame : Bytes} (hframe : command.encode = .ok frame)
    (hfaults : world.faults = []) (port : UInt16) :
    serveAll port frame world channel = (world.carryOut port command,
      { channel with
        pending := []
        replies := channel.replies ++ (world.store.execute command).1.encode }) := by
  have hdecode := Command.decode_append_of_encode hframe []
  rw [List.append_nil] at hdecode
  have hsize := (Command.withinLimit_of_encode hframe).length_eq
  have hwhole : frameHeaderSize ≤ frame.length ∧
      frameHeaderSize + Frame.announced frame ≤ frame.length := by omega
  have hserve : serve port frame world channel = (world.carryOut port command,
      { channel with replies := channel.replies ++ (world.store.execute command).1.encode }) := by
    simp only [serve, hdecode, hfaults, carryOut]
  have hnothing : ∀ (world : LoopbackWorld) (channel : LoopbackChannel),
      serveAll port [] world channel = (world, { channel with pending := [] }) := by
    intro world channel
    rw [serveAll, dif_neg]
    simp [frameHeaderSize]
  rw [serveAll, dif_pos hwhole, ← hsize, List.take_length, List.drop_length, hserve]
  exact hnothing _ _

/-- A frame that has come in is carried out when it is sent on, and its answer is waiting. -/
theorem flush_frame {command : Command} {frame : Bytes} (hframe : command.encode = .ok frame)
    (hfaults : world.faults = []) (id : ChannelId) :
    flush id (world.setChannel id { pending := frame }) =
      (.ok (), (world.carryOut id.port command).setChannel id
        { replies := (world.store.execute command).1.encode }) := by
  have hserved : (world.setChannel id { pending := frame }).faults = [] := hfaults
  simp only [flush, channel_setChannel, serveAll_frame hframe hserved, carryOut_setChannel,
    setChannel_setChannel]
  rfl

end LoopbackWorld

/-! ## Operations on a channel -/

section Operations

variable {deadline : Deadline} {id : ChannelId} {net : Net LoopbackWorld}

/-- A deadline that the clock, which stands still, does not come to. -/
def Deadline.Ahead (deadline : Deadline) : Prop :=
  ∀ expiry, deadline = some expiry → 0 < expiry

/-- In time, an operation is done as if there were no deadline. -/
theorem within_ahead {α : Type} (hahead : deadline.Ahead) (id : ChannelId)
    (operation : LoopbackWorld → Except IoError α × LoopbackWorld)
    (event : Except IoError α → Event) (net : Net LoopbackWorld) :
    ∃ after, loopbackNetwork.within id deadline operation event net =
      ((operation net.world).1, after) ∧ after.world = (operation net.world).2 := by
  cases deadline with
  | none => exact ⟨_, rfl, rfl⟩
  | some expiry =>
    have hlate : ¬ expiry ≤ loopbackNetwork.time net.world := Nat.not_le.mpr (hahead expiry rfl)
    refine ⟨(loopbackNetwork.within id (some expiry) operation event net).2, ?_⟩
    simp only [Network.within, hlate, if_false]
    exact ⟨rfl, rfl⟩

/-- All bytes that are written wait to be carried out. -/
theorem writeAll_ahead (hahead : deadline.Ahead)
    (hlistens : (net.world.channel id).hungUp = false) {bytes : Bytes} (hsome : bytes ≠ []) :
    ∃ after, (loopbackNetwork.transport.sink id deadline).writeAll bytes net = (.ok (), after) ∧
      after.world = net.world.setChannel id
        { net.world.channel id with pending := (net.world.channel id).pending ++ bytes } := by
  obtain ⟨byte, rest, rfl⟩ := List.exists_cons_of_ne_nil hsome
  obtain ⟨after, hwithin, hafter⟩ := within_ahead hahead id
    (loopbackNetwork.write id (byte :: rest)) (.write id (byte :: rest)) net
  have hwrite : loopbackNetwork.write id (byte :: rest) net.world =
      (.ok (rest.length + 1), net.world.setChannel id { net.world.channel id with
        pending := (net.world.channel id).pending ++ byte :: rest }) := by
    simp [loopbackNetwork, LoopbackWorld.write, hlistens]
  rw [hwrite] at hwithin hafter
  have hsink : (loopbackNetwork.transport.sink id deadline).write (byte :: rest) net =
      (.ok (rest.length + 1), after) :=
    Attempt.persist_of_ok hwithin
  refine ⟨after, ?_, hafter⟩
  rw [Sink.writeAll, stateM_bind_apply, hsink]
  simp only [List.drop_length, Sink.writeAll]
  rfl

/-- What has been answered on a channel is delivered, and nothing else changes. -/
theorem delivers_ahead (hahead : deadline.Ahead) (id : ChannelId) (world : LoopbackWorld) :
    (loopbackNetwork.transport.source id deadline).Delivers fun replies net =>
      net.world = world.setChannel id { replies } := by
  intro limit replies before hlimit hworld
  obtain ⟨after, hwithin, hafter⟩ := within_ahead hahead id
    (loopbackNetwork.read id limit) (.read id limit) before
  have hread : loopbackNetwork.read id limit before.world =
      (.ok (replies.take limit), world.setChannel id { replies := replies.drop limit }) := by
    simp [loopbackNetwork, LoopbackWorld.read, hworld]
  rw [hread] at hwithin hafter
  refine ⟨replies.take limit, replies.drop limit, after, Attempt.persist_of_ok hwithin,
    (List.take_append_drop limit replies).symm, List.length_take_le _ _, ?_, hafter⟩
  intro hnothing
  exact (List.take_eq_nil_iff.mp hnothing).resolve_left (Nat.ne_of_gt hlimit)

end Operations

/-! ## Exchanges -/

section Exchanges

variable {timeout : Option Nat} {command : Command} {id : ChannelId} {net : Net LoopbackWorld}

theorem deadline_ahead (htimeout : timeout ≠ some 0) (net : Net LoopbackWorld) :
    ∃ deadline after, loopbackNetwork.transport.deadline timeout net = (deadline, after) ∧
      deadline.Ahead ∧ after.world = net.world := by
  cases timeout with
  | none => exact ⟨none, net, rfl, by simp [Deadline.Ahead], rfl⟩
  | some span =>
    refine ⟨some (0 + span), _, rfl, ?_, rfl⟩
    rintro expiry hexpiry
    cases hexpiry
    have hspan : span ≠ 0 := fun hzero => htimeout (by rw [hzero])
    omega

/-- Of a command that may not travel the store learns nothing. -/
theorem exchange_oversized (htimeout : timeout ≠ some 0) (hsize : maxPayloadSize < command.size)
    (id : ChannelId) (net : Net LoopbackWorld) :
    ∃ after, loopbackNetwork.transport.exchange id timeout command net =
        (.error (.payloadTooLarge command.size maxPayloadSize), after) ∧
      after.world = net.world := by
  obtain ⟨deadline, looked, hdeadline, -, hlooked⟩ := deadline_ahead htimeout net
  refine ⟨looked, ?_, hlooked⟩
  rw [Transport.exchange, stateM_bind_apply, hdeadline, stateM_bind_apply,
    exceptT_bind_run_apply, Sink.writeCommand, exceptT_bind_run_apply, exceptT_lift_run_apply,
    Command.encode_of_lt_size hsize]
  rfl

/-- A command that is sent is carried out, and its answer is waiting. -/
theorem writeCommand_ahead {deadline : Deadline} (hahead : deadline.Ahead)
    (hsize : command.size ≤ maxPayloadSize) (hidle : net.world.channel id = {})
    (hfaults : net.world.faults = []) :
    ∃ after, ((loopbackNetwork.transport.sink id deadline).writeCommand command).run net =
        (.ok (), after) ∧
      after.world = (net.world.carryOut id.port command).setChannel id
        { replies := (net.world.store.execute command).1.encode } := by
  have hframe := Command.encode_of_size_le hsize
  have hlistens : (net.world.channel id).hungUp = false := by rw [hidle]
  obtain ⟨written, hwrite, hwritten⟩ := writeAll_ahead hahead hlistens
    (Frame.encode_ne_nil command.opcode.code command.payload)
  obtain ⟨after, hflush, hafter⟩ := within_ahead hahead id (loopbackNetwork.flush id)
    (.flush id) written
  rw [hidle, List.nil_append] at hwritten
  have hserved : loopbackNetwork.flush id written.world =
      (.ok (), (net.world.carryOut id.port command).setChannel id
        { replies := (net.world.store.execute command).1.encode }) := by
    rw [hwritten]
    exact LoopbackWorld.flush_frame hframe hfaults id
  rw [hserved] at hflush hafter
  refine ⟨after, ?_, hafter⟩
  rw [Sink.writeCommand, exceptT_bind_run_apply, exceptT_lift_run_apply, hframe]
  simp only [Sink.writeFrame, exceptT_bind_run_apply, ofStream_run_apply, hwrite, mapError_ok]
  exact congrArg (fun flushed => (flushed.1.mapError Error.io, flushed.2)) hflush

/-- In an exchange the store carries the command out once and is heard. -/
theorem exchange_answered (htimeout : timeout ≠ some 0) (hsize : command.size ≤ maxPayloadSize)
    (hidle : net.world.channel id = {}) (hfaults : net.world.faults = [])
    (hfits : (net.world.store.execute command).1.Fits) :
    ∃ after, loopbackNetwork.transport.exchange id timeout command net =
        (.ok (net.world.store.execute command).1.received, after) ∧
      after.world = (net.world.carryOut id.port command).setChannel id {} := by
  obtain ⟨deadline, looked, hdeadline, hahead, hlooked⟩ := deadline_ahead htimeout net
  rw [← hlooked] at hidle hfaults
  obtain ⟨written, hwrite, hwritten⟩ := writeCommand_ahead hahead hsize hidle hfaults
  rw [hlooked] at hwritten
  -- the answer is one frame, and all that there is to read
  have hwaiting : written.world = (net.world.carryOut id.port command).setChannel id
      { replies := (net.world.store.execute command).1.encode ++ [] } := by
    rw [List.append_nil]
    exact hwritten
  obtain ⟨after, hread, hafter⟩ := (delivers_ahead hahead id _).readFrame
    (Response.withinLimit_encode hfits) hwaiting
  have hdecode := Response.decode_encode_append hfits []
  rw [List.append_nil] at hdecode
  refine ⟨after, ?_, hafter⟩
  rw [Transport.exchange, stateM_bind_apply, hdeadline, stateM_bind_apply,
    exceptT_bind_run_apply, hwrite]
  simp only [Source.readResponse, exceptT_bind_run_apply, hread, exceptT_lift_run_apply, hdecode]
  rfl

end Exchanges
end MaskedList
