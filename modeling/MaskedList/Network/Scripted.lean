import MaskedList.Network.Basic
import MaskedList.Stream.Script
import MaskedList.Table

/-!
# Networks that follow a script

The script says what each opening of a channel comes to, in order, and for each
opened channel what its reads, writes and flushes will do.  Time passes only
where the script lets it, and where a channel that cannot be given a time limit
keeps the client waiting for all the time it has.
-/

namespace MaskedList

/-- The script of one channel. -/
structure ScriptedChannel where
  reads : List ReadEvent := []
  writes : List WriteEvent := []
  flushes : List WriteEvent := []
  /-- How closing the channel fails. -/
  closeError : Option Error := none
  /-- How bounding the channel's time fails. -/
  allowError : Option IoError := none

/-- What comes of one opening. -/
inductive OpeningScript where
  | refuse (reason : String)
  | fail (error : Error)
  /-- A channel; `destroyed` says whether the session is destroyed meanwhile. -/
  | accept (channel : ScriptedChannel) (destroyed : Bool)

/-- The parts of the script that are still to come. -/
structure ScriptedWorld where
  clock : Nat := 0
  openings : List OpeningScript := []
  channels : Table ChannelId ScriptedChannel := []

namespace ScriptedWorld

/-- The rest of a channel's script. -/
def channel (world : ScriptedWorld) (id : ChannelId) : ScriptedChannel :=
  (Table.get? id world.channels).getD {}

/-- The world after a channel has come further in its script. -/
def setChannel (world : ScriptedWorld) (id : ChannelId) (channel : ScriptedChannel) :
    ScriptedWorld :=
  { world with channels := Table.insert id channel world.channels }

@[simp]
theorem channel_setChannel (world : ScriptedWorld) (id : ChannelId)
    (script : ScriptedChannel) : (world.setChannel id script).channel id = script := by
  simp [channel, setChannel]

def connect (id : ChannelId) (host : String) (_timeout : Option Nat)
    (world : ScriptedWorld) : Opening Unit × ScriptedWorld :=
  let refused (reason : String) : Opening Unit :=
    { result := .error (.connect host id.port reason) }
  match world.openings with
  | [] => (refused "no channel left", world)
  | .refuse reason :: openings => (refused reason, { world with openings })
  | .fail error :: openings => ({ result := .error error }, { world with openings })
  | .accept channel destroyed :: openings =>
    ({ result := .ok (), destroyed }, { world with openings }.setChannel id channel)

/-- A channel that is interrupted here has waited as long as it was allowed. -/
def allow (id : ChannelId) (span : Nat) (world : ScriptedWorld) :
    Except IoError Unit × ScriptedWorld :=
  match (world.channel id).allowError with
  | none => (.ok (), world)
  | some error =>
    if error.isInterruption then
      (.error error, { world with clock := world.clock + max span 1 })
    else (.error error, world)

def read (id : ChannelId) (limit : Nat) (world : ScriptedWorld) :
    Except IoError Bytes × ScriptedWorld :=
  let channel := world.channel id
  let (result, rest) := Script.readEvents limit channel.reads 0
  (result, { world with clock := world.clock + milliseconds rest.elapsed }.setChannel id
    { channel with reads := rest.events })

def write (id : ChannelId) (bytes : Bytes) (world : ScriptedWorld) :
    Except IoError Nat × ScriptedWorld :=
  let channel := world.channel id
  let (result, rest) := Script.writeEvents bytes.length channel.writes 0
  (result, { world with clock := world.clock + milliseconds rest.elapsed }.setChannel id
    { channel with writes := rest.events })

def flush (id : ChannelId) (world : ScriptedWorld) : Except IoError Unit × ScriptedWorld :=
  let channel := world.channel id
  let (result, rest) := Script.flush ⟨channel.flushes, 0⟩
  (result, { world with clock := world.clock + milliseconds rest.elapsed }.setChannel id
    { channel with flushes := rest.events })

def close (id : ChannelId) (world : ScriptedWorld) : Except Error Unit × ScriptedWorld :=
  match (world.channel id).closeError with
  | none => (.ok (), world)
  | some error => (.error error, world)

/-- The events that can still interrupt a read or a write. -/
def patience (world : ScriptedWorld) (id : ChannelId) : Nat :=
  (world.channel id).reads.length + (world.channel id).writes.length

end ScriptedWorld

/-- The network that follows a script. -/
def scriptedNetwork : Network ScriptedWorld where
  time := ScriptedWorld.clock
  patience := ScriptedWorld.patience
  connect := ScriptedWorld.connect
  allow := ScriptedWorld.allow
  read := ScriptedWorld.read
  write := ScriptedWorld.write
  flush := ScriptedWorld.flush
  close := ScriptedWorld.close
  read_length_le := by
    intro channel limit before bytes after h
    simp only [ScriptedWorld.read, Prod.mk.injEq] at h
    exact Script.readEvents_le h.1
  write_le_length := by
    intro channel bytes before count after h
    simp only [ScriptedWorld.write, Prod.mk.injEq] at h
    exact Script.writeEvents_le h.1
  connect_time_le channel host timeout before := by
    unfold ScriptedWorld.connect
    split <;> simp [ScriptedWorld.setChannel]
  allow_time_le channel span before := by
    unfold ScriptedWorld.allow
    split
    · simp
    · split <;> simp
  read_time_le channel limit before := by
    simp [ScriptedWorld.read, ScriptedWorld.setChannel]
  write_time_le channel bytes before := by
    simp [ScriptedWorld.write, ScriptedWorld.setChannel]
  flush_time_le channel before := by
    simp [ScriptedWorld.flush, ScriptedWorld.setChannel]
  close_time_le channel before := by
    unfold ScriptedWorld.close
    split <;> simp
  allow_patience_le channel span before := by
    unfold ScriptedWorld.allow
    split
    · exact Nat.le_refl _
    · split <;> exact Nat.le_refl _
  allow_interrupted := by
    intro channel span before error after h hinterrupted
    right
    unfold ScriptedWorld.allow at h
    split at h
    · simp at h
    · split at h
      · simp only [Prod.mk.injEq] at h
        rw [← h.2]
        simp only
        omega
      · rename_i hother
        simp only [Prod.mk.injEq, Except.error.injEq] at h
        rw [h.1] at hother
        exact absurd hinterrupted hother
  read_interrupted := by
    intro channel limit before error after h _
    simp only [ScriptedWorld.read, Prod.mk.injEq] at h
    rw [← h.2]
    have hlt : (Script.readEvents limit (before.channel channel).reads 0).2.events.length <
        (before.channel channel).reads.length :=
      Script.readEvents_length_lt (Prod.ext h.1 rfl)
    simp only [ScriptedWorld.patience, ScriptedWorld.channel_setChannel]
    omega
  write_interrupted := by
    intro channel bytes before error after h _
    simp only [ScriptedWorld.write, Prod.mk.injEq] at h
    rw [← h.2]
    have hlt : (Script.writeEvents bytes.length (before.channel channel).writes 0).2.events.length <
        (before.channel channel).writes.length :=
      Script.writeEvents_length_lt (Prod.ext h.1 rfl)
    simp only [ScriptedWorld.patience, ScriptedWorld.channel_setChannel]
    omega

end MaskedList
