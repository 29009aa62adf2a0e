import MaskedList.Proofs.Command
import MaskedList.Proofs.Network.Conduct
import MaskedList.Proofs.Network.Holding
import MaskedList.Proofs.Response
import MaskedList.Session.Exchange

/-!
# Everything that a call does

A call finds its slot closed, or gets no channel for a discarded one, or talks on a
channel.  Talking is one exchange, after which the channel stays in use or is closed and
its slot discarded.  An exchange does nothing for a command that may not travel; else it
writes the frame, sends it on and reads until it has a whole frame, and stops wherever
that fails.  Each account says what is in the log afterwards, last operation first, so
that whatever is to be known of a call can be read off its events.
-/

namespace MaskedList

variable {ω : Type} {α : Type}

/-- What the bytes that came in come to for whoever waits for a response, given how the
channel failed meanwhile. -/
inductive Heard (received : Bytes) : Option IoError → Except Error Response → Prop where
  /-- The channel broke off before there was a whole frame. -/
  | cutShort {error : IoError} : ¬ Frame.WithinLimit received →
      Heard received (some error) (.error (.ofExpired (.io error)))
  /-- What came in is no response. -/
  | garbled {error : Error} : Response.decode received = .error error →
      Heard received none (.error error)
  /-- What came in is the frame of a response. -/
  | understood {response : Response} : Response.decode received = .ok response →
      response.Fits → received = response.encode → Heard received none (.ok response)

namespace Network

/-- The deadline of an exchange that begins now. -/
def expiry (network : Network ω) (timeout : Option Nat) (net : Net ω) : Deadline :=
  timeout.map fun span => network.time net.world + span

/-- The look at the clock that an exchange begins with if it has a deadline. -/
def firstLook (network : Network ω) (timeout : Option Nat) (net : Net ω) : List Event :=
  (timeout.map fun _ => Event.time (network.time net.world)).toList

/-- The network once an exchange has begun. -/
def begun (network : Network ω) (timeout : Option Nat) (net : Net ω) : Net ω :=
  { net with log := network.firstLook timeout net ++ net.log }

variable (network : Network ω)

theorem deadline_apply (timeout : Option Nat) (net : Net ω) :
    network.transport.deadline timeout net =
      (network.expiry timeout net, network.begun timeout net) := by
  cases timeout <;> rfl

/-- The ends that sending a command and reading its response can come to, with all that is
done on the channel. -/
inductive Conducted (channel : ChannelId) (timeout : Option Nat) (command : Command)
    (before after : Net ω) : List Event → Except Error Response → Prop where
  /-- The command may not travel. -/
  | oversized {error : Error} : command.encode = .error error →
      after = network.begun timeout before →
      Conducted channel timeout command before after [] (.error error)
  /-- The frame could not be sent as a whole. -/
  | unsent {frame sent : Bytes} {error : IoError} {done : List Event} :
      command.encode = .ok frame → sent <+: frame →
      network.Conducts channel (network.expiry timeout before) (some error) sent []
        (network.begun timeout before) after done →
      Conducted channel timeout command before after done (.error (.ofExpired (.io error)))
  /-- The frame was written and sent on, and then a frame was read or looked for. -/
  | sent {frame received : Bytes} {failure : Option IoError} {outcome : Except Error Response}
      {flushed : Net ω} {earlier later : List Event} : command.encode = .ok frame →
      network.Conducts channel (network.expiry timeout before) none frame []
        (network.begun timeout before) flushed (.flush channel (.ok ()) :: earlier) →
      network.Conducts channel (network.expiry timeout before) failure [] received flushed
        after later →
      Heard received failure outcome →
      Conducted channel timeout command before after
        (later ++ .flush channel (.ok ()) :: earlier) outcome

theorem conducted_exchange {channel : ChannelId} {timeout : Option Nat} {command : Command}
    {before after : Net ω} {outcome : Except Error Response}
    (hrun : network.transport.exchange channel timeout command before = (outcome, after)) :
    ∃ done, Conducted network channel timeout command before after done outcome := by
  rw [Transport.exchange, stateM_bind_apply, deadline_apply, stateM_bind_apply] at hrun
  have hsink := network.accounted_sink channel (network.expiry timeout before)
  have hsource := network.accounted_source channel (network.expiry timeout before)
  -- the write and the read share one deadline; the write comes first
  rw [exceptT_bind_run_apply] at hrun
  rcases hwrite : ((network.transport.sink channel (network.expiry timeout before)).writeCommand
    command).run (network.begun timeout before) with ⟨result, written⟩
  rw [hwrite] at hrun
  obtain ⟨error, hencode, rfl, rfl⟩ | ⟨frame, hencode, ⟨rfl, middle, ⟨first, hfirst⟩, hflush⟩ |
    ⟨error, moved, rfl, hbegins, done, hbroken⟩⟩ := hsink.writeCommand hwrite
  · obtain ⟨-, rfl⟩ := Command.encode_eq_error hencode
    cases hrun
    exact ⟨[], .oversized hencode rfl⟩
  · -- the command is out; from here on a response is read
    obtain ⟨flushing, hflushed, hlast⟩ := conducts_flush hflush
    obtain ⟨rest, rfl⟩ := hlast rfl
    have hsent := hfirst.trans hflushed
    rw [List.append_nil, List.append_nil, List.cons_append] at hsent
    rcases hread : (network.transport.source channel
      (network.expiry timeout before)).readResponse.run written with ⟨answer, last⟩
    simp only [hread] at hrun
    obtain ⟨received, ⟨response, rfl, hdecode, hwithin, later, hmoves⟩ |
      ⟨error, rfl, hshort, later, hbreaks⟩ | ⟨error, rfl, hdecode, later, hmoves⟩⟩ :=
      hsource.readResponse hread
    · cases hrun
      obtain ⟨hfits, hbytes⟩ := Response.eq_encode_of_decode hdecode hwithin
      exact ⟨_, .sent hencode hsent hmoves (.understood hdecode hfits hbytes)⟩
    · cases hrun
      exact ⟨_, .sent hencode hsent hbreaks (.cutShort hshort)⟩
    · obtain ⟨fault, rfl⟩ := Response.decode_eq_error hdecode
      cases hrun
      exact ⟨_, .sent hencode hsent hmoves (.garbled hdecode)⟩
  · cases hrun
    exact ⟨done, .unsent hencode hbegins hbroken⟩

namespace Conducted

variable {network : Network ω} {channel : ChannelId} {timeout : Option Nat} {command : Command}
  {before after : Net ω} {done : List Event} {outcome : Except Error Response}

/-- All of the exchange is work on its channel.  If that leaves a failure, the exchange comes to
it; if not, time did not run out. -/
theorem conducts (h : Conducted network channel timeout command before after done outcome) :
    ∃ failure sent received, network.Conducts channel (network.expiry timeout before) failure
        sent received (network.begun timeout before) after done ∧
      (∀ error, failure = some error → outcome = .error (.ofExpired (.io error))) ∧
      (failure = none → outcome ≠ .error .timeout) := by
  cases h with
  | oversized hencode hafter =>
    obtain ⟨-, rfl⟩ := Command.encode_eq_error hencode
    exact ⟨none, [], [], hafter ▸ .refl _ _ _ _, by simp, by simp⟩
  | unsent hencode hbegins hbroken => exact ⟨_, _, _, hbroken, by simp, by simp⟩
  | sent hencode hsent hreceived hheard =>
    refine ⟨_, _, _, hsent.trans hreceived, ?_⟩
    cases hheard with
    | cutShort hshort => simp
    | garbled hdecode =>
      obtain ⟨fault, rfl⟩ := Response.decode_eq_error hdecode
      simp
    | understood => simp

theorem log_eq (h : Conducted network channel timeout command before after done outcome) :
    after.log = done ++ (network.firstLook timeout before ++ before.log) := by
  obtain ⟨_, _, _, hconducts, -⟩ := h.conducts
  exact hconducts.log

theorem clocked (h : Conducted network channel timeout command before after done outcome) :
    Log.Clocked (network.time before.world) (network.time after.world)
      (done ++ network.firstLook timeout before) := by
  obtain ⟨_, _, _, hconducts, -⟩ := h.conducts
  have hlook : Log.Clocked (network.time before.world) (network.time before.world)
      (network.firstLook timeout before) := by
    cases timeout with
    | none => exact Log.clocked_nil _
    | some span => exact Log.clocked_time _
  exact hlook.append hconducts.clocked

end Conducted

end Network

namespace Session

variable (network : Network ω)

/-- The session, marked as destroyed if that happened while a channel was opened. -/
def noting (session : Session) (destroyed : Bool) : Session :=
  { session with destroyed := session.destroyed || destroyed }

@[simp]
theorem slot_noting (session : Session) (destroyed : Bool) (role : Role) :
    (session.noting destroyed).slot role = session.slot role := by
  cases role <;> rfl

/-- Tries to open a channel for a role. -/
def dial (session : Session) (role : Role) (net : Net ω) : Opening ChannelId × Net ω :=
  network.opening session.config.host (session.config.port role) session.config.timeout net

theorem openChannel_apply (session : Session) (role : Role) (net : Net ω) :
    session.openChannel network.transport role net =
      (((session.dial network role net).1.result,
        session.noting (session.dial network role net).1.destroyed),
        (session.dial network role net).2) := rfl

/-- How an attempt to open a channel for a role shows in the log. -/
def dialed (session : Session) (role : Role) (result : Except Error ChannelId) : Event :=
  .connect session.config.host (session.config.port role) session.config.timeout result

/-- The ends that talking on a channel can come to, with all that is done on it. -/
inductive Talked (session : Session) (role : Role) (channel : ChannelId) (command : Command)
    (decode : Response → Ending (Except Error α)) (before : Net ω) :
    List Event → Ending (Except Error α) → Session → Net ω → Prop where
  /-- The channel stays in use.  So it does when reading the answer panics. -/
  | kept {done : List Event} {outcome : Except Error Response} {after : Net ω} :
      network.Conducted channel session.config.timeout command before after done outcome →
      (∀ error, decoded decode outcome = .returned (.error error) →
        error.desynchronizes = false) →
      Talked session role channel command decode before
        (done ++ network.firstLook session.config.timeout before) (decoded decode outcome)
        session after
  /-- The channel is closed, and its slot discarded. -/
  | givenUp {done : List Event} {outcome : Except Error Response} {error : Error}
      {after : Net ω} :
      network.Conducted channel session.config.timeout command before after done outcome →
      decoded decode outcome = .returned (.error error) → error.desynchronizes = true →
      Talked session role channel command decode before
        (.close channel (network.close channel after.world).1 ::
          (done ++ network.firstLook session.config.timeout before))
        (.returned (.error error)) (session.setSlot role .discarded)
        (network.transport.close channel after).2

theorem talked_converse {session : Session} {role : Role} {channel : ChannelId}
    {command : Command} {decode : Response → Ending (Except Error α)} {before after : Net ω}
    {result : Ending (Except Error α)} {ended : Session}
    (hrun : session.converse network.transport role channel command decode before =
      ((result, ended), after)) :
    ∃ done, Talked network session role channel command decode before done result ended after := by
  rw [Session.converse, stateM_bind_apply] at hrun
  rcases hexchange : network.transport.exchange channel session.config.timeout command before
    with ⟨outcome, exchanged⟩
  obtain ⟨done, hconducted⟩ := network.conducted_exchange hexchange
  simp only [hexchange] at hrun
  rcases hvalue : decoded decode outcome with (error | value) | panic
  · simp only [hvalue] at hrun
    cases hdesync : error.desynchronizes with
    | true =>
      rw [if_pos hdesync] at hrun
      cases hrun
      exact ⟨_, .givenUp hconducted hvalue hdesync⟩
    | false =>
      rw [if_neg (by simp [hdesync])] at hrun
      cases hrun
      rw [← hvalue]
      refine ⟨_, .kept hconducted ?_⟩
      intro other hother
      rw [hvalue] at hother
      cases hother
      exact hdesync
  · simp only [hvalue] at hrun
    cases hrun
    rw [← hvalue]
    exact ⟨_, .kept hconducted (by simp [hvalue])⟩
  · simp only [hvalue] at hrun
    cases hrun
    rw [← hvalue]
    exact ⟨_, .kept hconducted (by simp [hvalue])⟩

/-- The ends that a call can come to, with all that is done in it. -/
inductive Traced (session : Session) (command : Command)
    (decode : Response → Ending (Except Error α)) (before : Net ω) :
    List Event → Ending (Except Error α) → Session → Net ω → Prop where
  /-- The slot refuses calls. -/
  | closed : session.slot command.role = .closed →
      Traced session command decode before [] (.returned (.error .closedSession)) session before
  /-- There is no new channel for the one that was discarded. -/
  | unopened {error : Error} {destroyed : Bool} {after : Net ω} :
      session.slot command.role = .discarded →
      session.dial network command.role before = (⟨.error error, destroyed⟩, after) →
      Traced session command decode before [session.dialed command.role (.error error)]
        (.returned (.error (.connectionLost error.message))) (session.noting destroyed) after
  /-- The command goes to the channel in hand. -/
  | held {channel : ChannelId} {done : List Event} {result : Ending (Except Error α)}
      {ended : Session} {after : Net ω} : session.slot command.role = .connected channel →
      Talked network session command.role channel command decode before done result ended after →
      Traced session command decode before done result ended after
  /-- The command goes to a new channel. -/
  | reopened {channel : ChannelId} {destroyed : Bool} {opened after : Net ω} {done : List Event}
      {result : Ending (Except Error α)} {ended : Session} :
      session.slot command.role = .discarded →
      session.dial network command.role before = (⟨.ok channel, destroyed⟩, opened) →
      Talked network ((session.noting destroyed).setSlot command.role (.connected channel))
        command.role channel command decode opened done result ended after →
      Traced session command decode before
        (done ++ [session.dialed command.role (.ok channel)]) result ended after

theorem traced_call {session : Session} {command : Command}
    {decode : Response → Ending (Except Error α)} {before after : Net ω}
    {result : Ending (Except Error α)} {ended : Session}
    (hrun : session.call network.transport command decode before = ((result, ended), after)) :
    ∃ done, Traced network session command decode before done result ended after := by
  rw [Session.call] at hrun
  cases hslot : session.slot command.role with
  | closed =>
    simp only [hslot] at hrun
    cases hrun
    exact ⟨_, .closed hslot⟩
  | connected channel =>
    simp only [hslot] at hrun
    obtain ⟨done, htalked⟩ := talked_converse network hrun
    exact ⟨done, .held hslot htalked⟩
  | discarded =>
    simp only [hslot, stateM_bind_apply, openChannel_apply] at hrun
    rcases hdial : session.dial network command.role before with
      ⟨⟨error | channel, destroyed⟩, opened⟩
    · simp only [hdial] at hrun
      cases hrun
      exact ⟨_, .unopened hslot hdial⟩
    · simp only [hdial] at hrun
      obtain ⟨done, htalked⟩ := talked_converse network hrun
      exact ⟨_, .reopened hslot hdial htalked⟩

variable {network}

theorem Talked.log_eq {session ended : Session} {role : Role} {channel : ChannelId}
    {command : Command} {decode : Response → Ending (Except Error α)} {before after : Net ω}
    {done : List Event} {result : Ending (Except Error α)}
    (h : Talked network session role channel command decode before done result ended after) :
    after.log = done ++ before.log := by
  cases h with
  | kept hconducted => rw [hconducted.log_eq, List.append_assoc]
  | @givenUp exchange _ _ last hconducted =>
    show Event.close channel _ :: last.log = _
    rw [hconducted.log_eq, List.cons_append, List.append_assoc]

theorem Talked.clocked {session ended : Session} {role : Role} {channel : ChannelId}
    {command : Command} {decode : Response → Ending (Except Error α)} {before after : Net ω}
    {done : List Event} {result : Ending (Except Error α)}
    (h : Talked network session role channel command decode before done result ended after) :
    Log.Clocked (network.time before.world) (network.time after.world) done := by
  cases h with
  | kept hconducted => exact hconducted.clocked
  | givenUp hconducted =>
    exact hconducted.clocked.append (Log.clocked_single rfl (network.close_time_le channel _))

theorem Traced.log_eq {session ended : Session} {command : Command}
    {decode : Response → Ending (Except Error α)} {before after : Net ω} {done : List Event}
    {result : Ending (Except Error α)}
    (h : Traced network session command decode before done result ended after) :
    after.log = done ++ before.log := by
  cases h with
  | closed => rfl
  | unopened hslot hdial => exact (network.opening_error hdial).2
  | held hslot htalked => exact htalked.log_eq
  | reopened hslot hdial htalked =>
    rw [htalked.log_eq, (network.opening_ok hdial).2.2, List.append_assoc]
    rfl

theorem clocked_dial {session : Session} {role : Role} {before after : Net ω}
    {opening : Opening ChannelId} (result : Except Error ChannelId)
    (hdial : session.dial network role before = (opening, after)) :
    Log.Clocked (network.time before.world) (network.time after.world)
      [session.dialed role result] := by
  have htime : network.time before.world ≤
      network.time (session.dial network role before).2.world :=
    network.connect_time_le _ _ _ _
  rw [hdial] at htime
  exact Log.clocked_single rfl htime

/-- The looks at the clock in a call show the time that passes in it. -/
theorem Traced.clocked {session ended : Session} {command : Command}
    {decode : Response → Ending (Except Error α)} {before after : Net ω} {done : List Event}
    {result : Ending (Except Error α)}
    (h : Traced network session command decode before done result ended after) :
    Log.Clocked (network.time before.world) (network.time after.world) done := by
  cases h with
  | closed => exact Log.clocked_nil _
  | unopened hslot hdial => exact clocked_dial _ hdial
  | held hslot htalked => exact htalked.clocked
  | reopened hslot hdial htalked => exact (clocked_dial _ hdial).append htalked.clocked

end Session
end MaskedList
