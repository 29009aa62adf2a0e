import MaskedList.Proofs.Session.Trace
import MaskedList.Session.Requests

/-!
# What comes of a call

A call finds its slot closed, or gets no channel for a discarded one, or has a
conversation on a channel.  A conversation ends with an answer that could be read or
made its reader panic, or before anything was sent because the command is too large,
or with a failure after which the channel is closed and its slot discarded.  There is
no other end: whatever fails once the first byte can have moved leaves an error that
desynchronizes, and there is nothing to panic over before a whole answer is in.
-/

namespace MaskedList

namespace Error

/-- A failure of the channel leaves open what is still to come on it. -/
@[simp]
theorem desynchronizes_io (failure : IoError) : (Error.io failure).desynchronizes = true := by
  by_cases hexpiry : failure.isExpiry = true <;> simp [Error.desynchronizes, status, hexpiry]

@[simp]
theorem desynchronizes_protocol (fault : ProtocolFault) :
    (Error.protocol fault).desynchronizes = true := rfl

@[simp]
theorem desynchronizes_ofExpired (error : Error) :
    (ofExpired error).desynchronizes = error.desynchronizes := by
  cases error with
  | io failure =>
    by_cases hexpiry : failure.isExpiry = true <;>
      simp [ofExpired, Error.desynchronizes, status, hexpiry]
  | _ => rfl

end Error

theorem Gauge.decode_eq_error {gauge : Gauge} {payload : Bytes} {error : Error}
    (h : gauge.decode payload = .error error) : ∃ fault, error = .protocol fault := by
  simp only [Gauge.decode] at h
  split at h
  · cases h
  · exact ⟨_, (Except.error.inj h).symm⟩
  · exact ⟨_, (Except.error.inj h).symm⟩

/-- Data that cannot be read breaks the protocol. -/
theorem Opcode.readData_eq_error {opcode : Opcode} {bytes : Bytes} {error : Error}
    (h : opcode.readData bytes = .returned (.error error)) :
    ∃ fault, error = .protocol fault := by
  have hgauge : ∀ {gauge : Gauge} {β : Type} {f : FieldValues gauge.layout → β},
      (gauge.decode bytes).map f = .error error → ∃ fault, error = .protocol fault := by
    intro gauge β f hmap
    cases hdecode : gauge.decode bytes with
    | ok values => simp [hdecode, Except.map] at hmap
    | error failure =>
      obtain ⟨fault, rfl⟩ := Gauge.decode_eq_error hdecode
      exact ⟨fault, by simpa [hdecode, Except.map] using hmap.symm⟩
  have hitems : ItemList.decode bytes = .returned (.error error) →
      ∃ fault, error = .protocol fault := by
    intro hdecode
    obtain ⟨result, -, hresult⟩ := Ending.map_eq_returned_iff.mp hdecode
    cases result with
    | ok list => cases hresult
    | error fault => exact ⟨.items fault, (Except.error.inj hresult).symm⟩
  cases opcode with
  | stat | statSys | count => exact hgauge (Ending.returned.inj h)
  | range | lpop | rpop => exact hitems h
  | _ => cases h

variable {ω : Type} {α : Type}

namespace Network

variable (network : Network ω)

/-- The ends that sending a command and reading its response can come to. -/
inductive Exchanged (channel : ChannelId) (command : Command) (before after : Net ω) :
    Except Error Response → Prop where
  /-- The command may not travel. -/
  | oversized {error : Error} : command.encode = .error error →
      Moved channel [] [] before after → Exchanged channel command before after (.error error)
  /-- Something failed after the frame had begun to go out. -/
  | failed {frame sent received : Bytes} {error : Error} : command.encode = .ok frame →
      sent <+: frame → Moved channel sent received before after →
      error.desynchronizes = true → Exchanged channel command before after (.error error)
  /-- The whole frame went out and one whole response came in. -/
  | answered {frame : Bytes} {response : Response} : command.encode = .ok frame →
      Moved channel frame response.encode before after → response.Fits →
      Exchanged channel command before after (.ok response)

/-- The first look at the clock moves nothing. -/
theorem moved_begun (channel : ChannelId) (timeout : Option Nat) (net : Net ω) :
    Moved channel [] [] net (network.begun timeout net) := by
  cases timeout with
  | none => exact Moved.refl channel net
  | some span => exact Moved.single (.time (network.time net.world)) trivial rfl rfl

variable {network}

/-- Of an exchange there is to know what moved. -/
theorem Conducted.exchanged {channel : ChannelId} {timeout : Option Nat} {command : Command}
    {before after : Net ω} {done : List Event} {outcome : Except Error Response}
    (h : network.Conducted channel timeout command before after done outcome) :
    Exchanged channel command before after outcome := by
  have hbegun := network.moved_begun channel timeout before
  cases h with
  | oversized hencode hafter => exact .oversized hencode (hafter ▸ hbegun)
  | unsent hencode hbegins hbroken =>
    exact .failed hencode hbegins (hbegun.trans hbroken.moved) (by simp)
  | @sent frame received failure outcome _ _ _ hencode hsent hreceived hheard =>
    have hmoved := (hbegun.trans hsent.moved).trans hreceived.moved
    simp only [List.append_nil, List.nil_append] at hmoved
    cases hheard with
    | cutShort hshort => exact .failed hencode List.prefix_rfl hmoved (by simp)
    | garbled hdecode =>
      obtain ⟨fault, rfl⟩ := Response.decode_eq_error hdecode
      exact .failed hencode List.prefix_rfl hmoved rfl
    | understood hdecode hfits hbytes => exact .answered hencode (hbytes ▸ hmoved) hfits

end Network

namespace Session

variable (network : Network ω)

/-- The ends that a conversation on a channel can come to. -/
inductive Conversed (session : Session) (role : Role) (channel : ChannelId)
    (command : Command) (decode : Response → Ending (Except Error α)) (before : Net ω) :
    Ending (Except Error α) → Session → Net ω → Prop where
  /-- The command may not travel; nothing was sent. -/
  | oversized {error : Error} {after : Net ω} : command.encode = .error error →
      Moved channel [] [] before after →
      Conversed session role channel command decode before (.returned (.error error)) session
        after
  /-- One whole response came in for the whole command, and there was nothing wrong with it
  that its reader could tell: it was read, or reading it panicked. -/
  | answered {frame : Bytes} {response : Response} {ending : Ending (Except Error α)}
      {after : Net ω} : command.encode = .ok frame →
      Moved channel frame response.encode before after → response.Fits →
      decode response = ending → (∀ error, ending ≠ .returned (.error error)) →
      Conversed session role channel command decode before ending session after
  /-- The channel is given up. -/
  | failed {frame sent received : Bytes} {error : Error} {after : Net ω} :
      command.encode = .ok frame → sent <+: frame → Moved channel sent received before after →
      error.desynchronizes = true →
      Conversed session role channel command decode before (.returned (.error error))
        (session.setSlot role .discarded) (network.transport.close channel after).2

/-- Talking on a channel is a conversation if answers that cannot be read leave their channel
untrusted. -/
theorem Talked.conversed {session ended : Session} {role : Role} {channel : ChannelId}
    {command : Command} {decode : Response → Ending (Except Error α)}
    (hdecode : ∀ response error, decode response = .returned (.error error) →
      error.desynchronizes = true)
    {before after : Net ω} {done : List Event} {result : Ending (Except Error α)}
    (h : Talked network session role channel command decode before done result ended after) :
    Conversed network session role channel command decode before result ended after := by
  cases h with
  | @kept _ outcome _ hconducted hharmless =>
    cases hconducted.exchanged with
    | oversized hencode hmoved => exact .oversized hencode hmoved
    | @failed _ _ _ error hencode hbegins hmoved herror =>
      have hnot := hharmless error rfl
      rw [herror] at hnot
      cases hnot
    | @answered frame response hencode hmoved hfits =>
      refine .answered hencode hmoved hfits rfl fun error hvalue => ?_
      have hnot := hharmless error hvalue
      rw [hdecode response error hvalue] at hnot
      cases hnot
  | @givenUp _ outcome error last hconducted hvalue herror =>
    cases hconducted.exchanged with
    | oversized hencode hmoved =>
      obtain ⟨-, rfl⟩ := Command.encode_eq_error hencode
      cases hvalue
      cases herror
    | failed hencode hbegins hmoved _ => exact .failed hencode hbegins hmoved herror
    -- a whole frame came in, but its channel is given up all the same
    | answered hencode hmoved hfits => exact .failed hencode List.prefix_rfl hmoved herror

theorem conversed_converse {session : Session} {role : Role} {channel : ChannelId}
    {command : Command} {decode : Response → Ending (Except Error α)}
    (hdecode : ∀ response error, decode response = .returned (.error error) →
      error.desynchronizes = true)
    {before after : Net ω} {result : Ending (Except Error α)} {ended : Session}
    (hrun : session.converse network.transport role channel command decode before =
      ((result, ended), after)) :
    Conversed network session role channel command decode before result ended after := by
  obtain ⟨done, htalked⟩ := talked_converse network hrun
  exact htalked.conversed network hdecode

/-- The ends that a call can come to. -/
inductive Called (session : Session) (command : Command)
    (decode : Response → Ending (Except Error α)) (before : Net ω) :
    Ending (Except Error α) → Session → Net ω → Prop where
  /-- The slot refuses calls. -/
  | closed : session.slot command.role = .closed →
      Called session command decode before (.returned (.error .closedSession)) session before
  /-- There is no new channel for the one that was discarded. -/
  | unopened {error : Error} {destroyed : Bool} {after : Net ω} :
      session.slot command.role = .discarded →
      session.dial network command.role before = (⟨.error error, destroyed⟩, after) →
      Called session command decode before
        (.returned (.error (.connectionLost error.message))) (session.noting destroyed) after
  /-- The command goes to the channel in hand. -/
  | held {channel : ChannelId} {result : Ending (Except Error α)} {ended : Session}
      {after : Net ω} : session.slot command.role = .connected channel →
      Conversed network session command.role channel command decode before result ended after →
      Called session command decode before result ended after
  /-- The command goes to a new channel. -/
  | reopened {channel : ChannelId} {destroyed : Bool} {opened after : Net ω}
      {result : Ending (Except Error α)} {ended : Session} :
      session.slot command.role = .discarded →
      session.dial network command.role before = (⟨.ok channel, destroyed⟩, opened) →
      Conversed network ((session.noting destroyed).setSlot command.role (.connected channel))
        command.role channel command decode opened result ended after →
      Called session command decode before result ended after

theorem called_call {session : Session} {command : Command}
    {decode : Response → Ending (Except Error α)}
    (hdecode : ∀ response error, decode response = .returned (.error error) →
      error.desynchronizes = true)
    {before after : Net ω} {result : Ending (Except Error α)} {ended : Session}
    (hrun : session.call network.transport command decode before =
      ((result, ended), after)) :
    Called network session command decode before result ended after := by
  obtain ⟨done, htraced⟩ := traced_call network hrun
  cases htraced with
  | closed hslot => exact .closed hslot
  | unopened hslot hdial => exact .unopened hslot hdial
  | held hslot htalked => exact .held hslot (htalked.conversed network hdecode)
  | reopened hslot hdial htalked => exact .reopened hslot hdial (htalked.conversed network hdecode)

/-- What was no error is told as it is. -/
theorem map_told_map_ok (ending : Ending (Reply α)) :
    (ending.map Except.ok).map told = ending := by
  cases ending <;> rfl

/-- The ends that running a command can come to. -/
inductive Dispatched (session : Session) (command : Command)
    (decode : Bytes → Ending (Except Error α)) (before : Net ω) :
    Ending (Reply α) → Session → Net ω → Prop where
  /-- The session is destroyed. -/
  | refused : session.destroyed = true →
      Dispatched session command decode before (.returned (.failed .closedSession)) session
        before
  /-- The caller is told what the call came to, if it did not panic. -/
  | called {result : Ending (Except Error (Reply α))} {ended : Session} {after : Net ω} :
      session.destroyed = false →
      Called network session command (interpret decode) before result ended after →
      Dispatched session command decode before (result.map told) ended after

/-- Only the data of a successful answer can be unreadable. -/
theorem interpret_eq_error {decode : Bytes → Ending (Except Error α)} {response : Response}
    {error : Error} (h : interpret decode response = .returned (.error error)) :
    decode response.body = .returned (.error error) := by
  simp only [interpret] at h
  split at h
  · obtain ⟨data, hdecode, hdata⟩ := Ending.map_eq_returned_iff.mp h
    cases data with
    | ok value => cases hdata
    | error failure => rw [hdecode, Except.error.inj hdata]
  · cases h

/-- An answer that cannot be read leaves its channel untrusted. -/
theorem desynchronizes_of_interpret {opcode : Opcode} {response : Response} {error : Error}
    (h : interpret opcode.readData response = .returned (.error error)) :
    error.desynchronizes = true := by
  obtain ⟨fault, rfl⟩ := Opcode.readData_eq_error (interpret_eq_error h)
  rfl

theorem dispatched_dispatch {session : Session} {command : Command}
    {before after : Net ω} {ending : Ending (Reply command.opcode.Data)} {ended : Session}
    (hrun : session.dispatch network.transport command command.opcode.readData before =
      ((ending, ended), after)) :
    Dispatched network session command command.opcode.readData before ending ended after := by
  rw [Session.dispatch] at hrun
  cases hdestroyed : session.destroyed with
  | true =>
    simp only [hdestroyed, if_true] at hrun
    cases hrun
    exact .refused hdestroyed
  | false =>
    simp only [hdestroyed, Bool.false_eq_true, if_false, stateM_bind_apply] at hrun
    rcases hcall : session.call network.transport command
      (interpret command.opcode.readData) before with ⟨⟨result, called⟩, last⟩
    rw [hcall] at hrun
    cases hrun
    exact .called hdestroyed (called_call network (fun _ _ => desynchronizes_of_interpret) hcall)

/-- Whoever sends a command gets what there is to report of running it. -/
theorem dispatched_issue {session : Session} {command : Command} {before after : Net ω}
    {outcome : Ending command.opcode.Outcome} {ended : Session}
    (hrun : session.issue network.transport command before = ((outcome, ended), after)) :
    ∃ ending, outcome = ending.map command.opcode.report ∧
      Dispatched network session command command.opcode.readData before ending ended after := by
  rw [issue_eq_dispatch, stateM_bind_apply] at hrun
  rcases hdispatch : session.dispatch network.transport command command.opcode.readData before
    with ⟨⟨ending, last⟩, dispatched⟩
  rw [hdispatch] at hrun
  cases hrun
  exact ⟨ending, rfl, dispatched_dispatch network hdispatch⟩

variable {network}

/-- A session that is destroyed refuses every command. -/
theorem dispatch_of_destroyed {session : Session} (hdestroyed : session.destroyed = true)
    (command : Command) (decode : Bytes → Ending (Except Error α)) (net : Net ω) :
    session.dispatch network.transport command decode net =
      ((.returned (.failed .closedSession), session), net) := by
  rw [dispatch, if_pos hdestroyed]
  rfl

theorem issue_of_destroyed {session : Session} (hdestroyed : session.destroyed = true)
    (command : Command) (net : Net ω) :
    session.issue network.transport command net =
      ((.returned (command.opcode.report (.failed .closedSession)), session), net) := by
  rw [issue_eq_dispatch, stateM_bind_apply, dispatch_of_destroyed hdestroyed]
  rfl

/-- Otherwise a command comes to what the call on its slot comes to. -/
theorem dispatch_of_call {session ended : Session} {command : Command}
    {decode : Bytes → Ending (Except Error α)} {before after : Net ω}
    {result : Ending (Except Error (Reply α))}
    (halive : session.destroyed = false)
    (hcall : session.call network.transport command (interpret decode) before =
      ((result, ended), after)) :
    session.dispatch network.transport command decode before =
      ((result.map told, ended), after) := by
  rw [dispatch]
  simp only [halive, Bool.false_eq_true, if_false, stateM_bind_apply, hcall]
  rfl

theorem issue_of_call {session ended : Session} {command : Command} {before after : Net ω}
    {result : Ending (Except Error (Reply command.opcode.Data))}
    (halive : session.destroyed = false)
    (hcall : session.call network.transport command (interpret command.opcode.readData) before =
      ((result, ended), after)) :
    session.issue network.transport command before =
      (((result.map told).map command.opcode.report, ended), after) := by
  rw [issue_eq_dispatch, stateM_bind_apply, dispatch_of_call halive hcall]
  rfl

end Session
end MaskedList
