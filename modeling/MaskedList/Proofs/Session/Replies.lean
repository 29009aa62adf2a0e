import MaskedList.Proofs.Items.SizeCheck
import MaskedList.Proofs.Session.Statuses
import MaskedList.Proofs.Session.Transmission

/-!
# What a reply means

A reply has a value exactly if its status says so, and then the value was read from what the
channel gave: the whole frame of the command had been accepted and sent on, and after that
one frame came in with the code of success and with data that the command's own decoder
turns into this value.  Conversely, whenever that is what the log of a call holds, the reply
is a success with this value; and a whole frame with another known status is told as that
status, with no value whatever else is in it.  There is no reply at all where such a success
brings a list whose header gets round the check of its size: the decoder panics then, and so
does the call.
-/

namespace MaskedList

variable {ω : Type} {α : Type}

namespace Network

variable {network : Network ω} {channel : ChannelId} {timeout : Option Nat} {command : Command}
  {before after : Net ω} {done : List Event} {outcome : Except Error Response}

/-- What came in decides what an exchange comes to, once it is the frame of a response. -/
theorem Conducted.of_received {response : Response} (hfits : response.Fits)
    (hreceived : Log.received channel done = response.encode)
    (h : network.Conducted channel timeout command before after done outcome) :
    outcome = .ok response.received := by
  have hsome : response.encode ≠ [] := Frame.encode_ne_nil _ _
  cases h with
  | oversized => exact absurd hreceived.symm hsome
  | unsent hencode hbegins hbroken =>
    rw [hbroken.received] at hreceived
    exact absurd hreceived.symm hsome
  | sent hencode hsent hmoves hheard =>
    rw [(hsent.trans hmoves).received, List.nil_append] at hreceived
    have hdecode := Response.decode_encode_append hfits []
    rw [List.append_nil] at hdecode
    cases hheard with
    | cutShort hshort => exact absurd (hreceived ▸ Response.withinLimit_encode hfits) hshort
    | garbled hgarbled =>
      rw [hreceived, hdecode] at hgarbled
      cases hgarbled
    | understood hunderstood =>
      rw [hreceived, hdecode] at hunderstood
      rw [hunderstood]

end Network

namespace Session

variable {network : Network ω} {session ended : Session} {role : Role} {channel : ChannelId}
  {command : Command} {before after : Net ω} {done : List Event}
  {result : Ending (Except Error α)} {decode : Response → Ending (Except Error α)}

theorem Talked.of_received {response : Response} (hfits : response.Fits)
    (hreceived : Log.received channel done = response.encode)
    (h : Talked network session role channel command decode before done result ended after) :
    result = decode response.received := by
  cases h with
  | kept hconducted =>
    rw [Log.received_append, Network.received_firstLook, List.nil_append] at hreceived
    rw [hconducted.of_received hfits hreceived]
    rfl
  | givenUp hconducted hvalue =>
    rw [Log.received_cons, Log.received_append, Network.received_firstLook, List.nil_append]
      at hreceived
    simp only [Event.given, List.append_nil] at hreceived
    rw [hconducted.of_received hfits hreceived] at hvalue
    exact hvalue.symm

/-- A call that comes to no error sent the whole command and received the whole response that
decides what it comes to. -/
theorem Traced.exchanges (hplain : ∀ error, result ≠ .returned (.error error))
    (h : Traced network session command decode before done result ended after) :
    session.slot command.role ≠ .closed ∧
      ∃ channel frame response, command.encode = .ok frame ∧ response.Fits ∧
        Log.Exchanges channel frame response.encode done ∧ decode response = result := by
  cases h with
  | closed => exact absurd rfl (hplain _)
  | unopened => exact absurd rfl (hplain _)
  | held hslot htalked => exact ⟨by simp [hslot], _, htalked.exchanges hplain⟩
  | reopened hslot hdial htalked =>
    obtain ⟨frame, response, hencode, hfits, hexchanges, hvalue⟩ := htalked.exchanges hplain
    exact ⟨by simp [hslot], _, frame, response, hencode, hfits, hexchanges.after rfl rfl, hvalue⟩

/-- In a call in which the frame of a response came in, the response decides what it comes
to. -/
theorem Traced.of_received {response : Response} {other : ChannelId} (hfits : response.Fits)
    (hdecode : ∀ response error, decode response = .returned (.error error) →
      error.desynchronizes = true)
    (hreceived : Log.received other done = response.encode)
    (h : Traced network session command decode before done result ended after) :
    result = decode response.received := by
  have hsome : response.encode ≠ [] := Frame.encode_ne_nil _ _
  -- bytes come in on the channel that carries the call and on no other
  have halone : ∀ {channel : ChannelId} {rest : List Event},
      CarriedBy channel command result ended rest → Log.received other rest = response.encode →
      other = channel := by
    intro channel rest hcarried hbytes
    by_contra hne
    exact hsome (hbytes.symm.trans (hcarried.received_of_ne hne))
  cases h with
  | closed => exact absurd hreceived.symm hsome
  | unopened => exact absurd hreceived.symm hsome
  | held hslot htalked =>
    obtain rfl := halone (htalked.carriedBy hdecode hslot) hreceived
    exact htalked.of_received hfits hreceived
  | reopened hslot hdial htalked =>
    rw [Log.received_append] at hreceived
    obtain rfl := halone (htalked.carriedBy hdecode (slot_setSlot_self _ _ _)) hreceived
    exact htalked.of_received hfits hreceived

/-- No failure of a call has the status of success. -/
theorem Called.error_status_ne_ok {error : Error}
    (h : Called network session command decode before (.returned (.error error)) ended after) :
    error.status ≠ .ok := by
  have hconversed : ∀ {start : Session} {channel : ChannelId} {opened : Net ω},
      Conversed network start command.role channel command decode opened
        (.returned (.error error)) ended after → error.status ≠ .ok := by
    intro start channel opened hconversed
    cases hconversed with
    | oversized hencode =>
      obtain ⟨-, rfl⟩ := Command.encode_eq_error hencode
      simp [Error.status]
    | failed hencode hbegins hmoved hdesync =>
      rcases status_of_desynchronizes hdesync with hstatus | hstatus | hstatus <;>
        simp [hstatus]
    | answered hencode hmoved hfits hdecode hplain => exact absurd rfl (hplain error)
  cases h with
  | closed => simp [Error.status]
  | unopened => simp [Error.status]
  | held hslot htalked => exact hconversed htalked
  | reopened hslot hdial htalked => exact hconversed htalked

end Session

/-- A value is in the reply exactly if the status says so. -/
def Reply.Sound (reply : Reply α) : Prop :=
  reply.value.isSome = true ↔ reply.status = .ok

namespace Session

theorem sound_ok (value : α) : (Reply.ok value).Sound := by
  simp [Reply.Sound, Reply.ok]

theorem sound_failed {status : Status} (h : status ≠ .ok) :
    (Reply.failed status : Reply α).Sound := by
  simp [Reply.Sound, Reply.failed, h]

theorem interpret_of_ok {decode : Bytes → Ending (Except Error α)} {response : Response}
    (hok : response.status = .ok) :
    interpret decode response = (decode response.body).map fun data => data.map Reply.ok :=
  if_pos hok

theorem interpret_of_ne_ok {decode : Bytes → Ending (Except Error α)} {response : Response}
    (h : response.status ≠ .ok) :
    interpret decode response = .returned (.ok (.failed response.status)) :=
  if_neg h

theorem sound_interpret {decode : Bytes → Ending (Except Error α)} {response : Response}
    {reply : Reply α} (h : interpret decode response = .returned (.ok reply)) : reply.Sound := by
  by_cases hok : response.status = .ok
  · rw [interpret_of_ok hok] at h
    obtain ⟨data, -, hreply⟩ := Ending.map_eq_returned_iff.mp h
    cases data with
    | ok value =>
      cases hreply
      exact sound_ok value
    | error error => cases hreply
  · rw [interpret_of_ne_ok hok] at h
    cases h
    exact sound_failed hok

/-- A success was read from the data of a response that says so. -/
theorem interpret_eq_ok_iff {decode : Bytes → Ending (Except Error α)} {response : Response}
    {value : α} :
    interpret decode response = .returned (.ok (.ok value)) ↔
      response.status = .ok ∧ decode response.body = .returned (.ok value) := by
  by_cases hok : response.status = .ok
  · rw [interpret_of_ok hok]
    rcases decode response.body with (error | data) | panic <;> simp [Except.map, Reply.ok, hok]
  · rw [interpret_of_ne_ok hok]
    simp [Reply.ok, Reply.failed, hok]

/-- Only the data of a success can make its reader panic. -/
theorem interpret_eq_panicked_iff {decode : Bytes → Ending (Except Error α)}
    {response : Response} {panic : Panic} :
    interpret decode response = .panicked panic ↔
      response.status = .ok ∧ decode response.body = .panicked panic := by
  by_cases hok : response.status = .ok
  · rw [interpret_of_ok hok, Ending.map_eq_panicked_iff]
    simp [hok]
  · rw [interpret_of_ne_ok hok]
    simp [hok]

/-- What a caller is told of a call has a value exactly if its status says so. -/
theorem Called.sound_told {session ended : Session} {command : Command}
    {decode : Bytes → Ending (Except Error α)} {before after : Net ω} {network : Network ω}
    {result : Ending (Except Error (Reply α))} {reply : Reply α}
    (h : Called network session command (interpret decode) before result ended after)
    (htold : result.map told = .returned reply) : reply.Sound := by
  have hconversed : ∀ {start : Session} {channel : ChannelId} {opened : Net ω}
      {reply : Reply α}, Conversed network start command.role channel command (interpret decode)
        opened (.returned (.ok reply)) ended after → reply.Sound := by
    intro start channel opened reply hconversed
    cases hconversed with
    | answered hencode hmoved hfits hreply => exact sound_interpret hreply
  obtain ⟨outcome, rfl, rfl⟩ := Ending.map_eq_returned_iff.mp htold
  cases outcome with
  | error error => exact sound_failed h.error_status_ne_ok
  | ok reply =>
    cases h with
    | held hslot htalked => exact hconversed htalked
    | reopened hslot hdial htalked => exact hconversed htalked

/-- Only a success is told as one. -/
theorem map_told_eq_ok_iff {result : Ending (Except Error (Reply α))} {value : α} :
    result.map told = .returned (.ok value) ↔ result = .returned (.ok (.ok value)) := by
  rcases result with (error | reply) | panic <;> simp [Reply.failed, Reply.ok]

section Answers

variable {network : Network ω} {session ended : Session} {command : Command} {opcode : Opcode}
  {before after : Net ω} {done : List Event} {result : Ending (Except Error (Reply opcode.Data))}

/-- A call in which a whole frame with a known status came in comes to what this means. -/
theorem Traced.interpret_of_received {channel : ChannelId} {status : Status} {payload : Bytes}
    (hlimit : payload.length ≤ maxPayloadSize)
    (hreceived : Log.received channel done = Frame.encode status.code payload)
    (h : Traced network session command (interpret opcode.readData) before done result ended
      after) :
    result = interpret opcode.readData (⟨status, some payload⟩ : Response).received := by
  have hfits : (⟨status, some payload⟩ : Response).Fits := hlimit
  exact h.of_received hfits (fun _ _ => desynchronizes_of_interpret) hreceived

/-- What only the data of a success can mean, and is no error, is what a call comes to exactly
if the command went out and a success with such data came in. -/
theorem Traced.eq_iff {ending : Ending (Except Error (Reply opcode.Data))}
    {data : Ending (Except Error opcode.Data)}
    (hplain : ∀ error, ending ≠ .returned (.error error))
    (hmeaning : ∀ response : Response, interpret opcode.readData response = ending ↔
      response.status = .ok ∧ opcode.readData response.body = data)
    (h : Traced network session command (interpret opcode.readData) before done result ended
      after) :
    result = ending ↔ session.slot command.role ≠ .closed ∧
      ∃ channel frame payload, command.encode = .ok frame ∧ payload.length ≤ maxPayloadSize ∧
        Log.Exchanges channel frame (Frame.encode Status.ok.code payload) done ∧
        opcode.readData payload = data := by
  constructor
  · rintro rfl
    obtain ⟨hopen, channel, frame, response, hencode, hfits, hexchanges, hvalue⟩ :=
      h.exchanges hplain
    obtain ⟨hstatus, hdata⟩ := (hmeaning response).mp hvalue
    rw [Response.encode, hstatus] at hexchanges
    exact ⟨hopen, channel, frame, response.body, hencode, hfits, hexchanges, hdata⟩
  · rintro ⟨-, channel, frame, payload, -, hlimit, hexchanges, hdata⟩
    rw [h.interpret_of_received hlimit hexchanges.received_eq]
    exact (hmeaning _).mpr ⟨rfl, by rw [Response.body_received]; exact hdata⟩

end Answers

end Session

/-- Reading an answer panics exactly if it is to be a list of items and its header gets round
the check of its size. -/
theorem Opcode.readData_eq_panicked_iff {opcode : Opcode} {payload : Bytes} {panic : Panic}
    (hlimit : payload.length ≤ maxPayloadSize) :
    opcode.readData payload = .panicked panic ↔
      opcode ∈ [.range, .lpop, .rpop] ∧ ItemList.WrapsToFit payload ∧
        panic = .outsidePayload 0 := by
  cases opcode <;>
    simp [Opcode.readData, ItemList.decode_eq_panicked_iff hlimit]

namespace Session

/-- A command that returns a reply has a value in it exactly if its status is success, and never
makes a failure with that status.  The reply is a success with some value if and only if the
session was not destroyed, the slot was not closed, the whole frame of the command was accepted
and sent on, and what then came in is one whole frame with the code of success and with data that
the command's decoder turns into the value.  There is no reply, for the call panics, if and only
if the same frame has the code of success and, where a list of items is awaited, data with a
header that gets round the check of its size.  A whole frame with any other status is told as
this status, whatever data is in it. -/
theorem replies_are_sound_and_complete (network : Network ω) (session : Session)
    (command : Command) (before : Net ω) :
    let ((ending, ended), after) :=
      session.dispatch network.transport command command.opcode.readData before
    session.issue network.transport command before =
        ((ending.map command.opcode.report, ended), after) ∧
      (∀ reply, ending = .returned reply → (reply.value.isSome = true ↔ reply.status = .ok)) ∧
      (∀ status, ending = .returned (.failed status) → status ≠ .ok) ∧
      ∃ done, after.log = done ++ before.log ∧
        (∀ value, ending = .returned (.ok value) ↔
          session.destroyed = false ∧ session.slot command.role ≠ .closed ∧
            ∃ channel frame payload, command.encode = .ok frame ∧
              payload.length ≤ maxPayloadSize ∧
              Log.Exchanges channel frame (Frame.encode Status.ok.code payload) done ∧
              command.opcode.readData payload = .returned (.ok value)) ∧
        (∀ panic, ending = .panicked panic ↔
          session.destroyed = false ∧ session.slot command.role ≠ .closed ∧
            ∃ channel frame payload, command.encode = .ok frame ∧
              payload.length ≤ maxPayloadSize ∧
              Log.Exchanges channel frame (Frame.encode Status.ok.code payload) done ∧
              command.opcode ∈ [.range, .lpop, .rpop] ∧ ItemList.WrapsToFit payload ∧
              panic = .outsidePayload 0) ∧
        ∀ channel frame status payload, status ≠ .ok → payload.length ≤ maxPayloadSize →
          Log.Exchanges channel frame (Frame.encode status.code payload) done →
          ending = .returned (.failed status) := by
  cases hdestroyed : session.destroyed with
  | true =>
    rw [dispatch_of_destroyed hdestroyed, issue_of_destroyed hdestroyed]
    refine ⟨rfl, ?_, ?_, [], rfl, ?_, ?_, ?_⟩
    · rintro reply ⟨⟩
      exact sound_failed (by simp)
    · rintro status ⟨⟩
      simp
    · simp [Reply.failed, Reply.ok]
    · simp
    · intro channel frame status payload _ _ hexchanges
      exact absurd hexchanges.received_eq.symm (Frame.encode_ne_nil _ _)
  | false =>
    rcases hcall : session.call network.transport command (interpret command.opcode.readData)
      before with ⟨⟨result, ended⟩, after⟩
    obtain ⟨done, htraced⟩ := traced_call network hcall
    have hcalled := called_call network (fun _ _ => desynchronizes_of_interpret) hcall
    rw [dispatch_of_call hdestroyed hcall, issue_of_call hdestroyed hcall]
    refine ⟨rfl, fun reply => hcalled.sound_told, ?_, done, htraced.log_eq, ?_, ?_, ?_⟩
    · rintro status hfailed rfl
      have hsound := hcalled.sound_told hfailed
      simp [Reply.Sound, Reply.failed] at hsound
    · intro value
      rw [map_told_eq_ok_iff, htraced.eq_iff (by simp) fun _ => interpret_eq_ok_iff]
      simp only [true_and]
    · intro panic
      rw [Ending.map_eq_panicked_iff,
        htraced.eq_iff (by simp) fun _ => interpret_eq_panicked_iff]
      simp only [true_and]
      refine and_congr_right fun _ => exists₃_congr fun channel frame payload => ?_
      refine and_congr_right fun _ => and_congr_right fun hlimit => and_congr_right fun _ => ?_
      exact Opcode.readData_eq_panicked_iff hlimit
    · intro channel frame status payload hstatus hlimit hexchanges
      rw [htraced.interpret_of_received hlimit hexchanges.received_eq,
        interpret_of_ne_ok hstatus]
      rfl

/-- A script whose store finds three matches, and one of them tagged, and brings its answer in two
pieces.  Its next answer has a header that gets round the check of its size. -/
def counting : ScriptedWorld where
  openings :=
    [.accept { reads := [.data [0, 0, 0], .data [0, 8, 0, 0, 0, 3, 0, 0, 0, 1],
        .data foolingFrame] } false,
      .accept {} false]

/-- A session with that store. -/
def counter : Session where
  config := {}
  read := .connected ⟨11001, 0⟩
  write := .connected ⟨11002, 0⟩

/-- The network on which that session has just been connected. -/
def counterNet : Net ScriptedWorld :=
  (Session.connect scriptedNetwork.transport {} (Net.fresh counting)).2

/-- The network after that session has asked for the number of matches. -/
def countedNet : Net ScriptedWorld :=
  (counter.dispatch scriptedNetwork.transport (.count "log" "") Opcode.count.readData
    counterNet).2

/-- What the store found is told, for it came in behind the command.  Of the list that is asked
for next nothing is told, and the channel stays as it is. -/
theorem replies_are_sound_and_complete_count :
    Reached scriptedNetwork {} counting [] counter counterNet ∧
      counter.dispatch scriptedNetwork.transport (.count "log" "") Opcode.count.readData
        counterNet = ((.returned (.ok ⟨3, 1⟩), counter), countedNet) ∧
      (∃ done, countedNet.log = done ++ counterNet.log ∧
        ∃ channel frame payload, (Command.count "log" "").encode = .ok frame ∧
          Log.Exchanges channel frame (Frame.encode Status.ok.code payload) done ∧
          MatchCount.decode payload = .ok ⟨3, 1⟩) ∧
      ∃ after done, counter.dispatch scriptedNetwork.transport (.range "log" .all "" 0 9)
          Opcode.range.readData countedNet = ((.panicked (.outsidePayload 0), counter), after) ∧
        after.log = done ++ countedNet.log ∧
        ∃ channel frame payload, (Command.range "log" .all "" 0 9).encode = .ok frame ∧
          Log.Exchanges channel frame (Frame.encode Status.ok.code payload) done ∧
          ItemList.WrapsToFit payload := by
  have hconnect : Session.connect scriptedNetwork.transport {} (Net.fresh counting) =
      (.ok counter, counterNet) :=
    Prod.ext (by decide +kernel) rfl
  have hcounted : (counter.dispatch scriptedNetwork.transport (.count "log" "")
      Opcode.count.readData counterNet).1 = (.returned (.ok ⟨3, 1⟩), counter) := by
    decide +kernel
  have hpanicked : (counter.dispatch scriptedNetwork.transport (.range "log" .all "" 0 9)
      Opcode.range.readData countedNet).1 = (.panicked (.outsidePayload 0), counter) := by
    decide +kernel
  obtain ⟨-, -, -, done, hlog, hcount, -⟩ :=
    replies_are_sound_and_complete scriptedNetwork counter (.count "log" "") counterNet
  obtain ⟨-, -, -, later, hlater, -, hpanic, -⟩ :=
    replies_are_sound_and_complete scriptedNetwork counter (.range "log" .all "" 0 9) countedNet
  obtain ⟨-, -, channel, frame, payload, hencode, -, hexchanged, hdata⟩ :=
    (hcount ⟨3, 1⟩).mp (congrArg Prod.fst hcounted)
  obtain ⟨-, -, other, sent, answer, hsent, -, hanswered, -, hwraps, -⟩ :=
    (hpanic (.outsidePayload 0)).mp (congrArg Prod.fst hpanicked)
  have hvalue : Ending.returned (MatchCount.decode payload) = .returned (.ok ⟨3, 1⟩) := hdata
  exact ⟨.connected hconnect, Prod.ext hcounted rfl,
    ⟨done, hlog, channel, frame, payload, hencode, hexchanged, Ending.returned.inj hvalue⟩,
    _, later, Prod.ext hpanicked rfl, hlater, other, sent, answer, hsent, hanswered, hwraps⟩

end Session
end MaskedList
