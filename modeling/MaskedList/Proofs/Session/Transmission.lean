import MaskedList.Proofs.Session.Pairing
import MaskedList.Proofs.Session.Separation

/-!
# A command is sent at most once

Whatever a call does is done on one channel, the one in its slot or a new one in place of
one that was discarded, and what that channel accepts is the beginning of the command's
frame.  After an answer, also one that makes its reader panic, and after a refusal to send a
command that is too large, the channel stays in the slot; after any other failure it is
closed, once, and the slot is discarded.  So over a whole run each step has at most one part
in the bytes that were sent, and no command is sent again, be it on the same channel or on
another one.
-/

namespace MaskedList

variable {ω : Type} {α : Type}

/-- The frame was accepted as a whole and sent on, and only then the answer came in, of which
nothing is missing and behind which nothing was read. -/
def Log.Exchanges (channel : ChannelId) (frame answer : Bytes) (log : List Event) : Prop :=
  ∃ earlier later, log = later ++ .flush channel (.ok ()) :: earlier ∧
    Log.sent channel earlier = frame ∧ Log.received channel earlier = [] ∧
    Log.sent channel later = [] ∧ Log.received channel later = answer

namespace Log.Exchanges

variable {channel : ChannelId} {frame answer : Bytes} {log first : List Event}

/-- What came before may have moved nothing on the channel. -/
theorem after (h : Log.Exchanges channel frame answer log) (hsent : Log.sent channel first = [])
    (hreceived : Log.received channel first = []) :
    Log.Exchanges channel frame answer (log ++ first) := by
  obtain ⟨earlier, later, rfl, hframe, hnothing, hquiet, hanswer⟩ := h
  refine ⟨earlier ++ first, later, by simp, ?_, ?_, hquiet, hanswer⟩
  · rw [Log.sent_append, hsent, List.nil_append, hframe]
  · rw [Log.received_append, hreceived, List.nil_append, hnothing]

theorem received_eq (h : Log.Exchanges channel frame answer log) :
    Log.received channel log = answer := by
  obtain ⟨earlier, later, rfl, -, hnothing, -, hanswer⟩ := h
  rw [Log.received_append, Log.received_cons, hnothing, hanswer]
  rfl

end Log.Exchanges

namespace Network

variable {network : Network ω} {timeout : Option Nat} {net : Net ω}

theorem serves_firstLook (channel : ChannelId) :
    ∀ event ∈ network.firstLook timeout net, event.Serves channel := by
  cases timeout <;> simp [firstLook, Event.Serves]

theorem target_firstLook : ∀ event ∈ network.firstLook timeout net, event.target? = none := by
  cases timeout <;> simp [firstLook, Event.target?]

@[simp]
theorem sent_firstLook (channel : ChannelId) :
    Log.sent channel (network.firstLook timeout net) = [] := by
  cases timeout <;> rfl

@[simp]
theorem received_firstLook (channel : ChannelId) :
    Log.received channel (network.firstLook timeout net) = [] := by
  cases timeout <;> rfl

namespace Conducted

variable {channel : ChannelId} {command : Command} {before after : Net ω} {done : List Event}
  {outcome : Except Error Response}

/-- The channel accepts the beginning of the frame, if there is one. -/
theorem sent_prefix (h : network.Conducted channel timeout command before after done outcome) :
    Log.sent channel done = [] ∨
      ∃ frame, command.encode = .ok frame ∧ Log.sent channel done <+: frame := by
  cases h with
  | oversized => exact Or.inl rfl
  | unsent hencode hbegins hbroken => exact Or.inr ⟨_, hencode, hbroken.sent ▸ hbegins⟩
  | sent hencode hsent hreceived hheard =>
    have hwhole := (hsent.trans hreceived).sent
    rw [List.append_nil] at hwhole
    exact Or.inr ⟨_, hencode, hwhole ▸ List.prefix_rfl⟩

/-- An exchange that comes to a response sent the whole command and then received the whole
response. -/
theorem exchanges {response : Response}
    (h : network.Conducted channel timeout command before after done (.ok response)) :
    response.Fits ∧ ∃ frame, command.encode = .ok frame ∧
      Log.Exchanges channel frame response.encode done := by
  cases h with
  | @sent frame received failure _ flushed earlier later hencode hsent hreceived hheard =>
    cases hheard with
    | understood hdecode hfits hbytes =>
      have hframe := hsent.sent
      have hnothing := hsent.received
      rw [Log.sent_cons] at hframe
      rw [Log.received_cons] at hnothing
      refine ⟨hfits, frame, hencode, earlier, later, rfl, ?_, ?_, hreceived.sent,
        hreceived.received.trans hbytes⟩
      · simpa [Event.accepted] using hframe
      · simpa [Event.given] using hnothing

theorem serves (h : network.Conducted channel timeout command before after done outcome) :
    ∀ event ∈ done ++ network.firstLook timeout before, event.Serves channel := by
  obtain ⟨_, _, _, hconducts, -⟩ := h.conducts
  intro event hmem
  exact (List.mem_append.mp hmem).elim (hconducts.work.serves event)
    (serves_firstLook channel event)

/-- What an exchange and the reading of its answer fail with leaves the channel untrusted,
unless nothing was done on it. -/
theorem desynchronizes_or_oversized
    (h : network.Conducted channel timeout command before after done outcome)
    {decode : Response → Ending (Except Error α)} (hdecode : ∀ response error,
      decode response = .returned (.error error) → error.desynchronizes = true) {error : Error}
    (herror : Session.decoded decode outcome = .returned (.error error)) :
    error.desynchronizes = true ∨ command.encode = .error error ∧ done = [] := by
  cases h with
  | oversized hencode =>
    cases herror
    exact Or.inr ⟨hencode, rfl⟩
  | unsent hencode hbegins hbroken =>
    cases herror
    exact Or.inl (by simp)
  | sent hencode hsent hreceived hheard =>
    left
    cases hheard with
    | cutShort hshort =>
      cases herror
      simp
    | garbled hgarbled =>
      obtain ⟨fault, rfl⟩ := Response.decode_eq_error hgarbled
      cases herror
      rfl
    | understood => exact hdecode _ _ herror

end Conducted
end Network

theorem Log.closed_of_serves {log : List Event} {channel : ChannelId}
    (h : ∀ event ∈ log, event.Serves channel) : Log.closed log = [] :=
  List.filterMap_eq_nil_iff.mpr fun event hmem => (h event hmem).closed

/-- A call that is carried by one channel: all that it does is done there, and the channel
stays in its slot or is closed once. -/
structure CarriedBy (channel : ChannelId) (command : Command)
    (result : Ending (Except Error α)) (ended : Session) (done : List Event) : Prop where
  alone : ∀ event ∈ done, event.Serves channel ∨ event.closed? = some channel
  begins : Log.sent channel done = [] ∨
    ∃ frame, command.encode = .ok frame ∧ Log.sent channel done <+: frame
  /-- A command is refused for its size before anything is done on the channel. -/
  oversized : ∀ size limit, result = .returned (.error (.payloadTooLarge size limit)) →
    command.encode = .error (.payloadTooLarge size limit) ∧ ∀ event ∈ done, event.target? = none
  kept : (∃ value, result = .returned (.ok value)) ∨
      (∃ size limit, result = .returned (.error (.payloadTooLarge size limit))) →
    ended.slot command.role = .connected channel ∧ Log.closed done = []
  givenUp : ∀ error, result = .returned (.error error) →
    (∀ size limit, error ≠ .payloadTooLarge size limit) →
    ended.slot command.role = .discarded ∧ Log.closed done = [channel]
  /-- Reading an answer that came in whole panics, and the channel is not given up. -/
  panicked : ∀ panic, result = .panicked panic →
    ended.slot command.role = .connected channel ∧ Log.closed done = [] ∧
      ∃ (frame : Bytes) (response : Response), command.encode = .ok frame ∧ response.Fits ∧
        Log.Exchanges channel frame response.encode done

namespace Session

variable {network : Network ω} {session ended : Session} {channel : ChannelId}
  {command : Command} {before after : Net ω} {done : List Event}
  {result : Ending (Except Error α)} {decode : Response → Ending (Except Error α)}

/-- What comes to no error is what a response means that came in whole behind the command. -/
theorem Talked.exchanges (hplain : ∀ error, result ≠ .returned (.error error))
    (h : Talked network session command.role channel command decode before done result ended
      after) :
    ∃ frame response, command.encode = .ok frame ∧ response.Fits ∧
      Log.Exchanges channel frame response.encode done ∧ decode response = result := by
  cases h with
  | @kept _ outcome _ hconducted =>
    cases outcome with
    | error error => exact absurd rfl (hplain error)
    | ok response =>
      obtain ⟨hfits, frame, hencode, hexchanges⟩ := hconducted.exchanges
      exact ⟨frame, response, hencode, hfits,
        hexchanges.after (Network.sent_firstLook channel) (Network.received_firstLook channel), rfl⟩
  | @givenUp _ _ error => exact absurd rfl (hplain error)

theorem Talked.carriedBy (hdecode : ∀ response error, decode response = .returned (.error error) →
      error.desynchronizes = true)
    (hslot : session.slot command.role = .connected channel)
    (h : Talked network session command.role channel command decode before done result ended
      after) : CarriedBy channel command result ended done := by
  cases h with
  | @kept exchange outcome _ hconducted hharmless =>
    have hserves := hconducted.serves
    -- a failure that leaves the channel in use is the refusal of a command
    have hrefused : ∀ error, decoded decode outcome = .returned (.error error) →
        command.encode = .error error ∧ exchange = [] := by
      intro error herror
      rcases hconducted.desynchronizes_or_oversized hdecode herror with hdesync | hrefused
      · rw [hharmless error herror] at hdesync
        cases hdesync
      · exact hrefused
    refine ⟨fun event hmem => Or.inl (hserves event hmem), ?_, ?_, ?_, ?_, ?_⟩
    · rw [Log.sent_append, Network.sent_firstLook, List.nil_append]
      exact hconducted.sent_prefix
    · intro size limit hresult
      obtain ⟨hencode, rfl⟩ := hrefused _ hresult
      exact ⟨hencode, Network.target_firstLook⟩
    · intro _
      exact ⟨hslot, Log.closed_of_serves hserves⟩
    · intro error herror hother
      obtain ⟨-, rfl⟩ := Command.encode_eq_error (hrefused error herror).1
      exact absurd rfl (hother _ _)
    · -- only the reading of a response can panic, and then there is one
      intro panic hpanic
      have hplain : ∀ error, decoded decode outcome ≠ .returned (.error error) := by simp [hpanic]
      obtain ⟨frame, response, hencode, hfits, hexchanges, -⟩ :=
        Talked.exchanges hplain (.kept hconducted hharmless)
      exact ⟨hslot, Log.closed_of_serves hserves, frame, response, hencode, hfits, hexchanges⟩
  | @givenUp exchange outcome error last hconducted hvalue hdesync =>
    have hserves := hconducted.serves
    refine ⟨?_, ?_, ?_, ?_, ?_, ?_⟩
    · intro event hmem
      rcases List.mem_cons.mp hmem with rfl | hmem
      · exact Or.inr rfl
      · exact Or.inl (hserves event hmem)
    · rw [Log.sent_cons, Log.sent_append, Network.sent_firstLook, List.nil_append]
      simpa only [Event.accepted, List.append_nil] using hconducted.sent_prefix
    · rintro size limit ⟨⟩
      cases hdesync
    · rintro (⟨value, ⟨⟩⟩ | ⟨size, limit, ⟨⟩⟩)
      cases hdesync
    · intro _ _ _
      refine ⟨slot_setSlot_self session command.role .discarded, ?_⟩
      show channel :: Log.closed _ = [channel]
      rw [Log.closed_of_serves hserves]
    · rintro panic ⟨⟩

/-- Where a call leaves its slot and its channels, by what it found there. -/
def Transmits (session : Session) (command : Command) (result : Ending (Except Error α))
    (ended : Session) (done : List Event) : Prop :=
  match session.slot command.role with
  | .closed => done = [] ∧ result = .returned (.error .closedSession) ∧ ended = session
  | .connected channel => CarriedBy channel command result ended done
  | .discarded =>
    (∃ error, done = [session.dialed command.role (.error error)] ∧
      result = .returned (.error (.connectionLost error.message)) ∧
      ended.slot command.role = .discarded) ∨
    ∃ channel rest, done = rest ++ [session.dialed command.role (.ok channel)] ∧
      CarriedBy channel command result ended rest

theorem Traced.transmits (hdecode : ∀ response error, decode response = .returned (.error error) →
      error.desynchronizes = true)
    (h : Traced network session command decode before done result ended after) :
    Transmits session command result ended done := by
  unfold Transmits
  cases h with
  | closed hslot =>
    rw [hslot]
    exact ⟨rfl, rfl, rfl⟩
  | unopened hslot hdial =>
    simp only [hslot]
    exact Or.inl ⟨_, rfl, rfl, by rw [slot_noting, hslot]⟩
  | held hslot htalked =>
    simp only [hslot]
    exact htalked.carriedBy hdecode hslot
  | reopened hslot hdial htalked =>
    simp only [hslot]
    exact Or.inr ⟨_, _, rfl, htalked.carriedBy hdecode (slot_setSlot_self _ _ _)⟩

end Session

/-! ## Runs -/

/-- Bytes that a channel accepted in one step. -/
structure Transmission where
  channel : ChannelId
  bytes : Bytes

/-- The bytes that were sent in a step, if any: the beginning of the frame of the step's own
command, on the channel of its slot or on a new one in place of a discarded one. -/
def Step.Sends : Step → Option Transmission → Prop
  | _, none => True
  | ⟨.send command, _, before, _⟩, some part =>
    (before.slot command.role = .connected part.channel ∨
      before.slot command.role = .discarded) ∧
    ∃ frame, command.encode = .ok frame ∧ part.bytes <+: frame
  | _, some _ => False

/-- The bytes that a channel accepted in these parts. -/
def sentIn (parts : List (Option Transmission)) (channel : ChannelId) : Bytes :=
  parts.flatMap fun part =>
    match part with
    | some part => if part.channel = channel then part.bytes else []
    | none => []

@[simp]
theorem sentIn_append (parts more : List (Option Transmission)) (channel : ChannelId) :
    sentIn (parts ++ more) channel = sentIn parts channel ++ sentIn more channel :=
  List.flatMap_append

theorem sentIn_singleton (channel other : ChannelId) (bytes : Bytes) :
    sentIn [some ⟨channel, bytes⟩] other = if channel = other then bytes else [] := by
  simp [sentIn]

section Steps

variable {network : Network ω} {session ended : Session} {channel : ChannelId}
  {command : Command} {before after : Net ω} {done : List Event}
  {result : Ending (Except Error α)}

/-- Nothing is done on any other channel. -/
theorem CarriedBy.target_ne (h : CarriedBy channel command result ended done)
    {other : ChannelId} (hne : other ≠ channel) : ∀ event ∈ done, event.target? ≠ some other := by
  intro event hmem
  rcases h.alone event hmem with hserves | hclosed
  · exact hserves.target_ne hne
  · cases event <;> simp_all [Event.closed?, Event.target?, eq_comm]

theorem CarriedBy.sent_of_ne (h : CarriedBy channel command result ended done)
    {other : ChannelId} (hne : other ≠ channel) : Log.sent other done = [] :=
  List.flatMap_eq_nil_iff.mpr fun event hmem =>
    Event.accepted_of_target_ne (h.target_ne hne event (List.mem_reverse.mp hmem))

theorem CarriedBy.received_of_ne (h : CarriedBy channel command result ended done)
    {other : ChannelId} (hne : other ≠ channel) : Log.received other done = [] :=
  List.flatMap_eq_nil_iff.mpr fun event hmem =>
    Event.given_of_target_ne (h.target_ne hne event (List.mem_reverse.mp hmem))

/-- What is carried by a channel is the part of its step. -/
theorem CarriedBy.exists_part (h : CarriedBy channel command result ended done)
    {outcome : Ending command.opcode.Outcome}
    (hslot : session.slot command.role = .connected channel ∨
      session.slot command.role = .discarded) :
    ∃ part, Step.Sends ⟨.send command, outcome, session, ended⟩ part ∧
      ∀ other, Log.sent other done = sentIn [part] other := by
  rcases h.begins with hnothing | ⟨frame, hframe, hbegins⟩
  · refine ⟨none, trivial, ?_⟩
    intro other
    by_cases hother : other = channel
    · rw [hother, hnothing]
      rfl
    · exact h.sent_of_ne hother
  · refine ⟨some ⟨channel, Log.sent channel done⟩, ⟨hslot, frame, hframe, hbegins⟩, ?_⟩
    intro other
    rw [sentIn_singleton]
    split
    · rename_i hsame
      rw [hsame]
    · rename_i hne
      exact h.sent_of_ne fun hsame => hne hsame.symm

/-- Sending a command has one part in the bytes that are sent, or none. -/
theorem Session.sends_issue {outcome : Ending command.opcode.Outcome}
    (hrun : session.issue network.transport command before = ((outcome, ended), after)) :
    ∃ part, Step.Sends ⟨.send command, outcome, session, ended⟩ part ∧
      ∀ other, Log.sent other after.log = Log.sent other before.log ++ sentIn [part] other := by
  have hnothing : ∀ {done : List Event}, after.log = done ++ before.log →
      (∀ other, Log.sent other done = []) →
      ∀ other, Log.sent other after.log = Log.sent other before.log ++ sentIn [none] other := by
    intro done hlog hnone other
    rw [hlog, Log.sent_append, hnone]
    rfl
  cases hdestroyed : session.destroyed with
  | true =>
    rw [issue_of_destroyed hdestroyed] at hrun
    cases hrun
    exact ⟨none, trivial, hnothing (List.nil_append _).symm fun _ => rfl⟩
  | false =>
    rcases hcall : session.call network.transport command (interpret command.opcode.readData)
      before with ⟨⟨result, called⟩, last⟩
    rw [issue_of_call hdestroyed hcall] at hrun
    cases hrun
    obtain ⟨done, htraced⟩ := traced_call network hcall
    have htransmits := htraced.transmits fun _ _ => desynchronizes_of_interpret
    have hlog := htraced.log_eq
    unfold Transmits at htransmits
    split at htransmits
    · obtain ⟨rfl, -, -⟩ := htransmits
      exact ⟨none, trivial, hnothing hlog fun _ => rfl⟩
    · rename_i channel hslot
      obtain ⟨part, hsends, hpart⟩ := htransmits.exists_part (Or.inl hslot)
      exact ⟨part, hsends, fun other => by rw [hlog, Log.sent_append, hpart]⟩
    · rename_i hslot
      obtain ⟨error, rfl, -, -⟩ | ⟨channel, rest, rfl, hcarried⟩ := htransmits
      · exact ⟨none, trivial, hnothing hlog fun _ => rfl⟩
      · obtain ⟨part, hsends, hpart⟩ := hcarried.exists_part (Or.inr hslot)
        refine ⟨part, hsends, ?_⟩
        intro other
        rw [hlog, Log.sent_append, Log.sent_append, hpart]
        rfl

end Steps

section Runs

variable {network : Network ω} {config : Config} {world : ω} {run : List Step}
  {session : Session} {net : Net ω}

/-- Every byte that was sent in a run belongs to the part of one step. -/
theorem Reached.exists_parts (h : Reached network config world run session net) :
    ∃ parts, List.Forall₂ Step.Sends run parts ∧
      ∀ channel, Log.sent channel net.log = sentIn parts channel := by
  induction h with
  | connected hconnect =>
    exact ⟨[], List.Forall₂.nil, fun channel => (moved_nothing_connect hconnect channel).1⟩
  | @step run session ended net last request answer hreached hperform ih =>
    obtain ⟨parts, hparts, hsent⟩ := ih
    have hnext : ∃ part, Step.Sends ⟨request, answer, session, ended⟩ part ∧
        ∀ other, Log.sent other last.log = Log.sent other net.log ++ sentIn [part] other := by
      cases request with
      | send command => exact Session.sends_issue hperform
      | _ =>
        have hquiet := (Session.handles_perform (by simp) hperform).quiet hreached.holding
        refine ⟨none, trivial, ?_⟩
        intro other
        rw [hquiet.sent other]
        exact (List.append_nil _).symm
    obtain ⟨part, hsends, hpart⟩ := hnext
    refine ⟨parts ++ [part],
      List.rel_append hparts (List.Forall₂.cons hsends List.Forall₂.nil), ?_⟩
    intro channel
    rw [hpart, hsent, sentIn_append]

end Runs

namespace Session

/-- A call on a closed slot does nothing.  A call on a discarded slot opens a channel, once, or
fails and leaves the slot as it was.  Otherwise the call is carried by one channel: it accepts
the beginning of the command's frame, and stays in the slot after an answer and after a refusal
for the command's size, before which nothing was done on it; after any other failure it is
closed once and the slot is discarded.  If the call panics, the whole frame went out and a whole
response came in, and the channel stays in the slot.  So in a run each step has at most one part
in the bytes that channels accepted, and the parts in their order are all of them. -/
theorem commands_are_sent_at_most_once (network : Network ω) :
    (∀ (session : Session) (command : Command) (opcode : Opcode) (before : Net ω),
      let ((result, ended), after) :=
        session.call network.transport command (interpret opcode.readData) before
      ∃ done, after.log = done ++ before.log ∧ Transmits session command result ended done ∧
        ended.slot command.role.other = session.slot command.role.other) ∧
    ∀ config world run session net, Reached network config world run session net →
      ∃ parts, List.Forall₂ Step.Sends run parts ∧
        ∀ channel, Log.sent channel net.log = sentIn parts channel := by
  refine ⟨?_, fun _ _ _ _ _ hreached => hreached.exists_parts⟩
  intro session command opcode before
  rcases hrun : session.call network.transport command (interpret opcode.readData) before with
    ⟨⟨result, ended⟩, after⟩
  obtain ⟨done, htraced⟩ := traced_call network hrun
  have hcalled := called_call network (fun _ _ => desynchronizes_of_interpret) hrun
  exact ⟨done, htraced.log_eq, htraced.transmits fun _ _ => desynchronizes_of_interpret,
    hcalled.slot_of_ne command.role.other_ne⟩

/-- The range whose answer makes its reader panic is not sent again, and leaves its channel in use;
nor is the command sent again whose answer broke off, and the next one goes out on another
channel. -/
theorem commands_are_sent_at_most_once_after_fault :
    ∃ run session net, Reached scriptedNetwork {} foolingAndBreakingOff run session net ∧
      run.map (fun step => step.after.slot .read) =
        [.connected ⟨11001, 0⟩, .discarded, .connected ⟨11001, 1⟩] ∧
      Log.closed net.log = [⟨11001, 0⟩] ∧
      Log.sent ⟨11001, 0⟩ net.log =
        [5, 0, 0, 0, 20, 0, 0, 0, 3, 108, 111, 103, 3, 0, 0, 0, 0, 0, 0, 0, 0, 0, 0, 0, 9] ++
          [1, 0, 0, 0, 0] ∧
      Log.sent ⟨11001, 1⟩ net.log = [1, 0, 0, 0, 0] ∧
      ∃ parts, List.Forall₂ Step.Sends run parts ∧ parts.length = 3 ∧
        ∀ channel, Log.sent channel net.log = sentIn parts channel := by
  have hreached := (((Reached.connected connect_foolingAndBreakingOff).perform
    (.send (.range "log" .all "" 0 9))).perform (.send .ping)).perform (.send .ping)
  obtain ⟨parts, hparts, hsent⟩ :=
    (commands_are_sent_at_most_once scriptedNetwork).2 _ _ _ _ _ hreached
  exact ⟨_, _, _, hreached, by decide +kernel, by decide +kernel, by decide +kernel,
    by decide +kernel, parts, hparts, hparts.length_eq.symm, hsent⟩

end Session
end MaskedList
