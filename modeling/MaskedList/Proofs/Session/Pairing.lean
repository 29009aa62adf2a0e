import Mathlib.Data.List.Forall2
import MaskedList.Proofs.Session.Ownership

/-!
# Requests and answers stay in step

A command is completed on a channel if the channel is still in its slot when the
call is over, be it that the call returned or that it panicked.  The invariant
`Paired` says of every channel that the frames of the commands completed on it are
the beginning of what it accepted, and as many whole response frames the beginning
of what it gave, each reply or panic made of the response in the same place; while
a slot holds the channel nothing else has been moved on it.  A call that stops
anywhere in between leaves its slot, so the bytes that it leaves over can never be
taken for the answer to another command.
-/

namespace MaskedList

/-- A command whose call left its channel in the slot, with what the caller got: an outcome,
or a panic. -/
structure Completed where
  command : Command
  outcome : Ending command.opcode.Outcome

/-- What the caller got is what this response means to the command, or else reading this
response panicked. -/
def Completed.AnsweredBy (completed : Completed) (response : Response) : Prop :=
  response.Fits ∧ ∃ ending : Ending (Reply completed.command.opcode.Data),
    Session.interpret completed.command.opcode.readData response = ending.map Except.ok ∧
      completed.outcome = ending.map completed.command.opcode.report

/-- What the caller got comes of the response in this frame. -/
def Completed.AnsweredIn (completed : Completed) (frame : Bytes) : Prop :=
  ∃ response : Response, frame = response.encode ∧ completed.AnsweredBy response

/-- The command that a step completed on a channel: it was sent to a session that was not
destroyed, it may travel, and the channel is in its slot afterwards. -/
def Step.completed? (channel : ChannelId) : Step → Option Completed
  | ⟨.send command, outcome, before, after⟩ =>
    if before.destroyed = false ∧ command.payload.length ≤ maxPayloadSize ∧
        after.slot command.role = .connected channel then
      some ⟨command, outcome⟩
    else none
  | _ => none

/-- The commands that a run completed on a channel, in the order of the calls. -/
def completedOn (channel : ChannelId) (run : List Step) : List Completed :=
  run.filterMap (Step.completed? channel)

/-- The bytes sent are the frames of the commands, and the bytes received are the frames of
as many responses, which answer the commands one by one. -/
def Dialogue (done : List Completed) (sent received : Bytes) : Prop :=
  ∃ (frames : List Bytes) (responses : List Response),
    done.map (fun completed => completed.command.encode) = frames.map Except.ok ∧
      sent = frames.flatten ∧ received = responses.flatMap Response.encode ∧
      List.Forall₂ Completed.AnsweredBy done responses

theorem dialogue_nil : Dialogue [] [] [] :=
  ⟨[], [], rfl, rfl, rfl, List.Forall₂.nil⟩

/-- A dialogue goes on with one frame in each direction. -/
theorem Dialogue.snoc {done : List Completed} {sent received frame : Bytes}
    {completed : Completed} {response : Response} (h : Dialogue done sent received)
    (hframe : completed.command.encode = .ok frame)
    (hresponse : completed.AnsweredBy response) :
    Dialogue (done ++ [completed]) (sent ++ frame) (received ++ response.encode) := by
  obtain ⟨frames, responses, hframes, rfl, rfl, hanswered⟩ := h
  refine ⟨frames ++ [frame], responses ++ [response], ?_, by simp, by simp, ?_⟩
  · simp [hframes, hframe]
  · exact List.rel_append hanswered (List.Forall₂.cons hresponse List.Forall₂.nil)

variable {ω : Type}

/-- Requests and answers are in step on every channel. -/
structure Paired (done : ChannelId → List Completed) (session : Session) (net : Net ω) :
    Prop where
  holding : net.Holding session.channels
  unopened : ∀ channel, channel ∉ Log.opened net.log → done channel = []
  begun : ∀ channel, ∃ sent received, Dialogue (done channel) sent received ∧
    sent <+: Log.sent channel net.log ∧ received <+: Log.received channel net.log
  /-- Nothing is left over on a channel in use. -/
  exact : ∀ role channel, session.slot role = .connected channel →
    Dialogue (done channel) (Log.sent channel net.log) (Log.received channel net.log) ∧
      ∀ completed ∈ done channel, completed.command.role = role

/-- What happened moved no bytes and put no old channel into a slot. -/
structure Quiet (before after : Session × Net ω) : Prop where
  sent : ∀ channel, Log.sent channel after.2.log = Log.sent channel before.2.log
  received : ∀ channel, Log.received channel after.2.log = Log.received channel before.2.log
  opened : ∀ channel, channel ∈ Log.opened before.2.log → channel ∈ Log.opened after.2.log
  slots : ∀ role channel, after.1.slot role = .connected channel →
    before.1.slot role = .connected channel ∨ channel ∉ Log.opened before.2.log

namespace Quiet

variable {first second third : Session × Net ω}

theorem refl (state : Session × Net ω) : Quiet state state :=
  ⟨fun _ => rfl, fun _ => rfl, fun _ h => h, fun _ _ h => Or.inl h⟩

theorem trans (hfirst : Quiet first second) (hsecond : Quiet second third) :
    Quiet first third := by
  refine ⟨fun channel => (hsecond.sent channel).trans (hfirst.sent channel),
    fun channel => (hsecond.received channel).trans (hfirst.received channel),
    fun channel hmem => hsecond.opened channel (hfirst.opened channel hmem), ?_⟩
  intro role channel hslot
  rcases hsecond.slots role channel hslot with hslot | hfresh
  · exact hfirst.slots role channel hslot
  · exact Or.inr fun hmem => hfresh (hfirst.opened channel hmem)

/-- An operation that moves no bytes and leaves the slots. -/
theorem of_event {session : Session} {before after : Net ω} {event : Event}
    (hlog : after.log = event :: before.log) (haccepted : ∀ channel, event.accepted channel = [])
    (hgiven : ∀ channel, event.given channel = []) :
    Quiet (session, before) (session, after) := by
  refine ⟨?_, ?_, ?_, fun _ _ h => Or.inl h⟩
  · intro channel
    rw [hlog, Log.sent_cons, haccepted, List.append_nil]
  · intro channel
    rw [hlog, Log.received_cons, hgiven, List.append_nil]
  · intro channel hmem
    rw [hlog]
    exact Log.mem_opened_cons event before.log channel hmem

/-- Work on a channel that moves no bytes in the end. -/
theorem of_moved {session : Session} {channel : ChannelId} {before after : Net ω}
    (h : Moved channel [] [] before after) : Quiet (session, before) (session, after) := by
  refine ⟨?_, ?_, ?_, fun _ _ h => Or.inl h⟩
  · intro other
    by_cases hother : other = channel
    · rw [hother, h.sent_eq, List.append_nil]
    · exact (h.elsewhere hother).1
  · intro other
    by_cases hother : other = channel
    · rw [hother, h.received_eq, List.append_nil]
    · exact (h.elsewhere hother).2
  · intro other hmem
    obtain ⟨-, done, hlog, -⟩ := h
    rw [hlog, Log.opened, List.filterMap_append]
    exact List.mem_append_right _ hmem

/-- A change of one slot that puts no channel there, or a new one. -/
theorem of_setSlot {session : Session} {role : Role} {slot : Slot} {net : Net ω}
    (hslot : ∀ channel, slot = .connected channel → channel ∉ Log.opened net.log) :
    Quiet (session, net) (session.setSlot role slot, net) := by
  refine ⟨fun _ => rfl, fun _ => rfl, fun _ h => h, ?_⟩
  intro candidate channel hconnected
  by_cases hrole : candidate = role
  · subst hrole
    rw [Session.slot_setSlot_self] at hconnected
    exact Or.inr (hslot channel hconnected)
  · rw [Session.slot_setSlot_of_ne hrole] at hconnected
    exact Or.inl hconnected

theorem of_noting (session : Session) (destroyed : Bool) (net : Net ω) :
    Quiet (session, net) (session.noting destroyed, net) :=
  ⟨fun _ => rfl, fun _ => rfl, fun _ h => h, fun role _ h => Or.inl (by simpa using h)⟩

end Quiet

variable {network : Network ω}

/-- What changes a slot is quiet. -/
theorem Session.Handled.quiet {before after : Session × Net ω}
    (h : Session.Handled network before after)
    (hholding : before.2.Holding before.1.channels) : Quiet before after := by
  have hempty : ∀ {slot : Slot} {net : Net ω}, slot.channel? = none →
      ∀ channel, slot = .connected channel → channel ∉ Log.opened net.log := by
    rintro slot net hnone channel rfl
    cases hnone
  cases h with
  | noted destroyed => exact Quiet.of_noting _ destroyed _
  | @refused session role error destroyed before after hdial =>
    exact (Quiet.of_noting session destroyed before).trans
      (Quiet.of_event (network.opening_error hdial).2 (fun _ => rfl) fun _ => rfl)
  | @opened session role channel destroyed before after hnone hdial =>
    obtain ⟨hchannel, -, hlog⟩ := network.opening_ok hdial
    refine ((Quiet.of_noting session destroyed before).trans (Quiet.of_setSlot ?_)).trans
      (Quiet.of_event hlog (fun _ => rfl) fun _ => rfl)
    -- the channel that was opened is none of the old ones
    intro other hother
    cases hother
    rw [← hholding.opened, hchannel]
    exact hholding.nextChannel_notMem _
  | @closed session role channel slot before hslot hnone =>
    exact (Quiet.of_setSlot (hempty hnone)).trans
      (Quiet.of_event
        (show _ = Event.close channel (network.close channel before.world).1 :: before.log from rfl)
        (fun _ => rfl) fun _ => rfl)
  | emptied hslot hnone => exact Quiet.of_setSlot (hempty hnone)

theorem Session.Handles.quiet {before after : Session × Net ω}
    (h : Session.Handles network before after)
    (hholding : before.2.Holding before.1.channels) : Quiet before after := by
  induction h with
  | refl => exact Quiet.refl before
  | tail hearlier hhandled ih =>
    exact ih.trans (hhandled.quiet (Session.Handles.works hearlier |>.holding hholding))

/-- A channel is in one slot only. -/
theorem Net.Holding.role_unique {session : Session} {net : Net ω} {role other : Role}
    {channel : ChannelId} (h : net.Holding session.channels)
    (hslot : session.slot role = .connected channel)
    (hother : session.slot other = .connected channel) : other = role := by
  have hnodup := (session.channels_perm role).nodup_iff.mp h.nodup
  rw [hslot] at hnodup
  rcases role.eq_or_eq_other other with hsame | rfl
  · exact hsame
  · simp [hother] at hnodup

namespace Paired

variable {done : ChannelId → List Completed} {session ended : Session} {before after : Net ω}

/-- What is quiet keeps requests and answers in step. -/
theorem quiet (h : Paired done session before) (hquiet : Quiet (session, before) (ended, after))
    (hholding : after.Holding ended.channels) : Paired done ended after := by
  refine ⟨hholding, ?_, ?_, ?_⟩
  · intro channel hunopened
    exact h.unopened channel fun hmem => hunopened (hquiet.opened channel hmem)
  · intro channel
    rw [hquiet.sent, hquiet.received]
    exact h.begun channel
  · intro role channel hslot
    rw [hquiet.sent, hquiet.received]
    rcases hquiet.slots role channel hslot with hslot | hfresh
    · exact h.exact role channel hslot
    · -- a new channel has a dialogue of no words
      obtain ⟨hsent, hreceived⟩ := h.holding.orderly.moved_nothing hfresh
      rw [h.unopened channel hfresh, hsent, hreceived]
      exact ⟨dialogue_nil, by simp⟩

/-- A failure leaves bytes over on a channel that no slot holds any more. -/
theorem failed {role : Role} {channel : ChannelId} {sent received : Bytes}
    (h : Paired done session before) (hslot : session.slot role = .connected channel)
    (hmoved : Moved channel sent received before after) :
    Paired done (session.setSlot role .discarded)
      (network.transport.close channel after).2 := by
  have hholding : after.Holding session.channels :=
    h.holding.moved (Session.mem_channels hslot) hmoved
  have hhandled : Session.Handled network (session, after)
      (session.setSlot role .discarded, (network.transport.close channel after).2) :=
    .closed hslot rfl
  have hquiet := hhandled.quiet hholding
  -- no slot holds the channel on which bytes may be left over
  have hgone : ∀ other, (session.setSlot role .discarded).slot other ≠ .connected channel := by
    intro other hother
    by_cases hrole : other = role
    · subst hrole
      simp at hother
    · rw [Session.slot_setSlot_of_ne hrole] at hother
      exact hrole (h.holding.role_unique hslot hother)
  refine ⟨hhandled.holding hholding, ?_, ?_, ?_⟩
  · intro other hunopened
    refine h.unopened other fun hmem => hunopened (hquiet.opened other ?_)
    rw [← hholding.opened, hmoved.opened, h.holding.opened]
    exact hmem
  · intro other
    rw [hquiet.sent, hquiet.received]
    obtain ⟨sentBefore, receivedBefore, hdialogue, hsent, hreceived⟩ := h.begun other
    refine ⟨sentBefore, receivedBefore, hdialogue, ?_, ?_⟩
    all_goals by_cases hother : other = channel
    · rw [hother, hmoved.sent_eq, ← hother]
      exact hsent.trans (List.prefix_append _ _)
    · rw [(hmoved.elsewhere hother).1]
      exact hsent
    · rw [hother, hmoved.received_eq, ← hother]
      exact hreceived.trans (List.prefix_append _ _)
    · rw [(hmoved.elsewhere hother).2]
      exact hreceived
  · intro other candidate hconnected
    have hne : candidate ≠ channel := fun hsame => hgone other (hsame ▸ hconnected)
    rw [hquiet.sent, hquiet.received, (hmoved.elsewhere hne).1, (hmoved.elsewhere hne).2]
    by_cases hrole : other = role
    · subst hrole
      simp at hconnected
    · rw [Session.slot_setSlot_of_ne hrole] at hconnected
      exact h.exact other candidate hconnected

/-- An answer completes a command on the channel and leaves nothing over. -/
theorem answered {role : Role} {channel : ChannelId} {frame : Bytes} {response : Response}
    (h : Paired done session before) (completed : Completed)
    (hslot : session.slot role = .connected channel) (hrole : completed.command.role = role)
    (hframe : completed.command.encode = .ok frame) (hanswered : completed.AnsweredBy response)
    (hmoved : Moved channel frame response.encode before after) :
    Paired (fun other => done other ++ if other = channel then [completed] else []) session
      after := by
  have hholding : after.Holding session.channels :=
    h.holding.moved (Session.mem_channels hslot) hmoved
  have hopened : Log.opened after.log = Log.opened before.log := by
    rw [← hholding.opened, hmoved.opened, h.holding.opened]
  obtain ⟨hdialogue, hroles⟩ := h.exact role channel hslot
  have hnext := hdialogue.snoc hframe hanswered
  rw [← hmoved.sent_eq, ← hmoved.received_eq] at hnext
  refine ⟨hholding, ?_, ?_, ?_⟩
  · intro other hunopened
    have hne : other ≠ channel := by
      rintro rfl
      exact hunopened (hholding.opened ▸ hholding.mem_opened (Session.mem_channels hslot))
    rw [if_neg hne, List.append_nil]
    exact h.unopened other (hopened ▸ hunopened)
  · intro other
    by_cases hother : other = channel
    · subst hother
      rw [if_pos rfl]
      exact ⟨_, _, hnext, List.prefix_rfl, List.prefix_rfl⟩
    · rw [if_neg hother, List.append_nil, (hmoved.elsewhere hother).1,
        (hmoved.elsewhere hother).2]
      exact h.begun other
  · intro other candidate hconnected
    by_cases hsame : candidate = channel
    · subst hsame
      have hother : other = role := h.holding.role_unique hslot hconnected
      rw [if_pos rfl]
      refine ⟨hnext, ?_⟩
      intro member hmem
      rcases List.mem_append.mp hmem with hmem | hmem
      · rw [hother]
        exact hroles member hmem
      · rw [List.mem_singleton.mp hmem, hother]
        exact hrole
    · rw [if_neg hsame, List.append_nil, (hmoved.elsewhere hsame).1, (hmoved.elsewhere hsame).2]
      exact h.exact other candidate hconnected

end Paired

section Steps

variable {done : ChannelId → List Completed} {session ended : Session} {before after : Net ω}
  {command : Command}

/-- Nothing is completed on a channel that the slot does not hold afterwards, nor by a
command that is too large. -/
theorem Step.completed?_eq_none {outcome : Ending command.opcode.Outcome} {channel : ChannelId}
    (h : ended.slot command.role = .connected channel →
      maxPayloadSize < command.payload.length) :
    Step.completed? channel ⟨.send command, outcome, session, ended⟩ = none := by
  refine if_neg ?_
  rintro ⟨-, hlimit, hslot⟩
  exact absurd hlimit (Nat.not_le.mpr (h hslot))

theorem Step.completed?_eq_some {outcome : Ending command.opcode.Outcome} {channel : ChannelId}
    (halive : session.destroyed = false) (hlimit : command.payload.length ≤ maxPayloadSize)
    (hslot : ended.slot command.role = .connected channel) (other : ChannelId) :
    Step.completed? other ⟨.send command, outcome, session, ended⟩ =
      if other = channel then some ⟨command, outcome⟩ else none := by
  by_cases hother : other = channel
  · rw [if_pos hother]
    exact if_pos ⟨halive, hlimit, hother ▸ hslot⟩
  · rw [if_neg hother]
    refine if_neg ?_
    rintro ⟨-, -, hconnected⟩
    rw [hslot] at hconnected
    exact hother (Slot.connected.inj hconnected).symm

/-- Where a call leaves requests and answers: the command is completed on the channel of
its slot, by a reply or by a panic, or it is completed on none and there is an error. -/
def Concluded (done : ChannelId → List Completed) (command : Command)
    (result : Ending (Except Error (Reply command.opcode.Data))) (ended : Session)
    (after : Net ω) : Prop :=
  (∃ (ending : Ending (Reply command.opcode.Data)) (channel : ChannelId),
    result = ending.map Except.ok ∧ ended.slot command.role = .connected channel ∧
    command.payload.length ≤ maxPayloadSize ∧
    Paired (fun other => done other ++
      if other = channel then [⟨command, ending.map command.opcode.report⟩] else [])
      ended after) ∨
  ((∃ error, result = .returned (.error error)) ∧ Paired done ended after ∧
    ∀ other, ended.slot command.role = .connected other →
      maxPayloadSize < command.payload.length)

theorem Paired.conversed {channel : ChannelId}
    {result : Ending (Except Error (Reply command.opcode.Data))}
    (h : Paired done session before)
    (hslot : session.slot command.role = .connected channel)
    (hconversed : Session.Conversed network session command.role channel command
      (Session.interpret command.opcode.readData) before result ended after) :
    Concluded done command result ended after := by
  cases hconversed with
  -- the channel stays in its slot, but the command is not completed on it
  | oversized hencode hmoved =>
    refine Or.inr ⟨⟨_, rfl⟩, ?_, fun _ _ => (Command.encode_eq_error hencode).1⟩
    exact h.quiet (Quiet.of_moved hmoved)
      (h.holding.moved (Session.mem_channels hslot) hmoved)
  | answered hencode hmoved hfits hresponse hnoError =>
    obtain ⟨ending, rfl⟩ := Ending.exists_eq_map_ok hnoError
    refine Or.inl ⟨ending, channel, rfl, hslot, (Command.encode_eq_ok hencode).1, ?_⟩
    exact h.answered ⟨command, ending.map command.opcode.report⟩ hslot rfl hencode
      ⟨hfits, ending, hresponse, rfl⟩ hmoved
  -- the slot is discarded, so nothing is completed
  | failed hencode hbegins hmoved herror =>
    refine Or.inr ⟨⟨_, rfl⟩, h.failed hslot hmoved, ?_⟩
    intro other hother
    simp at hother

theorem Paired.called {result : Ending (Except Error (Reply command.opcode.Data))}
    (h : Paired done session before)
    (hcalled : Session.Called network session command
      (Session.interpret command.opcode.readData) before result ended after) :
    Concluded done command result ended after := by
  cases hcalled with
  | closed hslot =>
    refine Or.inr ⟨⟨_, rfl⟩, h, ?_⟩
    intro other hother
    rw [hslot] at hother
    cases hother
  | @unopened error destroyed _ hslot hdial =>
    have hhandled : Session.Handled network (session, before)
        (session.noting destroyed, after) := .refused hdial
    refine Or.inr ⟨⟨_, rfl⟩,
      h.quiet (hhandled.quiet h.holding) (hhandled.holding h.holding), ?_⟩
    intro other hother
    rw [Session.slot_noting, hslot] at hother
    cases hother
  | held hslot hconversed => exact h.conversed hslot hconversed
  | @reopened channel destroyed opened _ _ _ hslot hdial hconversed =>
    have hhandled : Session.Handled network (session, before)
        ((session.noting destroyed).setSlot command.role (.connected channel), opened) :=
      .opened (by rw [hslot]; rfl) hdial
    exact (h.quiet (hhandled.quiet h.holding) (hhandled.holding h.holding)).conversed
      (Session.slot_setSlot_self _ _ _) hconversed

/-- Running a command keeps requests and answers in step, and its caller gets what comes of
a response, or is told that there is none. -/
theorem Paired.dispatched {ending : Ending (Reply command.opcode.Data)}
    (h : Paired done session before)
    (hdispatched : Session.Dispatched network session command command.opcode.readData before
      ending ended after) :
    let step : Step := ⟨.send command, ending.map command.opcode.report, session, ended⟩
    Paired (fun channel => done channel ++ (step.completed? channel).toList) ended after ∧
      ((∃ channel, step.completed? channel =
          some ⟨command, ending.map command.opcode.report⟩) ∨
        ∃ error : Error, ending = .returned (.failed error.status)) := by
  intro step
  -- a call that completes nothing adds nothing to what was done on any channel
  have hnothing : (∀ channel, step.completed? channel = none) → Paired done ended after →
      Paired (fun channel => done channel ++ (step.completed? channel).toList) ended after := by
    intro hnone hpaired
    simpa [hnone] using hpaired
  cases hdispatched with
  | refused hdestroyed =>
    refine ⟨hnothing (fun channel => if_neg (by simp [hdestroyed])) h, Or.inr ?_⟩
    exact ⟨.closedSession, rfl⟩
  | called halive hcalled =>
    obtain ⟨plain, channel, rfl, hslot, hlimit, hnext⟩ | ⟨⟨error, rfl⟩, hnext, hleft⟩ :=
      h.called hcalled
    · rw [Session.map_told_map_ok]
      have hstep : ∀ other, step.completed? other =
          if other = channel then some ⟨command, plain.map command.opcode.report⟩ else none := by
        intro other
        rw [← Session.map_told_map_ok plain]
        exact Step.completed?_eq_some halive hlimit hslot other
      have hsame : ∀ other, (step.completed? other).toList =
          if other = channel then [⟨command, plain.map command.opcode.report⟩] else [] := by
        intro other
        rw [hstep other]
        split <;> rfl
      exact ⟨by simpa only [hsame] using hnext, Or.inl ⟨channel, by rw [hstep, if_pos rfl]⟩⟩
    · exact ⟨hnothing (fun other => Step.completed?_eq_none (hleft other)) hnext,
        Or.inr ⟨error, rfl⟩⟩

end Steps

section Runs

variable {config : Config} {world : ω} {run : List Step} {session : Session} {net : Net ω}

@[simp]
theorem completedOn_append_singleton (channel : ChannelId) (run : List Step) (step : Step) :
    completedOn channel (run ++ [step]) =
      completedOn channel run ++ (step.completed? channel).toList := by
  cases hstep : step.completed? channel <;> simp [completedOn, hstep]

/-- A session that has just been connected has moved no bytes. -/
theorem moved_nothing_connect
    (hconnect : Session.connect network.transport config (Net.fresh world) =
      (.ok session, net)) (channel : ChannelId) :
    Log.sent channel net.log = [] ∧ Log.received channel net.log = [] := by
  -- only openings are in the log
  obtain ⟨hlog, -⟩ := Session.connectLog_connect hconnect
  revert hlog
  generalize net.log = log
  intro hlog
  cases hlog with
  | connected => exact ⟨rfl, rfl⟩

theorem paired_connect
    (hconnect : Session.connect network.transport config (Net.fresh world) =
      (.ok session, net)) : Paired (fun _ => []) session net := by
  have hquiet := moved_nothing_connect hconnect
  refine ⟨(Session.connectLog_connect hconnect).2, fun _ _ => rfl, ?_, ?_⟩
  · intro channel
    exact ⟨[], [], dialogue_nil, List.nil_prefix, List.nil_prefix⟩
  · intro role channel _
    rw [(hquiet channel).1, (hquiet channel).2]
    exact ⟨dialogue_nil, by simp⟩

/-- Every run keeps requests and answers in step. -/
theorem Reached.paired (h : Reached network config world run session net) :
    Paired (fun channel => completedOn channel run) session net := by
  induction h with
  | connected hconnect => exact paired_connect hconnect
  | @step run session ended net last request answer hreached hperform ih =>
    simp only [completedOn_append_singleton]
    cases request with
    | send command =>
      obtain ⟨ending, rfl, hdispatched⟩ := Session.dispatched_issue network hperform
      exact (ih.dispatched hdispatched).1
    | _ =>
      have hhandles := Session.handles_perform (by simp) hperform
      simp only [Step.completed?, Option.toList_none, List.append_nil]
      exact ih.quiet (hhandles.quiet ih.holding) (hhandles.works.holding ih.holding)

/-- A caller gets what comes of a response or is told that there is none. -/
theorem Reached.completed_or_failed (h : Reached network config world run session net)
    {command : Command} {outcome : Ending command.opcode.Outcome} {before after : Session}
    (hmem : (⟨.send command, outcome, before, after⟩ : Step) ∈ run) :
    (∃ channel, Step.completed? channel ⟨.send command, outcome, before, after⟩ =
        some ⟨command, outcome⟩) ∨
      ∃ error : Error,
        outcome = .returned (command.opcode.report (.failed error.status)) := by
  induction h with
  | connected hconnect => simp at hmem
  | @step run session ended net last request answer hreached hperform ih =>
    rcases List.mem_append.mp hmem with hmem | hmem
    · exact ih hmem
    · cases List.mem_singleton.mp hmem
      obtain ⟨ending, rfl, hdispatched⟩ := Session.dispatched_issue network hperform
      rcases (hreached.paired.dispatched hdispatched).2 with hcompleted | ⟨error, rfl⟩
      · exact Or.inl hcompleted
      · exact Or.inr ⟨error, rfl⟩

end Runs

/-- Whoever has read responses from the whole frames of a peer has read the first of them,
in order. -/
theorem Completed.AnsweredBy.in_order {done : List Completed} {responses : List Response}
    {out : List Bytes} (hanswered : List.Forall₂ AnsweredBy done responses)
    (hout : ∀ frame ∈ out, Frame.Whole frame)
    (hbegins : responses.flatMap Response.encode <+: out.flatten) :
    List.Forall₂ AnsweredIn done (out.take done.length) := by
  induction hanswered generalizing out with
  | nil => exact List.Forall₂.nil
  | @cons completed response done responses hfirst hrest ih =>
    obtain ⟨rest, hsplit⟩ := hbegins
    cases out with
    | nil =>
      have hnonempty := Frame.encode_ne_nil response.status.code response.body
      simp [Response.encode, hnonempty] at hsplit
    | cons frame out =>
      simp only [List.flatMap_cons, List.flatten_cons, List.append_assoc] at hsplit
      -- both sides begin with a whole frame, so it is the same one
      obtain ⟨hframe, hsame⟩ :=
        (Response.whole_encode hfirst.1).append_inj (hout frame List.mem_cons_self) hsplit
      exact .cons ⟨response, hframe.symm, hfirst⟩
        (ih (fun other hmem => hout other (List.mem_cons_of_mem frame hmem)) ⟨rest, hsame⟩)

namespace Session

variable {config : Config} {world : ω} {run : List Step} {session : Session} {net : Net ω}

/-- On a channel in use the bytes sent are the frames of the commands completed there, all
of its role, and the bytes received as many response frames, each of which is the answer
to the command in its place: the reply is made of it alone, or reading it panicked and there
is no reply.  On any other channel such a dialogue is what both directions begin with.  So
whatever whole frames a peer sends on a channel, responses or not and the last one perhaps
cut short, the commands completed there are answered by its first frames in order; every
other command returns, and is answered without a response. -/
theorem requests_answered_in_step (h : Reached network config world run session net) :
    (∀ role channel, session.slot role = .connected channel →
      Dialogue (completedOn channel run) (Log.sent channel net.log)
        (Log.received channel net.log) ∧
      ∀ completed ∈ completedOn channel run, completed.command.role = role) ∧
    (∀ channel, ∃ sent received, Dialogue (completedOn channel run) sent received ∧
      sent <+: Log.sent channel net.log ∧ received <+: Log.received channel net.log) ∧
    (∀ (channel : ChannelId) (out : List Bytes), (∀ frame ∈ out, Frame.Whole frame) →
      Log.received channel net.log <+: out.flatten →
      List.Forall₂ Completed.AnsweredIn (completedOn channel run)
        (out.take (completedOn channel run).length)) ∧
    ∀ (command : Command) (outcome : Ending command.opcode.Outcome) (before after : Session),
      (⟨.send command, outcome, before, after⟩ : Step) ∈ run →
      (∃ channel, Step.completed? channel ⟨.send command, outcome, before, after⟩ =
        some ⟨command, outcome⟩) ∨
        ∃ error : Error,
          outcome = .returned (command.opcode.report (.failed error.status)) := by
  refine ⟨h.paired.exact, h.paired.begun, ?_, fun _ _ _ _ hmem => h.completed_or_failed hmem⟩
  intro channel out hout hbegins
  obtain ⟨sent, received, ⟨frames, responses, -, -, rfl, hanswered⟩, -, hreceived⟩ :=
    h.paired.begun channel
  exact Completed.AnsweredBy.in_order hanswered hout (hreceived.trans hbegins)

/-- The frame of a success with a list of items whose header gets round the check of its size. -/
def foolingFrame : Bytes :=
  [0, 0, 0, 0, 16, 0x80, 0x01, 0x00, 0x01, 0xFF, 0xFC, 0x00, 0x05, 0xFF, 0xFF, 0xFF, 0xFF,
    0, 0, 0, 0]

/-- A script whose first channel for queries brings such a frame and breaks off in the header of the
next answer, while the second one answers. -/
def foolingAndBreakingOff : ScriptedWorld where
  openings :=
    [.accept { reads := [.data foolingFrame, .data [0, 0]] } false, .accept {} false,
      .accept { reads := [.data [0, 0, 0, 0, 0]] } false]

theorem connect_foolingAndBreakingOff :
    Session.connect scriptedNetwork.transport {} (Net.fresh foolingAndBreakingOff) =
      (.ok ⟨{}, .connected ⟨11001, 0⟩, .connected ⟨11002, 0⟩, false⟩,
        (Session.connect scriptedNetwork.transport {} (Net.fresh foolingAndBreakingOff)).2) :=
  Prod.ext (by decide +kernel) rfl

/-- The range panics over its answer, which it has taken whole, so the channel stays in use.  After
it broke off in the next answer, the command behind that has a channel of its own, and what came in
on that one is its answer alone. -/
theorem requests_answered_in_step_after_fault :
    ∃ run session net, Reached scriptedNetwork {} foolingAndBreakingOff run session net ∧
      run.map (fun step => step.after.slot .read) =
        [.connected ⟨11001, 0⟩, .discarded, .connected ⟨11001, 1⟩] ∧
      (completedOn ⟨11001, 0⟩ run).map Completed.command = [.range "log" .all "" 0 9] ∧
      (completedOn ⟨11001, 1⟩ run).map Completed.command = [.ping] ∧
      Log.received ⟨11001, 0⟩ net.log = foolingFrame ++ [0, 0] ∧
      Log.received ⟨11001, 1⟩ net.log = [0, 0, 0, 0, 0] ∧
      Dialogue (completedOn ⟨11001, 1⟩ run) (Log.sent ⟨11001, 1⟩ net.log)
        (Log.received ⟨11001, 1⟩ net.log) ∧
      ∃ sent received, Dialogue (completedOn ⟨11001, 0⟩ run) sent received ∧
        sent <+: Log.sent ⟨11001, 0⟩ net.log ∧ received <+: Log.received ⟨11001, 0⟩ net.log := by
  have hreached := (((Reached.connected connect_foolingAndBreakingOff).perform
    (.send (.range "log" .all "" 0 9))).perform (.send .ping)).perform (.send .ping)
  obtain ⟨hinUse, hbegun, -⟩ := requests_answered_in_step hreached
  have hdialogue := (hinUse .read ⟨11001, 1⟩ (by decide +kernel)).1
  exact ⟨_, _, _, hreached, by decide +kernel, by decide +kernel, by decide +kernel,
    by decide +kernel, by decide +kernel, hdialogue, hbegun ⟨11001, 0⟩⟩

end Session
end MaskedList
