import MaskedList.Proofs.Session.Ownership

/-!
# The port of a role

Every channel is opened at the configured host, within the configured time, and at the port
that serves the role of the command; so every channel in a slot is one of this port.
-/

namespace MaskedList

variable {ω α : Type}

/-- All channels that were opened between two states, or should have been, were opened at the
host and within the time of the settings, and at the port of the role. -/
def Net.OpenedFor (config : Config) (role : Role) (before after : Net ω) : Prop :=
  ∃ done, after.log = done ++ before.log ∧ ∀ host port timeout result,
    .connect host port timeout result ∈ done →
      host = config.host ∧ port = config.port role ∧ timeout = config.timeout

namespace Net.OpenedFor

variable {config : Config} {role : Role} {before after last : Net ω}

theorem refl (net : Net ω) : OpenedFor config role net net :=
  ⟨[], rfl, by simp⟩

theorem trans (hfirst : OpenedFor config role before after)
    (hsecond : OpenedFor config role after last) : OpenedFor config role before last := by
  obtain ⟨done, hlog, hdone⟩ := hfirst
  obtain ⟨more, hlogNext, hmore⟩ := hsecond
  refine ⟨more ++ done, by rw [hlogNext, hlog, List.append_assoc], ?_⟩
  intro host port timeout result hmem
  rcases List.mem_append.mp hmem with hmem | hmem
  · exact hmore host port timeout result hmem
  · exact hdone host port timeout result hmem

/-- Bytes that move open no channel. -/
theorem of_moved {channel : ChannelId} {sent received : Bytes}
    (h : Moved channel sent received before after) : OpenedFor config role before after := by
  obtain ⟨-, done, hlog, hserves, -, -⟩ := h
  exact ⟨done, hlog, fun _ _ _ _ hmem => (hserves _ hmem).elim⟩

theorem close (network : Network ω) (channel : ChannelId) (net : Net ω) :
    OpenedFor config role net (network.transport.close channel net).2 :=
  ⟨[.close channel (network.close channel net.world).1], rfl, by simp⟩

end Net.OpenedFor

namespace Session

variable {network : Network ω} {session ended : Session} {before after : Net ω}
  {command : Command}

/-! ## The port of a role -/

/-- A channel is dialed as the settings say. -/
theorem openedFor_dial {role : Role} {opening : Opening ChannelId}
    (hdial : session.dial network role before = (opening, after)) :
    Net.OpenedFor session.config role before after := by
  have hlog : after.log =
      .connect session.config.host (session.config.port role) session.config.timeout
        opening.result :: before.log := by
    rcases opening with ⟨error | channel, destroyed⟩
    · exact (network.opening_error hdial).2
    · exact (network.opening_ok hdial).2.2
  refine ⟨[_], hlog, ?_⟩
  intro host port timeout result hmem
  cases List.mem_singleton.mp hmem
  exact ⟨rfl, rfl, rfl⟩

section Calls

variable {decode : Response → Ending (Except Error α)} {result : Ending (Except Error α)}

theorem Conversed.openedFor {role : Role} {channel : ChannelId}
    (h : Conversed network session role channel command decode before result ended after)
    (config : Config) : Net.OpenedFor config role before after := by
  cases h with
  | oversized hencode hmoved => exact .of_moved hmoved
  | answered hencode hmoved => exact .of_moved hmoved
  | failed hencode hbegins hmoved herror =>
    exact (Net.OpenedFor.of_moved hmoved).trans (.close network channel _)

theorem Called.openedFor
    (h : Called network session command decode before result ended after) :
    Net.OpenedFor session.config command.role before after := by
  cases h with
  | closed hslot => exact .refl before
  | unopened hslot hdial => exact openedFor_dial hdial
  | held hslot hconversed => exact hconversed.openedFor session.config
  | reopened hslot hdial hconversed =>
    exact (openedFor_dial hdial).trans (hconversed.openedFor session.config)

end Calls

theorem openedFor_issue {outcome : Ending command.opcode.Outcome}
    (hrun : session.issue network.transport command before = ((outcome, ended), after)) :
    Net.OpenedFor session.config command.role before after := by
  obtain ⟨_, -, hdispatched⟩ := dispatched_issue network hrun
  cases hdispatched with
  | refused hdestroyed => exact .refl before
  | called halive hcalled => exact hcalled.openedFor

/-- Every channel in a slot is one of the port that serves the slot's role. -/
def OnOwnPorts (session : Session) : Prop :=
  ∀ role channel, session.slot role = .connected channel →
    channel.port = session.config.port role

theorem OnOwnPorts.setSlot {role : Role} {slot : Slot} (h : session.OnOwnPorts)
    (hslot : ∀ channel, slot = .connected channel → channel.port = session.config.port role) :
    (session.setSlot role slot).OnOwnPorts := by
  intro other channel hconnected
  rw [config_setSlot]
  by_cases hother : other = role
  · subst hother
    rw [slot_setSlot_self] at hconnected
    exact hslot channel hconnected
  · rw [slot_setSlot_of_ne hother] at hconnected
    exact h other channel hconnected

theorem OnOwnPorts.noting (h : session.OnOwnPorts) (destroyed : Bool) :
    (session.noting destroyed).OnOwnPorts := by
  intro role channel hconnected
  rw [slot_noting] at hconnected
  exact h role channel hconnected

theorem port_of_dial {role : Role} {channel : ChannelId} {destroyed : Bool}
    (hdial : session.dial network role before = (⟨.ok channel, destroyed⟩, after)) :
    channel.port = session.config.port role := by
  rw [(network.opening_ok hdial).1]
  rfl

theorem Worked.onOwnPorts {start last : Session × Net ω} (h : Worked network start last)
    (hstart : start.1.OnOwnPorts) :
    last.1.OnOwnPorts ∧ last.1.config = start.1.config := by
  have hempty : ∀ {slot : Slot} {port : UInt16}, slot.channel? = none →
      ∀ channel, slot = .connected channel → channel.port = port := by
    rintro _ port hnone channel rfl
    cases hnone
  cases h with
  | moved hslot hmoved => exact ⟨hstart, rfl⟩
  | handled hhandled =>
    cases hhandled with
    | noted destroyed => exact ⟨hstart.noting destroyed, rfl⟩
    | refused hdial => exact ⟨hstart.noting _, rfl⟩
    | opened hslot hdial =>
      refine ⟨(hstart.noting _).setSlot ?_, config_setSlot _ _ _⟩
      rintro channel ⟨⟩
      exact port_of_dial hdial
    | closed hslot hnone => exact ⟨hstart.setSlot (hempty hnone), config_setSlot _ _ _⟩
    | emptied hslot hnone => exact ⟨hstart.setSlot (hempty hnone), config_setSlot _ _ _⟩

theorem Works.onOwnPorts {start last : Session × Net ω} (h : Works network start last)
    (hstart : start.1.OnOwnPorts) :
    last.1.OnOwnPorts ∧ last.1.config = start.1.config := by
  induction h with
  | refl => exact ⟨hstart, rfl⟩
  | tail _ hworked ih =>
    obtain ⟨hlast, hconfig⟩ := hworked.onOwnPorts ih.1
    exact ⟨hlast, hconfig.trans ih.2⟩

/-- A command keeps the settings, and the slots on their ports. -/
theorem OnOwnPorts.issue (h : session.OnOwnPorts) {outcome : Ending command.opcode.Outcome}
    (hrun : session.issue network.transport command before = ((outcome, ended), after)) :
    ended.OnOwnPorts ∧ ended.config = session.config := by
  obtain ⟨_, -, hdispatched⟩ := dispatched_issue network hrun
  exact hdispatched.works.onOwnPorts h

theorem onOwnPorts_connect {config : Config}
    (hrun : Session.connect network.transport config before = (.ok session, after)) :
    session.OnOwnPorts ∧ session.config = config := by
  rw [Session.connect] at hrun
  cases hvalidate : config.validate with
  | error error =>
    simp only [hvalidate] at hrun
    cases hrun
  | ok done =>
    simp only [hvalidate, stateM_bind_apply, network.transport_connect] at hrun
    rcases hread : network.opening config.host (config.port .read) config.timeout before with
      ⟨⟨error | read, gone⟩, middle⟩
    · rw [hread] at hrun
      cases hrun
    rw [hread] at hrun
    simp only [stateM_pure_apply, stateM_bind_apply] at hrun
    rcases hwrite : network.opening config.host (config.port .write) config.timeout middle with
      ⟨⟨error | write, lost⟩, last⟩
    · rw [hwrite] at hrun
      cases hrun
    · rw [hwrite] at hrun
      cases hrun
      refine ⟨?_, rfl⟩
      intro role channel hconnected
      cases role with
      | read =>
        cases hconnected
        rw [(network.opening_ok hread).1]
        rfl
      | write =>
        cases hconnected
        rw [(network.opening_ok hwrite).1]
        rfl

end Session

/-- The settings stay those that a session was connected with, and its channels those of the
ports in these settings. -/
theorem Reached.onOwnPorts {network : Network ω} {config : Config} {world : ω}
    {run : List Step} {session : Session} {net : Net ω}
    (h : Reached network config world run session net) :
    session.OnOwnPorts ∧ session.config = config := by
  induction h with
  | connected hconnect => exact Session.onOwnPorts_connect hconnect
  | step request _ hperform ih =>
    obtain ⟨hplaced, hconfig⟩ := (Session.works_perform hperform).onOwnPorts ih.1
    exact ⟨hplaced, hconfig.trans ih.2⟩

end MaskedList
