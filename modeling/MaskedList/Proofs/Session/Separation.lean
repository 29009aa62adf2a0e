import MaskedList.Proofs.Network.Separation
import MaskedList.Proofs.Session.Coherence
import MaskedList.Proofs.Session.Ports
import MaskedList.Proofs.Session.Service

/-!
# Queries and changes do not interfere

The commands of one role see nothing of those of the other: not their outcomes, not the
faults of their channel, not the time that they take.  If the network keeps the two ports
apart, a run that has commands of both roles and a run that has only those of one role go
along with each other on the side of this role: a command of the role has the same outcome
in both, and leaves the same in the slot and the same on the port; a command of the other
role changes nothing there.
-/

namespace MaskedList

/-- What was asked for in a step, with the answer. -/
def Step.reply (step : Step) : (request : Request) × request.Answer :=
  ⟨step.request, step.answer⟩

/-- Whether a command of the role was sent in the step. -/
def Step.serves (role : Role) (step : Step) : Bool :=
  match step.request with
  | .send command => command.role = role
  | .close | .reconnect | .destroy => false

/-- The commands of a role that were sent in a run, with their answers. -/
def answersTo (role : Role) (run : List Step) : List ((request : Request) × request.Answer) :=
  (run.filter (Step.serves role)).map Step.reply

section Answers

variable {role : Role} {command : Command} {outcome : Ending command.opcode.Outcome}
  {before after : Session} {run : List Step}

theorem answersTo_cons_of_role (hrole : command.role = role) :
    answersTo role (⟨.send command, outcome, before, after⟩ :: run) =
      ⟨.send command, outcome⟩ :: answersTo role run := by
  simp [answersTo, Step.serves, Step.reply, hrole]

theorem answersTo_cons_of_role_ne (hrole : command.role ≠ role) :
    answersTo role (⟨.send command, outcome, before, after⟩ :: run) = answersTo role run := by
  simp [answersTo, Step.serves, hrole]

end Answers

theorem Config.port_ne (config : Config) (hports : config.readPort ≠ config.writePort)
    {role other : Role} (hne : role ≠ other) : config.port role ≠ config.port other := by
  match role, other with
  | .read, .read => exact absurd rfl hne
  | .read, .write => exact hports
  | .write, .read => exact hports.symm
  | .write, .write => exact absurd rfl hne

variable {ω π α : Type}

namespace Session

variable {network : Network ω} {view : UInt16 → ω → π} {session ended : Session}
  {command : Command} {role : Role} {channel : ChannelId}

/-! ## Commands of the other role -/

section Elsewhere

variable {port : UInt16}

theorem alike_converse (hseparate : network.Separate view) (hne : port ≠ channel.port)
    (session : Session) (role : Role) (command : Command)
    (decode : Response → Ending (Except Error α)) (net : Net ω) :
    net.Alike view port
      (session.converse network.transport role channel command decode net).2 := by
  have hexchange :=
    Network.alike_exchange hseparate hne session.config.timeout command net
  rw [converse, stateM_bind_apply]
  rcases hrun : network.transport.exchange channel session.config.timeout command net with
    ⟨response, after⟩
  rw [hrun] at hexchange
  rcases decoded decode response with (error | value) | panic
  · dsimp only
    split
    · exact hexchange.trans (Network.alike_close hseparate hne after)
    · exact hexchange
  all_goals exact hexchange

theorem alike_call (hseparate : network.Separate view) (hplaced : session.OnOwnPorts)
    (hne : port ≠ session.config.port command.role) (decode : Response → Ending (Except Error α))
    (net : Net ω) :
    net.Alike view port (session.call network.transport command decode net).2 := by
  rw [call]
  cases hslot : session.slot command.role with
  | closed => exact .refl net
  | connected channel =>
    have hother : port ≠ channel.port := by
      rw [hplaced _ _ hslot]
      exact hne
    exact alike_converse hseparate hother session command.role command decode net
  | discarded =>
    have hdialed : net.Alike view port (session.dial network command.role net).2 :=
      Network.alike_opening hseparate hne session.config.host session.config.timeout net
    simp only [stateM_bind_apply, openChannel_apply]
    rcases hdial : session.dial network command.role net with ⟨⟨error | channel, destroyed⟩, opened⟩
    · rw [hdial] at hdialed
      exact hdialed
    · rw [hdial] at hdialed
      have hother : port ≠ channel.port := by
        rw [port_of_dial hdial]
        exact hne
      exact hdialed.trans (alike_converse hseparate hother _ command.role command decode opened)

/-- A command does not show on the port of the other role. -/
theorem alike_issue (hseparate : network.Separate view) (hplaced : session.OnOwnPorts)
    (hne : port ≠ session.config.port command.role) (net : Net ω) :
    net.Alike view port (session.issue network.transport command net).2 := by
  cases hdestroyed : session.destroyed with
  | true =>
    rw [issue_of_destroyed hdestroyed]
    exact .refl net
  | false =>
    have hcalled :=
      alike_call hseparate hplaced hne (interpret command.opcode.readData) net
    rcases hcall : session.call network.transport command (interpret command.opcode.readData) net
      with ⟨⟨result, ended⟩, after⟩
    rw [hcall] at hcalled
    rw [issue_of_call hdestroyed hcall]
    exact hcalled

end Elsewhere

theorem Called.slot_of_ne {decode : Response → Ending (Except Error α)}
    {result : Ending (Except Error α)}
    {before after : Net ω} (h : Called network session command decode before result ended after)
    (hne : role ≠ command.role) : ended.slot role = session.slot role := by
  cases h with
  | closed hslot => rfl
  | unopened hslot hdial => exact slot_noting _ _ _
  | held hslot hconversed => exact (Caller.conversed_frame hconversed).2 role hne
  | reopened hslot hdial hconversed =>
    rw [(Caller.conversed_frame hconversed).2 role hne, slot_setSlot_of_ne hne, slot_noting]

/-- A command does not touch the slot of the other role. -/
theorem slot_of_issue {outcome : Ending command.opcode.Outcome} {before after : Net ω}
    (hrun : session.issue network.transport command before = ((outcome, ended), after))
    (hne : role ≠ command.role) : ended.slot role = session.slot role := by
  obtain ⟨_, -, hdispatched⟩ := dispatched_issue network hrun
  cases hdispatched with
  | refused hdestroyed => rfl
  | called halive hcalled => exact hcalled.slot_of_ne hne

/-! ## Commands of the role -/

/-- Two sessions in use that do not differ on the side of a role. -/
structure Alongside (view : UInt16 → ω → π) (role : Role) (left right : Session × Net ω) :
    Prop where
  config : left.1.config = right.1.config
  destroyed : left.1.destroyed = right.1.destroyed
  slot : left.1.slot role = right.1.slot role
  placed : ∀ channel, left.1.slot role = .connected channel →
    channel.port = left.1.config.port role
  net : left.2.Alike view (left.1.config.port role) right.2

/-- The same outcome on both sides, with sessions that do not differ afterwards. -/
structure Agreed (view : UInt16 → ω → π) (role : Role) (left right : (α × Session) × Net ω) :
    Prop where
  outcome : left.1.1 = right.1.1
  alongside : Alongside view role (left.1.2, left.2) (right.1.2, right.2)

namespace Alongside

variable {left right : Session} {leftNet rightNet leftNext rightNext : Net ω}

theorem goOn (h : Alongside view role (left, leftNet) (right, rightNet))
    (hnet : leftNext.Alike view (left.config.port role) rightNext) :
    Alongside view role (left, leftNext) (right, rightNext) :=
  ⟨h.config, h.destroyed, h.slot, h.placed, hnet⟩

theorem noting (h : Alongside view role (left, leftNet) (right, rightNet)) (destroyed : Bool) :
    Alongside view role (left.noting destroyed, leftNet) (right.noting destroyed, rightNet) where
  config := h.config
  destroyed := congrArg (· || destroyed) h.destroyed
  slot := by
    rw [slot_noting, slot_noting]
    exact h.slot
  placed := by
    rw [slot_noting]
    exact h.placed
  net := h.net

theorem setSlot (h : Alongside view role (left, leftNet) (right, rightNet)) {slot : Slot}
    (hslot : ∀ channel, slot = .connected channel → channel.port = left.config.port role) :
    Alongside view role (left.setSlot role slot, leftNet) (right.setSlot role slot, rightNet) where
  config := by
    rw [config_setSlot, config_setSlot]
    exact h.config
  destroyed := by
    rw [destroyed_setSlot, destroyed_setSlot]
    exact h.destroyed
  slot := by rw [slot_setSlot_self, slot_setSlot_self]
  placed := by
    rw [slot_setSlot_self, config_setSlot]
    exact hslot
  net := by
    rw [config_setSlot]
    exact h.net

theorem converse (h : Alongside view role (left, leftNet) (right, rightNet))
    (hseparate : network.Separate view) (hslot : left.slot role = .connected channel)
    (command : Command) (decode : Response → Ending (Except Error α)) :
    Agreed view role (left.converse network.transport role channel command decode leftNet)
      (right.converse network.transport role channel command decode rightNet) := by
  have hport : channel.port = left.config.port role := h.placed channel hslot
  have hnet : leftNet.Alike view channel.port rightNet := hport ▸ h.net
  have hconfig : left.config = right.config := h.config
  obtain ⟨hresponse, hspoken⟩ :=
    Network.matched_exchange hseparate channel left.config.timeout command _ _ hnet
  rw [Session.converse, Session.converse, stateM_bind_apply, stateM_bind_apply, ← hconfig]
  rcases hleft : network.transport.exchange channel left.config.timeout command leftNet with
    ⟨response, leftSpoken⟩
  rcases hright : network.transport.exchange channel left.config.timeout command rightNet with
    ⟨same, rightSpoken⟩
  rw [hleft, hright] at hresponse hspoken
  cases hresponse
  have hafter := h.goOn (hport ▸ hspoken)
  rcases decoded decode response with (error | value) | panic
  · dsimp only
    by_cases hfault : error.desynchronizes = true
    · rw [if_pos hfault, if_pos hfault]
      have hclosed := Network.matched_close hseparate channel _ _ hspoken
      have hempty : ∀ other, Slot.discarded = .connected other →
          other.port = left.config.port role := by
        intro other hother
        cases hother
      exact ⟨rfl, (hafter.goOn (hport ▸ hclosed.2)).setSlot hempty⟩
    · rw [if_neg hfault, if_neg hfault]
      exact ⟨rfl, hafter⟩
  all_goals exact ⟨rfl, hafter⟩

theorem call (h : Alongside view command.role (left, leftNet) (right, rightNet))
    (hseparate : network.Separate view) (decode : Response → Ending (Except Error α)) :
    Agreed view command.role (left.call network.transport command decode leftNet)
      (right.call network.transport command decode rightNet) := by
  have hsame : left.slot command.role = right.slot command.role := h.slot
  rw [Session.call, Session.call, ← hsame]
  cases hslot : left.slot command.role with
  | closed => exact ⟨rfl, h⟩
  | connected channel => exact h.converse hseparate hslot command decode
  | discarded =>
    have hconfig : left.config = right.config := h.config
    obtain ⟨hopening, hopened⟩ := Network.matched_opening hseparate left.config.host
      (left.config.port command.role) left.config.timeout _ _ h.net
    simp only [stateM_bind_apply, openChannel_apply]
    rcases hleft : left.dial network command.role leftNet with ⟨opening, leftOpened⟩
    rcases hright : right.dial network command.role rightNet with ⟨same, rightOpened⟩
    rw [dial] at hleft
    rw [dial, ← hconfig] at hright
    rw [hleft, hright] at hopening hopened
    cases hopening
    rcases opening with ⟨error | channel, destroyed⟩
    · exact ⟨rfl, (h.goOn hopened).noting destroyed⟩
    · have hnew : ∀ other, Slot.connected channel = .connected other →
          other.port = left.config.port command.role := by
        rintro _ ⟨⟩
        exact port_of_dial hleft
      exact (((h.goOn hopened).noting destroyed).setSlot hnew).converse hseparate
        (slot_setSlot_self _ _ _) command decode

/-- A command of the role has the same outcome in both. -/
theorem issue (h : Alongside view command.role (left, leftNet) (right, rightNet))
    (hseparate : network.Separate view) :
    Agreed view command.role (left.issue network.transport command leftNet)
      (right.issue network.transport command rightNet) := by
  have hflag : left.destroyed = right.destroyed := h.destroyed
  cases hdestroyed : left.destroyed with
  | true =>
    rw [issue_of_destroyed hdestroyed, issue_of_destroyed (hflag ▸ hdestroyed)]
    exact ⟨rfl, h⟩
  | false =>
    have hcalled := h.call hseparate (interpret command.opcode.readData)
    rcases hleft : left.call network.transport command (interpret command.opcode.readData) leftNet
      with ⟨⟨result, leftEnded⟩, leftAfter⟩
    rcases hright : right.call network.transport command (interpret command.opcode.readData)
      rightNet with ⟨⟨same, rightEnded⟩, rightAfter⟩
    rw [hleft, hright] at hcalled
    obtain ⟨hsame, hafter⟩ := hcalled
    cases hsame
    rw [issue_of_call hdestroyed hleft, issue_of_call (hflag ▸ hdestroyed) hright]
    exact ⟨rfl, hafter⟩

/-- A command of the other role on one of them makes no difference. -/
theorem issue_left (h : Alongside view role (left, leftNet) (right, rightNet))
    (hseparate : network.Separate view) (hplaced : left.OnOwnPorts)
    (hports : left.config.readPort ≠ left.config.writePort) (hne : role ≠ command.role)
    {outcome : Ending command.opcode.Outcome}
    (hrun : left.issue network.transport command leftNet = ((outcome, ended), leftNext))
    (hundisturbed : ended.destroyed = left.destroyed) :
    Alongside view role (ended, leftNext) (right, rightNet) := by
  obtain ⟨-, hconfig⟩ := hplaced.issue hrun
  have hslot : ended.slot role = left.slot role := slot_of_issue hrun hne
  have hnet := alike_issue hseparate hplaced (left.config.port_ne hports hne) leftNet
  rw [hrun] at hnet
  constructor
  · exact hconfig.trans h.config
  · exact hundisturbed.trans h.destroyed
  · exact hslot.trans h.slot
  · dsimp only
    rw [hslot, hconfig]
    exact h.placed
  · dsimp only
    rw [hconfig]
    exact hnet.symm.trans h.net

/-- A run goes along with its part that has the commands of the role alone. -/
theorem issueAll (h : Alongside view role (left, leftNet) (right, rightNet))
    (hseparate : network.Separate view) (hplaced : left.OnOwnPorts)
    (hports : left.config.readPort ≠ left.config.writePort) {commands : List Command}
    (hundisturbed : ∀ step ∈ (left.issueAll network.transport commands leftNet).1.1,
      step.Undisturbed) :
    let all := left.issueAll network.transport commands leftNet
    let own := right.issueAll network.transport
      (commands.filter fun command => command.role = role) rightNet
    Agreed view role ((answersTo role all.1.1, all.1.2), all.2)
      ((answersTo role own.1.1, own.1.2), own.2) ∧ all.1.2.config = left.config := by
  -- on the commands; those of the role are sent in both runs, the others in one
  induction commands generalizing left right leftNet rightNet with
  | nil => exact ⟨⟨rfl, h⟩, rfl⟩
  | cons command commands ih =>
    rcases hleft : left.issue network.transport command leftNet with
      ⟨⟨outcome, leftEnded⟩, leftNext⟩
    rw [issueAll_cons_of_issue hleft] at hundisturbed ⊢
    have hstep : leftEnded.destroyed = left.destroyed :=
      hundisturbed _ (List.mem_cons_self ..) (by simp)
    have hothers := fun step hmem => hundisturbed step (List.mem_cons_of_mem _ hmem)
    obtain ⟨hplacedNext, hconfig⟩ := hplaced.issue hleft
    have hportsNext : leftEnded.config.readPort ≠ leftEnded.config.writePort := by
      rw [hconfig]
      exact hports
    by_cases hrole : command.role = role
    · subst hrole
      rcases hright : right.issue network.transport command rightNet with
        ⟨⟨same, rightEnded⟩, rightNext⟩
      have hagreed := h.issue hseparate
      rw [hleft, hright] at hagreed
      obtain ⟨hsame, hnext⟩ := hagreed
      cases hsame
      obtain ⟨hrest, hconfigRest⟩ := ih hnext hplacedNext hportsNext hothers
      rw [List.filter_cons_of_pos (by simp), issueAll_cons_of_issue hright]
      refine ⟨⟨?_, hrest.alongside⟩, hconfigRest.trans hconfig⟩
      dsimp only
      rw [answersTo_cons_of_role rfl, answersTo_cons_of_role rfl]
      exact congrArg (List.cons _) hrest.outcome
    · have hnext := h.issue_left hseparate hplaced hports (Ne.symm hrole) hleft hstep
      obtain ⟨hrest, hconfigRest⟩ := ih hnext hplacedNext hportsNext hothers
      rw [List.filter_cons_of_neg (by simp [hrole])]
      refine ⟨⟨?_, hrest.alongside⟩, hconfigRest.trans hconfig⟩
      dsimp only
      rw [answersTo_cons_of_role_ne hrole]
      exact hrest.outcome

end Alongside

/-- A session keeps the settings that it was connected with, the channels in its slots are those
of the ports that serve the slots' roles, and a command opens channels as the settings say, at
the port of its role alone.  If the network keeps the ports
apart, the commands of a role, in whatever way those of the other role come in between, have
the same outcomes, leave the same in their slot, and do the same on their port. -/
theorem roles_do_not_interfere (network : Network ω) :
    (∀ config world run session net, Reached network config world run session net →
      session.OnOwnPorts ∧ session.config = config) ∧
    (∀ (session : Session) (command : Command) (net : Net ω),
      Net.OpenedFor session.config command.role net
        (session.issue network.transport command net).2) ∧
    ∀ {π : Type} {view : UInt16 → ω → π} {session firstEnd secondEnd : Session} {role : Role}
      {first second : List Command} {net firstNet secondNet : Net ω}
      {firstRun secondRun : List Step},
      network.Separate view → session.config.readPort ≠ session.config.writePort →
      session.OnOwnPorts →
      first.filter (fun command => command.role = role) =
        second.filter (fun command => command.role = role) →
      session.issueAll network.transport first net = ((firstRun, firstEnd), firstNet) →
      session.issueAll network.transport second net = ((secondRun, secondEnd), secondNet) →
      (∀ step ∈ firstRun ++ secondRun, step.Undisturbed) →
      answersTo role firstRun = answersTo role secondRun ∧
      firstEnd.slot role = secondEnd.slot role ∧
      Log.onPort (session.config.port role) firstNet.log =
        Log.onPort (session.config.port role) secondNet.log := by
  refine ⟨fun _ _ _ _ _ hreached => hreached.onOwnPorts, ?_, ?_⟩
  · intro session command net
    exact openedFor_issue rfl
  · intro π view session firstEnd secondEnd role first second net firstNet secondNet firstRun
      secondRun hseparate hports hplaced hsame hfirst hsecond hundisturbed
    have hstart : Alongside view role (session, net) (session, net) :=
      ⟨rfl, rfl, rfl, hplaced role, .refl net⟩
    have hfirstSteps : ∀ step ∈ (session.issueAll network.transport first net).1.1,
        step.Undisturbed := by
      rw [hfirst]
      exact fun step hmem => hundisturbed step (List.mem_append_left _ hmem)
    have hsecondSteps : ∀ step ∈ (session.issueAll network.transport second net).1.1,
        step.Undisturbed := by
      rw [hsecond]
      exact fun step hmem => hundisturbed step (List.mem_append_right _ hmem)
    -- both runs go along with the one that has the commands of the role alone
    obtain ⟨⟨hanswers, hfirstEnd⟩, hfirstConfig⟩ :=
      hstart.issueAll hseparate hplaced hports hfirstSteps
    obtain ⟨⟨hsecondAnswers, hsecondEnd⟩, hsecondConfig⟩ :=
      hstart.issueAll hseparate hplaced hports hsecondSteps
    rw [hfirst, hsame] at hanswers hfirstEnd
    rw [hsecond] at hsecondAnswers hsecondEnd
    rw [hfirst] at hfirstConfig
    rw [hsecond] at hsecondConfig
    refine ⟨hanswers.trans hsecondAnswers.symm, hfirstEnd.slot.trans hsecondEnd.slot.symm, ?_⟩
    have hfirstLog := hfirstEnd.net.log
    have hsecondLog := hsecondEnd.net.log
    dsimp only at hfirstConfig hsecondConfig hfirstLog hsecondLog
    rw [hfirstConfig] at hfirstLog
    rw [hsecondConfig] at hsecondLog
    exact hfirstLog.trans hsecondLog.symm

/-- A port whose first channel breaks off in the header of an answer, while the second one
answers, and a port whose first channel stalls for too long and which then refuses a second
one. -/
def faultsOnBothPorts : PortWorlds ScriptedWorld where
  world port :=
    if port = 11001 then
      { openings := [.accept { reads := [.data [0, 0]] } false,
          .accept { reads := [.data [0, 0, 0, 0, 0]] } false] }
    else { openings := [.accept { reads := [.pause 40000, .data [0]] } false, .refuse "gone"] }

theorem connect_faultsOnBothPorts :
    Session.connect scriptedNetwork.perPort.transport {} (Net.fresh faultsOnBothPorts) =
      (.ok ⟨{}, .connected ⟨11001, 0⟩, .connected ⟨11002, 0⟩, false⟩,
        (Session.connect scriptedNetwork.perPort.transport {} (Net.fresh faultsOnBothPorts)).2) :=
  Prod.ext (by decide +kernel) rfl

/-- A timeout on one channel, and another one that cannot be opened, go unnoticed on the side
of the queries, which has a fault of its own. -/
theorem roles_do_not_interfere_amid_faults :
    ∃ session net firstRun firstEnd firstNet secondRun secondEnd secondNet,
      Reached scriptedNetwork.perPort {} faultsOnBothPorts [] session net ∧
      session.issueAll scriptedNetwork.perPort.transport
        [.rmKey "a", .ping, .rmKey "a", .ping] net = ((firstRun, firstEnd), firstNet) ∧
      session.issueAll scriptedNetwork.perPort.transport [.ping, .ping] net =
        ((secondRun, secondEnd), secondNet) ∧
      (answersTo .write firstRun).length = 2 ∧ firstEnd.write = .discarded ∧
      secondEnd.write = .connected ⟨11002, 0⟩ ∧ secondEnd.read = .connected ⟨11001, 1⟩ ∧
      answersTo .read firstRun = answersTo .read secondRun ∧
      firstEnd.slot .read = secondEnd.slot .read ∧
      Log.onPort 11001 firstNet.log = Log.onPort 11001 secondNet.log := by
  have hreached := Reached.connected connect_faultsOnBothPorts
  obtain ⟨hplaced, -, hapart⟩ := roles_do_not_interfere scriptedNetwork.perPort
  have hsame : [.rmKey "a", .ping, .rmKey "a", .ping].filter
        (fun command : Command => command.role = .read) =
      [.ping, .ping].filter fun command => command.role = .read := by decide
  refine ⟨_, _, _, _, _, _, _, _, hreached, rfl, rfl, by decide +kernel, by decide +kernel,
    by decide +kernel, by decide +kernel, ?_⟩
  exact hapart (Network.separate_perPort scriptedNetwork) (by decide +kernel)
    (hplaced _ _ _ _ _ hreached).1 hsame rfl rfl (by decide +kernel)

end Session
end MaskedList
