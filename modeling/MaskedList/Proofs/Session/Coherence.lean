import MaskedList.Proofs.Session.Race
import MaskedList.Proofs.Session.Reconnect
import MaskedList.Proofs.Session.Statuses

/-!
# Both slots are closed, or neither is

A caller is told that a session is closed if both slots are, or if it was destroyed.  As
long as requests are made one at a time, this says exactly what will come of a command:
either every command is turned away, with nothing done on the network, or none is.  For no
request leaves one slot closed and the other one open: commands neither close a slot nor
open a closed one, and a reconnect that fails halfway closes both.  And whoever destroys a
session closes both for good.
-/

namespace MaskedList

/-- Only a request to destroy the session has destroyed it, if anything has: nobody else did
so during the step. -/
def Step.Undisturbed (step : Step) : Prop :=
  step.request ≠ .destroy → step.after.destroyed = step.before.destroyed

instance (step : Step) : Decidable step.Undisturbed :=
  inferInstanceAs (Decidable (_ → _))

/-- Whether something was done on the network, and not just the clock looked at. -/
def Event.isCall : Event → Bool
  | .time _ => false
  | _ => true

/-- What was done on the network, without the looks at the clock. -/
def Log.calls (log : List Event) : List Event :=
  log.filter Event.isCall

/-- A look at the clock gives no bytes. -/
theorem Log.received_calls (channel : ChannelId) (log : List Event) :
    received channel (calls log) = received channel log := by
  induction log with
  | nil => rfl
  | cons event log ih =>
    rw [received_cons, ← ih, calls, List.filter_cons]
    cases hcall : event.isCall with
    | true =>
      rw [if_pos rfl, received_cons]
      rfl
    | false =>
      have hnothing : event.given channel = [] := by
        cases event <;> first | rfl | cases hcall
      rw [if_neg (by simp), hnothing, List.append_nil]
      rfl

namespace Session

variable {ω : Type} {network : Network ω} {session ended : Session} {command : Command}
  {before after : Net ω}

/-- The slots are closed together, and both are closed in a session that was destroyed. -/
structure Coherent (session : Session) : Prop where
  together : session.read = .closed ↔ session.write = .closed
  gone : session.destroyed = true → ∀ role, session.slot role = .closed

theorem coherent_of_closed (h : ∀ role, session.slot role = .closed) : session.Coherent :=
  ⟨iff_of_true (h .read) (h .write), fun _ => h⟩

/-! ## What requests do to the slots -/

section Requests

variable {α : Type} {decode : Response → Ending (Except Error α)}
  {result : Ending (Except Error α)}

/-- A conversation closes no slot: the worst that comes of it is that its channel is
discarded. -/
theorem Conversed.closed_iff {role : Role} {channel : ChannelId}
    (h : Conversed network session role channel command decode before result ended after)
    (hslot : session.slot role = .connected channel) (other : Role) :
    ended.slot other = .closed ↔ session.slot other = .closed := by
  by_cases hother : other = role
  · subst hother
    cases h with
    | oversized hencode hmoved => exact Iff.rfl
    | answered hencode hmoved => exact Iff.rfl
    | failed hencode hbegins hmoved herror => simp [hslot]
  · rw [(Caller.conversed_frame h).2 other hother]

/-- A call neither closes a slot nor opens a closed one. -/
theorem Called.closed_iff
    (h : Called network session command decode before result ended after) (role : Role) :
    ended.slot role = .closed ↔ session.slot role = .closed := by
  cases h with
  | closed hslot => exact Iff.rfl
  | unopened hslot hdial => rw [slot_noting]
  | held hslot hconversed => exact hconversed.closed_iff hslot role
  | reopened hslot hdial hconversed =>
    rw [hconversed.closed_iff (slot_setSlot_self _ _ _) role]
    by_cases hrole : role = command.role
    · simp [hrole, hslot]
    · rw [slot_setSlot_of_ne hrole, slot_noting]

/-- Only a closed slot makes a call fail as one on a closed session. -/
theorem Called.ne_closedSession
    (h : Called network session command decode before result ended after)
    (hopen : session.slot command.role ≠ .closed) :
    result ≠ .returned (.error .closedSession) := by
  have hconversation : ∀ {start last : Session} {opened net : Net ω} {channel : ChannelId},
      Conversed network start command.role channel command decode opened result last net →
        result ≠ .returned (.error .closedSession) := by
    rintro start last opened net channel hconversed rfl
    cases hconversed with
    | oversized hencode _ => cases (Command.encode_eq_error hencode).2
    | answered _ _ _ _ hnoError => exact hnoError _ rfl
    | failed _ _ _ herror => cases herror
  cases h with
  | closed hslot => exact absurd hslot hopen
  | unopened hslot hdial => simp
  | held hslot hconversed => exact hconversation hconversed
  | reopened hslot hdial hconversed => exact hconversation hconversed

theorem Dispatched.closed_iff {decode : Bytes → Ending (Except Error α)}
    {ending : Ending (Reply α)}
    (h : Dispatched network session command decode before ending ended after) (role : Role) :
    ended.slot role = .closed ↔ session.slot role = .closed := by
  cases h with
  | refused hdestroyed => exact Iff.rfl
  | called halive hcalled => exact hcalled.closed_iff role

end Requests

/-- No request, made on its own, leaves one slot closed and the other one open. -/
theorem Coherent.perform {request : Request} {answer : request.Answer} (h : session.Coherent)
    (hrun : session.perform network.transport request before = ((answer, ended), after))
    (hundisturbed : Step.Undisturbed ⟨request, answer, session, ended⟩) : ended.Coherent := by
  cases request with
  | send command =>
    obtain ⟨_, -, hdispatched⟩ := dispatched_issue network hrun
    have hsame : ended.destroyed = session.destroyed := hundisturbed (by simp)
    have hread := hdispatched.closed_iff .read
    have hwrite := hdispatched.closed_iff .write
    constructor
    · exact hread.trans (h.together.trans hwrite.symm)
    · intro hdestroyed role
      rw [hdispatched.closed_iff role]
      exact h.gone (hsame ▸ hdestroyed) role
  | close =>
    rw [perform_close] at hrun
    cases hrun
    exact coherent_of_closed slot_close
  | destroy =>
    rw [perform_destroy] at hrun
    cases hrun
    exact coherent_of_closed slot_close
  | reconnect =>
    have hreconnected := reconnected_reconnect hrun
    cases hdestroyed : session.destroyed with
    | true =>
      rw [Session.perform, reconnect, if_pos hdestroyed] at hrun
      cases hrun
      exact h
    | false =>
      obtain ⟨_, _, dialed, opened, hdialed, hend⟩ := hreconnected.redialed hdestroyed
      rcases hend with ⟨rfl, halive, -, hsame⟩ | ⟨-, hsame⟩
      · cases hsame
        have hlive : ∀ role, ended.slot role ≠ .closed := by
          intro role
          obtain ⟨channel, hslot⟩ := hdialed.live rfl role (by cases role <;> simp)
          simp [hslot]
        constructor
        · exact iff_of_false (hlive .read) (hlive .write)
        · intro hgone
          rw [halive] at hgone
          cases hgone
      -- whatever went wrong, the session was closed afterwards
      · have hended : ended = (dialed.close network.transport opened).1 :=
          congrArg Prod.fst hsame
        rw [hended]
        exact coherent_of_closed slot_close

/-! ## What a closed session does with commands -/

variable (network) in
/-- A command comes back as one to a closed session, with nothing done on the network and the
session as it was. -/
def TurnedAway (session : Session) (net : Net ω) (command : Command) : Prop :=
  let ((outcome, ended), after) := session.issue network.transport command net
  command.opcode.statusOf? outcome = some .closedSession ∧ ended = session ∧
    Log.calls after.log = Log.calls net.log

theorem issue_of_closed (hclosed : session.slot command.role = .closed) (net : Net ω) :
    session.issue network.transport command net =
      ((.returned (command.opcode.report (.failed .closedSession)), session), net) := by
  have hcall : session.call network.transport command (interpret command.opcode.readData) net =
      ((.returned (.error .closedSession), session), net) := by
    simp only [call, hclosed]
    rfl
  cases hdestroyed : session.destroyed with
  | true => exact issue_of_destroyed hdestroyed command net
  | false => exact issue_of_call hdestroyed hcall

theorem turnedAway_of_closed (hclosed : session.slot command.role = .closed) (net : Net ω) :
    TurnedAway network session net command := by
  unfold TurnedAway
  rw [issue_of_closed hclosed]
  exact ⟨Opcode.statusOf?_map_report _ (.returned (.failed .closedSession)), rfl, rfl⟩

/-- On an open slot no command is turned away.  The store may well answer with the status of a
closed session, but then it has answered. -/
theorem not_turnedAway (halive : session.destroyed = false)
    (hopen : session.slot command.role ≠ .closed) (net : Net ω) :
    ¬ TurnedAway network session net command := by
  unfold TurnedAway
  rcases hrun : session.issue network.transport command net with ⟨⟨outcome, ended⟩, after⟩
  obtain ⟨ending, rfl, hdispatched⟩ := dispatched_issue network hrun
  rintro ⟨hstatus, -, hcalls⟩
  rw [Opcode.statusOf?_map_report] at hstatus
  have hverdict := hdispatched.verdict
  rw [hstatus] at hverdict
  generalize hclosedSession : some Status.closedSession = status at hverdict
  cases hverdict with
  | refused hrefused => simp [halive, hopen] at hrefused
  | lost hlost =>
    cases hclosedSession
    simp at hlost
  | oversized => cases hclosedSession
  | answered _ _ _ _ hreceived =>
    rw [← Log.received_calls, hcalls, Log.received_calls] at hreceived
    exact Frame.encode_ne_nil _ _ (List.self_eq_append_right.mp hreceived)

theorem Coherent.slot_closed_of_isClosed (h : session.Coherent) (hclosed : session.isClosed = true)
    (role : Role) : session.slot role = .closed := by
  unfold isClosed at hclosed
  rcases Bool.or_eq_true_iff.mp hclosed with hdestroyed | hslots
  · exact h.gone hdestroyed role
  · have hboth : session.read = .closed ∧ session.write = .closed := by simpa using hslots
    cases role with
    | read => exact hboth.1
    | write => exact hboth.2

theorem Coherent.open_of_not_isClosed (h : session.Coherent) (hopen : session.isClosed = false) :
    session.destroyed = false ∧ ∀ role, session.slot role ≠ .closed := by
  unfold isClosed at hopen
  obtain ⟨halive, hslots⟩ := Bool.or_eq_false_iff.mp hopen
  refine ⟨halive, ?_⟩
  intro role hclosed
  have hboth : session.read = .closed ∧ session.write = .closed := by
    cases role with
    | read => exact ⟨hclosed, h.together.mp hclosed⟩
    | write => exact ⟨h.together.mpr hclosed, hclosed⟩
  simp [hboth] at hslots

end Session

/-! ## Runs -/

section Runs

variable {ω : Type} {network : Network ω} {config : Config} {world : ω} {run : List Step}
  {session : Session} {net : Net ω}

theorem Reached.coherent (h : Reached network config world run session net)
    (hundisturbed : ∀ step ∈ run, step.Undisturbed) : session.Coherent := by
  induction h with
  | @connected session net hconnect =>
    obtain ⟨hlog, -⟩ := Session.connectLog_connect hconnect
    generalize net.log = log at hlog
    cases hlog with
    | connected hvalidate => exact ⟨by simp, by simp⟩
  | step request _ hperform ih =>
    have hearlier := ih fun step hmem => hundisturbed step (List.mem_append_left _ hmem)
    exact hearlier.perform hperform (hundisturbed _ (by simp))

/-- What was asked for and answered tells where a run has come to. -/
theorem Reached.unique (h : Reached network config world run session net) {other : Session}
    {otherNet : Net ω} (hother : Reached network config world run other otherNet) :
    other = session ∧ otherNet = net := by
  induction h generalizing other otherNet with
  | connected hconnect =>
    generalize hrun : [] = run at hother
    cases hother with
    | connected hagain =>
      rw [hconnect] at hagain
      cases hagain
      exact ⟨rfl, rfl⟩
    | step => simp at hrun
  | step request _ hperform ih =>
    generalize hrun : _ ++ [_] = run at hother
    cases hother with
    | connected => simp at hrun
    | step again hearlier hdone =>
      obtain ⟨rfl, hstep⟩ := List.append_inj' hrun rfl
      obtain ⟨rfl, rfl⟩ := ih hearlier
      cases hstep
      rw [hperform] at hdone
      cases hdone
      exact ⟨rfl, rfl⟩

/-- A run that has destroyed its session comes no further, whatever is asked for. -/
theorem Reached.stays_of_destroyed (h : Reached network config world run session net)
    (hdestroyed : session.destroyed = true) (hclosed : ∀ role, session.slot role = .closed)
    {whole more : List Step} {last : Session} {after : Net ω}
    (hlater : Reached network config world whole last after) (hwhole : whole = run ++ more) :
    last = session ∧ after = net := by
  -- on the later run, from which one step after the other is taken off again
  induction hlater generalizing more with
  | connected hconnect =>
    obtain ⟨rfl, rfl⟩ := List.append_eq_nil_iff.mp hwhole.symm
    exact h.unique (.connected hconnect)
  | @step earlier middle ended between _ request answer hreached hperform ih =>
    rcases List.eq_nil_or_concat more with rfl | ⟨front, step, rfl⟩
    · rw [List.append_nil] at hwhole
      exact h.unique (hwhole ▸ .step request hreached hperform)
    · rw [List.concat_eq_append, ← List.append_assoc] at hwhole
      obtain ⟨hfront, -⟩ := List.append_inj' hwhole rfl
      obtain ⟨rfl, rfl⟩ := ih hfront
      rw [Session.perform_of_destroyed hdestroyed hclosed] at hperform
      cases hperform
      exact ⟨rfl, rfl⟩

end Runs

namespace Session

variable {ω : Type} {network : Network ω} {config : Config} {world : ω} {run : List Step}
  {session : Session} {net : Net ω}

/-- After any requests, made one at a time, either both slots are closed or neither is, and
both are closed if the session was destroyed.  So a session is closed exactly if every command
is turned away; if it is not, no command is, and no call fails as one on a closed session.
Once a session was destroyed, nothing that is asked of it has any effect. -/
theorem closed_together (h : Reached network config world run session net)
    (hundisturbed : ∀ step ∈ run, step.Undisturbed) :
    (session.read = .closed ↔ session.write = .closed) ∧
    (session.destroyed = true → session.read = .closed ∧ session.write = .closed) ∧
    (session.isClosed = true ↔ ∀ command, TurnedAway network session net command) ∧
    (session.isClosed = false → ∀ command, ¬ TurnedAway network session net command ∧
      (session.call network.transport command (interpret command.opcode.readData) net).1.1 ≠
        .returned (.error .closedSession)) ∧
    (session.destroyed = true → ∀ (more : List Step) (last : Session) (after : Net ω),
      Reached network config world (run ++ more) last after → last = session ∧ after = net) := by
  have hcoherent := h.coherent hundisturbed
  refine ⟨hcoherent.together, ?_, ?_, ?_, ?_⟩
  · intro hdestroyed
    exact ⟨hcoherent.gone hdestroyed .read, hcoherent.gone hdestroyed .write⟩
  · constructor
    · intro hclosed command
      exact turnedAway_of_closed (hcoherent.slot_closed_of_isClosed hclosed command.role) net
    · intro hturned
      by_contra hopen
      obtain ⟨halive, hslots⟩ :=
        hcoherent.open_of_not_isClosed (Bool.eq_false_iff.mpr hopen)
      exact not_turnedAway halive (hslots _) net (hturned .ping)
  · intro hopen command
    obtain ⟨halive, hslots⟩ := hcoherent.open_of_not_isClosed hopen
    refine ⟨not_turnedAway halive (hslots command.role) net, ?_⟩
    have hcalled : Called network session command (interpret command.opcode.readData) net _ _ _ :=
      called_call network (fun _ _ => desynchronizes_of_interpret) rfl
    exact hcalled.ne_closedSession (hslots command.role)
  · intro hdestroyed more last after hlater
    exact h.stays_of_destroyed hdestroyed (hcoherent.gone hdestroyed) hlater rfl

/-- After a fault and a close, a reconnect that gets one of two channels leaves both slots
closed, and commands are turned away. -/
theorem closed_together_after_refusal :
    ∃ run session net, Reached scriptedNetwork {} breakingOff run session net ∧
      (∀ step ∈ run, step.Undisturbed) ∧ session.destroyed = false ∧
      session.isClosed = true ∧ (session.read = .closed ↔ session.write = .closed) ∧
      TurnedAway scriptedNetwork session net .ping ∧
      Log.opened net.log = [⟨11001, 1⟩, ⟨11002, 0⟩, ⟨11001, 0⟩] := by
  have hreached :=
    (((Reached.connected connect_breakingOff).perform (.send .ping)).perform .close).perform
      .reconnect
  have hundisturbed := fun h => closed_together hreached h
  refine ⟨_, _, _, hreached, by decide +kernel, by decide +kernel, by decide +kernel, ?_, ?_,
    by decide +kernel⟩
  · exact (hundisturbed (by decide +kernel)).1
  · exact (hundisturbed (by decide +kernel)).2.2.1.mp (by decide +kernel) .ping

end Session
end MaskedList
