import MaskedList.Proofs.Session.Handling
import MaskedList.Session.Race

/-!
# The turns of a caller

A caller who has the lock of a slot knows what is in the slot, and nobody else
changes that before its next turn.  So every turn is a step of the session of the
kinds that requests are made of, however the turns of others come in between, and
each of them brings the caller closer to its end.
-/

namespace MaskedList

variable {ω : Type}

namespace Caller

/-- What a caller between turns knows of the slot whose lock it has. -/
def Placed (session : Session) : Caller → Prop
  | .reconnecting (.opening role) => (session.slot role).channel? = none
  | .sending command .opening => session.slot command.role = .discarded
  | .sending command (.talking channel) => session.slot command.role = .connected channel
  | _ => True

variable (network : Network ω)

/-- The turns that a caller can take. -/
inductive Turned : Caller → Session × Net ω → Caller → Session × Net ω → Prop where
  | reconnectRefused {session : Session} {net : Net ω} : session.destroyed = true →
      Turned (.reconnecting .starting) (session, net)
        (.reconnecting (.ended (.error .closedSession))) (session, net)
  | reconnectStarted {session : Session} {net : Net ω} : session.destroyed = false →
      Turned (.reconnecting .starting) (session, net)
        (.reconnecting (.reopening .read)) (session, net)
  | kept {session : Session} {net : Net ω} {role : Role} {channel : ChannelId} :
      session.slot role = .connected channel →
      Turned (.reconnecting (.reopening role)) (session, net)
        (.reconnecting (.afterLive role)) (session, net)
  | missed {session : Session} {net : Net ω} {role : Role} :
      (session.slot role).channel? = none →
      Turned (.reconnecting (.reopening role)) (session, net)
        (.reconnecting (.opening role)) (session, net)
  | unopened {session : Session} {before after : Net ω} {role : Role} {error : Error}
      {destroyed : Bool} :
      session.dial network role before = (⟨.error error, destroyed⟩, after) →
      Turned (.reconnecting (.opening role)) (session, before)
        (.reconnecting (.closing .read error)) (session.noting destroyed, after)
  | opened {session : Session} {before after : Net ω} {role : Role} {channel : ChannelId}
      {destroyed : Bool} :
      session.dial network role before = (⟨.ok channel, destroyed⟩, after) →
      Turned (.reconnecting (.opening role)) (session, before)
        (.reconnecting (.afterLive role))
        ((session.noting destroyed).setSlot role (.connected channel), after)
  | overtaken {session : Session} {net : Net ω} : session.destroyed = true →
      Turned (.reconnecting .checking) (session, net)
        (.reconnecting (.closing .read .closedSession)) (session, net)
  | live {session : Session} {net : Net ω} : session.destroyed = false →
      Turned (.reconnecting .checking) (session, net)
        (.reconnecting (.ended (.ok ()))) (session, net)
  | closedRead {session : Session} {net : Net ω} (error : Error) :
      Turned (.reconnecting (.closing .read error)) (session, net)
        (.reconnecting (.closing .write error)) (session.closeSlot network.transport .read net)
  | closedWrite {session : Session} {net : Net ω} (error : Error) :
      Turned (.reconnecting (.closing .write error)) (session, net)
        (.reconnecting (.ended (.error error))) (session.closeSlot network.transport .write net)
  | sendRefused {session : Session} {net : Net ω} (command : Command) :
      session.destroyed = true →
      Turned (.sending command .starting) (session, net)
        (.sending command (.ended (.returned (.failed .closedSession)))) (session, net)
  | sendStarted {session : Session} {net : Net ω} (command : Command) :
      session.destroyed = false →
      Turned (.sending command .starting) (session, net)
        (.sending command .waiting) (session, net)
  | sendClosed {session : Session} {net : Net ω} {command : Command} :
      session.slot command.role = .closed →
      Turned (.sending command .waiting) (session, net)
        (.sending command (.ended (.returned (.failed .closedSession)))) (session, net)
  | sendKept {session : Session} {net : Net ω} {command : Command} {channel : ChannelId} :
      session.slot command.role = .connected channel →
      Turned (.sending command .waiting) (session, net)
        (.sending command (.talking channel)) (session, net)
  | sendMissed {session : Session} {net : Net ω} {command : Command} :
      session.slot command.role = .discarded →
      Turned (.sending command .waiting) (session, net)
        (.sending command .opening) (session, net)
  | sendUnopened {session : Session} {before after : Net ω} {command : Command} {error : Error}
      {destroyed : Bool} (ending : Ending (Reply command.opcode.Data)) :
      session.dial network command.role before = (⟨.error error, destroyed⟩, after) →
      Turned (.sending command .opening) (session, before)
        (.sending command (.ended ending)) (session.noting destroyed, after)
  | sendOpened {session : Session} {before after : Net ω} {command : Command}
      {channel : ChannelId} {destroyed : Bool} :
      session.dial network command.role before = (⟨.ok channel, destroyed⟩, after) →
      Turned (.sending command .opening) (session, before)
        (.sending command (.talking channel))
        ((session.noting destroyed).setSlot command.role (.connected channel), after)
  | talked {session ended : Session} {before after : Net ω} {command : Command}
      {channel : ChannelId} {result : Ending (Except Error (Reply command.opcode.Data))}
      (ending : Ending (Reply command.opcode.Data)) :
      Session.Conversed network session command.role channel command
        (Session.interpret command.opcode.readData) before result ended after →
      Turned (.sending command (.talking channel)) (session, before)
        (.sending command (.ended ending)) (ended, after)
  | idle {caller : Caller} {state : Session × Net ω} : caller.hasEnded = true →
      Turned caller state caller state

variable {network} {caller next : Caller} {session ended : Session} {before after : Net ω}

theorem turned_reconnecting {stage last : Reconnecting}
    (hrun : stage.turn network.transport session before = ((last, ended), after)) :
    Turned network (.reconnecting stage) (session, before) (.reconnecting last)
      (ended, after) := by
  cases stage with
  | starting =>
    rw [Reconnecting.turn] at hrun
    cases hdestroyed : session.destroyed with
    | true =>
      rw [if_pos hdestroyed] at hrun
      cases hrun
      exact .reconnectRefused hdestroyed
    | false =>
      rw [if_neg (by simp [hdestroyed])] at hrun
      cases hrun
      exact .reconnectStarted hdestroyed
  | reopening role =>
    rw [Reconnecting.turn] at hrun
    cases hslot : session.slot role with
    | connected channel =>
      rw [hslot] at hrun
      cases hrun
      exact .kept hslot
    | discarded | closed =>
      rw [hslot] at hrun
      cases hrun
      exact .missed (by rw [hslot]; rfl)
  | opening role =>
    rw [Reconnecting.turn, stateM_bind_apply, Session.openChannel_apply] at hrun
    rcases hdial : session.dial network role before with ⟨⟨error | channel, destroyed⟩, dialed⟩
    · rw [hdial] at hrun
      cases hrun
      exact .unopened hdial
    · rw [hdial] at hrun
      cases hrun
      exact .opened hdial
  | checking =>
    rw [Reconnecting.turn] at hrun
    cases hdestroyed : session.destroyed with
    | true =>
      rw [if_pos hdestroyed] at hrun
      cases hrun
      exact .overtaken hdestroyed
    | false =>
      rw [if_neg (by simp [hdestroyed])] at hrun
      cases hrun
      exact .live hdestroyed
  | closing role error =>
    cases role with
    | read =>
      cases hrun
      exact .closedRead error
    | write =>
      cases hrun
      exact .closedWrite error
  | ended result =>
    cases hrun
    exact .idle rfl

theorem turned_sending {command : Command} {stage last : Sending command}
    (hrun : stage.turn network.transport session before = ((last, ended), after)) :
    Turned network (.sending command stage) (session, before) (.sending command last)
      (ended, after) := by
  cases stage with
  | starting =>
    rw [Sending.turn] at hrun
    cases hdestroyed : session.destroyed with
    | true =>
      rw [if_pos hdestroyed] at hrun
      cases hrun
      exact .sendRefused command hdestroyed
    | false =>
      rw [if_neg (by simp [hdestroyed])] at hrun
      cases hrun
      exact .sendStarted command hdestroyed
  | waiting =>
    rw [Sending.turn] at hrun
    cases hslot : session.slot command.role with
    | closed =>
      rw [hslot] at hrun
      cases hrun
      exact .sendClosed hslot
    | connected channel =>
      rw [hslot] at hrun
      cases hrun
      exact .sendKept hslot
    | discarded =>
      rw [hslot] at hrun
      cases hrun
      exact .sendMissed hslot
  | opening =>
    rw [Sending.turn, stateM_bind_apply, Session.openChannel_apply] at hrun
    rcases hdial : session.dial network command.role before with
      ⟨⟨error | channel, destroyed⟩, dialed⟩
    · rw [hdial] at hrun
      cases hrun
      exact .sendUnopened _ hdial
    · rw [hdial] at hrun
      cases hrun
      exact .sendOpened hdial
  | talking channel =>
    rw [Sending.turn, stateM_bind_apply] at hrun
    rcases htalk : session.converse network.transport command.role channel command
      (Session.interpret command.opcode.readData) before with ⟨⟨result, spoken⟩, net⟩
    have hconversed := Session.conversed_converse network
      (fun _ _ => Session.desynchronizes_of_interpret) htalk
    rw [htalk] at hrun
    cases hrun
    exact .talked _ hconversed
  | ended ending =>
    cases hrun
    exact .idle rfl

/-- A caller who takes a turn takes one of these. -/
theorem turned_turn
    (hrun : caller.turn network.transport session before = ((next, ended), after)) :
    Turned network caller (session, before) next (ended, after) := by
  cases caller with
  | reconnecting stage =>
    rcases hstage : stage.turn network.transport session before with ⟨⟨last, done⟩, net⟩
    rw [turn, stateM_bind_apply, hstage] at hrun
    cases hrun
    exact turned_reconnecting hstage
  | sending command stage =>
    rcases hstage : stage.turn network.transport session before with ⟨⟨last, done⟩, net⟩
    rw [turn, stateM_bind_apply, hstage] at hrun
    cases hrun
    exact turned_sending hstage

/-- A conversation leaves the flag and the other slot alone. -/
theorem conversed_frame {α : Type} {role : Role} {channel : ChannelId} {command : Command}
    {decode : Response → Ending (Except Error α)} {result : Ending (Except Error α)}
    (h : Session.Conversed network session role channel command decode before result ended
      after) :
    ended.destroyed = session.destroyed ∧
      ∀ other, other ≠ role → ended.slot other = session.slot other := by
  cases h with
  | oversized hencode hmoved => exact ⟨rfl, fun _ _ => rfl⟩
  | answered hencode hmoved => exact ⟨rfl, fun _ _ => rfl⟩
  | failed hencode hbegins hmoved herror =>
    exact ⟨Session.destroyed_setSlot _ _ _,
      fun other hother => Session.slot_setSlot_of_ne hother _ _⟩

variable {start last : Session × Net ω}

theorem Turned.works (h : Turned network caller start next last)
    (hplaced : caller.Placed start.1) : Session.Works network start last := by
  cases h with
  | unopened hdial => exact .single (.handled (.refused hdial))
  | opened hdial => exact .single (.handled (.opened hplaced hdial))
  | closedRead error => exact .single (.handled Session.handled_closeSlot)
  | closedWrite error => exact .single (.handled Session.handled_closeSlot)
  | sendUnopened ending hdial => exact .single (.handled (.refused hdial))
  | @sendOpened session _ _ command _ _ hdial =>
    have hslot : session.slot command.role = .discarded := hplaced
    exact .single (.handled (.opened (by rw [hslot]; rfl) hdial))
  | talked ending hconversed => exact hconversed.works hplaced
  -- no other turn touches a slot or the network
  | _ => exact .refl

theorem placed_of_isStarting (hstarting : caller.isStarting = true) :
    caller.Placed session := by
  rcases caller with stage | ⟨command, stage⟩ <;> cases stage <;> trivial

/-- Whoever takes a lock knows what is in the slot. -/
theorem Turned.placed (h : Turned network caller start next last)
    (hplaced : caller.Placed start.1) : next.Placed last.1 := by
  cases h with
  | missed hslot => exact hslot
  | @kept _ _ role => cases role <;> trivial
  | @opened _ _ _ role => cases role <;> trivial
  | sendKept hslot => exact hslot
  | sendMissed hslot => exact hslot
  | sendOpened hdial => exact Session.slot_setSlot_self _ _ _
  | idle hended => exact hplaced
  | _ => trivial

/-- What is done with another slot is none of the caller's business. -/
theorem Placed.setSlot {role : Role} (hplaced : caller.Placed session)
    (hfree : caller.holds ≠ some role) (slot : Slot) :
    caller.Placed (session.setSlot role slot) := by
  -- the slot whose lock the caller has is another one
  have hkeep : ∀ {other}, some other ≠ some role →
      (session.setSlot role slot).slot other = session.slot other := by
    intro other hother
    exact Session.slot_setSlot_of_ne (fun hsame => hother (congrArg some hsame)) _ _
  cases caller with
  | reconnecting stage =>
    cases stage with
    | opening other =>
      show ((session.setSlot role slot).slot other).channel? = none
      rw [hkeep hfree]
      exact hplaced
    | _ => trivial
  | sending command stage =>
    cases stage with
    | opening =>
      show (session.setSlot role slot).slot command.role = .discarded
      rw [hkeep hfree]
      exact hplaced
    | talking channel =>
      show (session.setSlot role slot).slot command.role = .connected channel
      rw [hkeep hfree]
      exact hplaced
    | _ => trivial

theorem Placed.noting (hplaced : caller.Placed session) (destroyed : Bool) :
    caller.Placed (session.noting destroyed) := by
  unfold Placed at hplaced ⊢
  simpa only [Session.slot_noting] using hplaced

/-- How many turns a caller can still take. -/
def rank : Caller → Nat
  | .reconnecting stage =>
    match stage with
    | .starting => 8
    | .reopening .read => 7
    | .opening .read => 6
    | .reopening .write => 5
    | .opening .write => 4
    | .checking => 3
    | .closing .read _ => 2
    | .closing .write _ => 1
    | .ended _ => 0
  | .sending _ stage =>
    match stage with
    | .starting => 4
    | .waiting => 3
    | .opening => 2
    | .talking _ => 1
    | .ended _ => 0

theorem hasEnded_iff_rank : caller.hasEnded = true ↔ caller.rank = 0 := by
  rcases caller with ⟨_ | ⟨_ | _⟩ | ⟨_ | _⟩ | _ | ⟨_ | _, _⟩ | _⟩ | ⟨_, _ | _ | _ | _ | _⟩ <;>
    simp [hasEnded, rank]

/-- Whoever is done has no lock. -/
theorem holds_of_hasEnded (hended : caller.hasEnded = true) : caller.holds = none := by
  rcases caller with stage | ⟨command, stage⟩ <;> cases stage <;>
    first | rfl | cases hended

theorem rank_le (caller : Caller) : caller.rank ≤ 8 := by
  rcases caller with ⟨_ | ⟨_ | _⟩ | ⟨_ | _⟩ | _ | ⟨_ | _, _⟩ | _⟩ | ⟨_, _ | _ | _ | _ | _⟩ <;>
    simp [rank]

/-- Every turn brings a caller closer to the end. -/
theorem Turned.rank_le (h : Turned network caller start next last) :
    next.rank ≤ caller.rank - 1 := by
  cases h with
  | @kept _ _ role => cases role <;> simp [rank, Reconnecting.afterLive]
  | @missed _ _ role => cases role <;> simp [rank]
  | @unopened _ _ _ role => cases role <;> simp [rank]
  | @opened _ _ _ role => cases role <;> simp [rank, Reconnecting.afterLive]
  | idle hended => simp [hasEnded_iff_rank.mp hended]
  | _ => simp [rank]

end Caller
end MaskedList
