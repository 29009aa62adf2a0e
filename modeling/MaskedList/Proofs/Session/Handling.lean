import Mathlib.Logic.Relation
import MaskedList.Proofs.Session.Call

/-!
# What a session does with its channels

Everything that a session does on a network is a sequence of few kinds of steps.
`Handled` has those that change a slot or the flag: a channel is opened for an
empty slot, or is closed and leaves its slot, or an empty slot is emptied in
another way.  `Worked` adds bytes that move on the channel of a slot.  What each
of these steps keeps is kept by every request, and by whatever other order the
steps are taken in.
-/

namespace MaskedList

/-- The channel that a slot holds. -/
def Slot.channel? : Slot → Option ChannelId
  | .connected channel => some channel
  | .discarded | .closed => none

@[simp]
theorem Slot.channel?_connected (channel : ChannelId) :
    (Slot.connected channel).channel? = some channel := rfl

/-- The role of the other slot. -/
def Role.other : Role → Role
  | .read => .write
  | .write => .read

theorem Role.other_ne (role : Role) : role.other ≠ role := by
  cases role <;> simp [other]

theorem Role.eq_or_eq_other (role candidate : Role) :
    candidate = role ∨ candidate = role.other := by
  cases role <;> cases candidate <;> simp [other]

namespace Session

variable {ω : Type} (network : Network ω)

@[simp]
theorem destroyed_noting (session : Session) (destroyed : Bool) :
    (session.noting destroyed).destroyed = (session.destroyed || destroyed) := rfl

@[simp]
theorem config_noting (session : Session) (destroyed : Bool) :
    (session.noting destroyed).config = session.config := rfl

theorem noting_true (session : Session) :
    session.noting true = { session with destroyed := true } := by
  simp [noting]

/-- A step that changes what a session has in hand. -/
inductive Handled : Session × Net ω → Session × Net ω → Prop where
  /-- The session may have been destroyed. -/
  | noted {session : Session} {net : Net ω} (destroyed : Bool) :
      Handled (session, net) (session.noting destroyed, net)
  /-- No channel could be opened. -/
  | refused {session : Session} {role : Role} {error : Error} {destroyed : Bool}
      {before after : Net ω} :
      session.dial network role before = (⟨.error error, destroyed⟩, after) →
      Handled (session, before) (session.noting destroyed, after)
  /-- A channel was opened for an empty slot. -/
  | opened {session : Session} {role : Role} {channel : ChannelId} {destroyed : Bool}
      {before after : Net ω} : (session.slot role).channel? = none →
      session.dial network role before = (⟨.ok channel, destroyed⟩, after) →
      Handled (session, before)
        ((session.noting destroyed).setSlot role (.connected channel), after)
  /-- A channel was closed and left its slot. -/
  | closed {session : Session} {role : Role} {channel : ChannelId} {slot : Slot}
      {before : Net ω} : session.slot role = .connected channel → slot.channel? = none →
      Handled (session, before)
        (session.setSlot role slot, (network.transport.close channel before).2)
  /-- A slot was empty and stays so. -/
  | emptied {session : Session} {role : Role} {slot : Slot} {net : Net ω} :
      (session.slot role).channel? = none → slot.channel? = none →
      Handled (session, net) (session.setSlot role slot, net)

/-- A step of a session on its network. -/
inductive Worked : Session × Net ω → Session × Net ω → Prop where
  | handled {before after : Session × Net ω} : Handled network before after →
      Worked before after
  /-- Bytes moved on the channel of a slot. -/
  | moved {session : Session} {role : Role} {channel : ChannelId} {sent received : Bytes}
      {before after : Net ω} : session.slot role = .connected channel →
      Moved channel sent received before after → Worked (session, before) (session, after)

/-- Steps of the first kind, one after the other. -/
abbrev Handles : Session × Net ω → Session × Net ω → Prop :=
  Relation.ReflTransGen (Handled network)

/-- Steps of either kind, one after the other. -/
abbrev Works : Session × Net ω → Session × Net ω → Prop :=
  Relation.ReflTransGen (Worked network)

variable {network}

theorem Handles.works {before after : Session × Net ω} (h : Handles network before after) :
    Works network before after :=
  Relation.ReflTransGen.mono (fun _ _ hhandled => Worked.handled hhandled) _ _ h

/-! ## Opening and closing -/

section Lifecycle

variable {session : Session} {role : Role} {before : Net ω}

theorem closeSlot_of_connected {channel : ChannelId}
    (hslot : session.slot role = .connected channel) :
    session.closeSlot network.transport role before =
      (session.setSlot role .closed, (network.transport.close channel before).2) := by
  rw [closeSlot, hslot]
  rfl

theorem closeSlot_of_empty (hslot : (session.slot role).channel? = none) :
    session.closeSlot network.transport role before =
      (session.setSlot role .closed, before) := by
  rw [closeSlot]
  cases h : session.slot role with
  | connected channel => simp [h, Slot.channel?] at hslot
  | discarded | closed => rfl

/-- Whatever a slot held, it is closed afterwards. -/
theorem closeSlot_fst :
    (session.closeSlot network.transport role before).1 = session.setSlot role .closed := by
  cases hslot : session.slot role with
  | connected channel => rw [closeSlot_of_connected hslot]
  | discarded | closed => rw [closeSlot_of_empty (by rw [hslot]; rfl)]

theorem handled_closeSlot :
    Handled network (session, before) (session.closeSlot network.transport role before) := by
  cases hslot : session.slot role with
  | connected channel =>
    rw [closeSlot_of_connected hslot]
    exact .closed hslot rfl
  | discarded | closed =>
    have hempty : (session.slot role).channel? = none := by rw [hslot]; rfl
    rw [closeSlot_of_empty hempty]
    exact .emptied hempty rfl

theorem close_apply :
    session.close network.transport before =
      (session.closeSlot network.transport .read before).1.closeSlot network.transport .write
        (session.closeSlot network.transport .read before).2 := rfl

theorem close_fst :
    (session.close network.transport before).1 =
      (session.setSlot .read .closed).setSlot .write .closed := by
  rw [close_apply, closeSlot_fst, closeSlot_fst]

theorem handles_close :
    Handles network (session, before) (session.close network.transport before) := by
  rw [close_apply]
  exact (Relation.ReflTransGen.single handled_closeSlot).tail handled_closeSlot

theorem handles_destroy :
    Handles network (session, before) (session.destroy network.transport before) := by
  rw [destroy, ← noting_true]
  exact Relation.ReflTransGen.head (.noted true) handles_close

variable (network) in
/-- The ends that making sure of a live channel can come to. -/
inductive Reopened (session : Session) (role : Role) (before : Net ω) :
    Except Error Unit → Session → Net ω → Prop where
  | kept {channel : ChannelId} : session.slot role = .connected channel →
      Reopened session role before (.ok ()) session before
  | refused {error : Error} {destroyed : Bool} {after : Net ω} :
      (session.slot role).channel? = none →
      session.dial network role before = (⟨.error error, destroyed⟩, after) →
      Reopened session role before (.error error) (session.noting destroyed) after
  | opened {channel : ChannelId} {destroyed : Bool} {after : Net ω} :
      (session.slot role).channel? = none →
      session.dial network role before = (⟨.ok channel, destroyed⟩, after) →
      Reopened session role before (.ok ())
        ((session.noting destroyed).setSlot role (.connected channel)) after

theorem reopened_reopen {result : Except Error Unit} {ended : Session} {after : Net ω}
    (hrun : session.reopen network.transport role before = ((result, ended), after)) :
    Reopened network session role before result ended after := by
  have hempty : (session.slot role).channel? = none →
      session.reopen network.transport role before =
        match session.dial network role before with
        | (⟨.error error, destroyed⟩, last) =>
          ((.error error, session.noting destroyed), last)
        | (⟨.ok channel, destroyed⟩, last) =>
          ((.ok (), (session.noting destroyed).setSlot role (.connected channel)), last) := by
    intro hslot
    rw [reopen]
    have hopen : (session.openChannel network.transport role before) = _ :=
      openChannel_apply network session role before
    cases h : session.slot role with
    | connected channel => simp [h, Slot.channel?] at hslot
    | discarded | closed =>
      simp only [stateM_bind_apply, hopen]
      rcases session.dial network role before with ⟨⟨error | channel, destroyed⟩, last⟩ <;> rfl
  cases hslot : session.slot role with
  | connected channel =>
    rw [reopen, hslot] at hrun
    cases hrun
    exact .kept hslot
  | discarded | closed =>
    have hnone : (session.slot role).channel? = none := by rw [hslot]; rfl
    rw [hempty hnone] at hrun
    rcases hdial : session.dial network role before with ⟨⟨error | channel, destroyed⟩, last⟩
    · rw [hdial] at hrun
      cases hrun
      exact .refused hnone hdial
    · rw [hdial] at hrun
      cases hrun
      exact .opened hnone hdial

theorem Reopened.handles {result : Except Error Unit} {ended : Session} {after : Net ω}
    (h : Reopened network session role before result ended after) :
    Handles network (session, before) (ended, after) := by
  cases h with
  | kept hslot => exact .refl
  | refused hslot hdial => exact .single (.refused hdial)
  | opened hslot hdial => exact .single (.opened hslot hdial)

variable (network) in
/-- The ends that reconnecting can come to. -/
inductive Reconnected (session : Session) (before : Net ω) :
    Except Error Unit → Session × Net ω → Prop where
  /-- The session was destroyed long ago. -/
  | refused : session.destroyed = true →
      Reconnected session before (.error .closedSession) (session, before)
  | readFailed {error : Error} {ended : Session} {after : Net ω} :
      session.destroyed = false →
      Reopened network session .read before (.error error) ended after →
      Reconnected session before (.error error) (ended.close network.transport after)
  | writeFailed {error : Error} {half ended : Session} {middle after : Net ω} :
      session.destroyed = false → Reopened network session .read before (.ok ()) half middle →
      Reopened network half .write middle (.error error) ended after →
      Reconnected session before (.error error) (ended.close network.transport after)
  /-- The session was destroyed meanwhile. -/
  | overtaken {half ended : Session} {middle after : Net ω} :
      session.destroyed = false → Reopened network session .read before (.ok ()) half middle →
      Reopened network half .write middle (.ok ()) ended after → ended.destroyed = true →
      Reconnected session before (.error .closedSession) (ended.close network.transport after)
  | live {half ended : Session} {middle after : Net ω} :
      session.destroyed = false → Reopened network session .read before (.ok ()) half middle →
      Reopened network half .write middle (.ok ()) ended after → ended.destroyed = false →
      Reconnected session before (.ok ()) (ended, after)

theorem reconnected_reconnect {result : Except Error Unit} {ended : Session} {after : Net ω}
    (hrun : session.reconnect network.transport before = ((result, ended), after)) :
    Reconnected network session before result (ended, after) := by
  rw [reconnect] at hrun
  cases hdestroyed : session.destroyed with
  | true =>
    simp only [hdestroyed, if_true] at hrun
    cases hrun
    exact .refused hdestroyed
  | false =>
    simp only [hdestroyed, Bool.false_eq_true, if_false, stateM_bind_apply] at hrun
    rcases hread : session.reopen network.transport .read before with
      ⟨⟨error | done, half⟩, middle⟩
    · rw [hread] at hrun
      cases hrun
      exact .readFailed hdestroyed (reopened_reopen hread)
    simp only [hread, stateM_bind_apply] at hrun
    rcases hwrite : half.reopen network.transport .write middle with
      ⟨⟨error | last, full⟩, reopened⟩
    · rw [hwrite] at hrun
      cases hrun
      exact .writeFailed hdestroyed (reopened_reopen hread) (reopened_reopen hwrite)
    simp only [hwrite] at hrun
    -- both sides are live; what is left is the second look at the flag
    cases hflag : full.destroyed with
    | true =>
      simp only [hflag, if_true] at hrun
      cases hrun
      exact .overtaken hdestroyed (reopened_reopen hread) (reopened_reopen hwrite) hflag
    | false =>
      simp only [hflag, Bool.false_eq_true, if_false] at hrun
      cases hrun
      exact .live hdestroyed (reopened_reopen hread) (reopened_reopen hwrite) hflag

theorem Reconnected.handles {result : Except Error Unit} {ended : Session × Net ω}
    (h : Reconnected network session before result ended) :
    Handles network (session, before) ended := by
  cases h with
  | refused hdestroyed => exact .refl
  | readFailed hdestroyed hread => exact hread.handles.trans handles_close
  | writeFailed hdestroyed hread hwrite =>
    exact (hread.handles.trans hwrite.handles).trans handles_close
  | overtaken hdestroyed hread hwrite hflag =>
    exact (hread.handles.trans hwrite.handles).trans handles_close
  | live hdestroyed hread hwrite hflag => exact hread.handles.trans hwrite.handles

end Lifecycle

/-! ## Commands -/

section Commands

variable {α : Type} {session ended : Session} {command : Command} {before after : Net ω}

theorem Conversed.works {role : Role} {channel : ChannelId}
    {decode : Response → Ending (Except Error α)} {result : Ending (Except Error α)}
    (hslot : session.slot role = .connected channel)
    (h : Conversed network session role channel command decode before result ended after) :
    Works network (session, before) (ended, after) := by
  cases h with
  | oversized hencode hmoved => exact .single (.moved hslot hmoved)
  | answered hencode hmoved => exact .single (.moved hslot hmoved)
  | failed hencode hbegins hmoved herror =>
    exact (Relation.ReflTransGen.single (.moved hslot hmoved)).tail
      (.handled (.closed hslot rfl))

theorem Called.works {decode : Response → Ending (Except Error α)}
    {result : Ending (Except Error α)}
    (h : Called network session command decode before result ended after) :
    Works network (session, before) (ended, after) := by
  cases h with
  | closed hslot => exact .refl
  | unopened hslot hdial => exact .single (.handled (.refused hdial))
  | held hslot hconversed => exact hconversed.works hslot
  | reopened hslot hdial hconversed =>
    have hempty : (session.slot command.role).channel? = none := by rw [hslot]; rfl
    exact .head (.handled (.opened hempty hdial))
      (hconversed.works (slot_setSlot_self _ _ _))

theorem Dispatched.works {decode : Bytes → Ending (Except Error α)} {ending : Ending (Reply α)}
    (h : Dispatched network session command decode before ending ended after) :
    Works network (session, before) (ended, after) := by
  cases h with
  | refused hdestroyed => exact .refl
  | called hdestroyed hcalled => exact hcalled.works

theorem perform_close :
    session.perform network.transport .close before =
      (((), (session.close network.transport before).1),
        (session.close network.transport before).2) := rfl

theorem perform_destroy :
    session.perform network.transport .destroy before =
      (((), (session.destroy network.transport before).1),
        (session.destroy network.transport before).2) := rfl

/-- Whatever is no command moves no bytes. -/
theorem handles_perform {request : Request} {answer : request.Answer}
    (hrequest : ∀ command, request ≠ .send command)
    (hrun : session.perform network.transport request before = ((answer, ended), after)) :
    Handles network (session, before) (ended, after) := by
  cases request with
  | send command => exact absurd rfl (hrequest command)
  | close =>
    rw [perform_close] at hrun
    cases hrun
    exact handles_close
  | reconnect => exact (reconnected_reconnect hrun).handles
  | destroy =>
    rw [perform_destroy] at hrun
    cases hrun
    exact handles_destroy

/-- Whatever a caller asks for is done in steps of these kinds. -/
theorem works_perform {request : Request} {answer : request.Answer}
    (hrun : session.perform network.transport request before = ((answer, ended), after)) :
    Works network (session, before) (ended, after) := by
  cases request with
  | send command =>
    obtain ⟨ending, -, hdispatched⟩ := dispatched_issue network hrun
    exact hdispatched.works
  | _ => exact (handles_perform (by simp) hrun).works

end Commands

end Session
end MaskedList
