import Mathlib.Control.Monad.Basic
import MaskedList.Network.Scripted
import MaskedList.Proofs.Network.Holding
import MaskedList.Proofs.Session.Handling

/-!
# No channel is leaked, and none is closed twice

The channels that a session owns are the ones in its slots.  Every step of a
session keeps them the live channels of the network: a channel that is opened goes
into a slot, and one that leaves its slot is closed.  So once both slots are closed
every channel has been closed, once and for all.  A session that cannot be
connected leaves no channel either.
-/

namespace MaskedList

variable {ω : Type}

namespace Session

/-- The channels that a session has in its slots. -/
def channels (session : Session) : List ChannelId :=
  session.read.channel?.toList ++ session.write.channel?.toList

theorem channels_perm (session : Session) (role : Role) :
    session.channels.Perm
      ((session.slot role).channel?.toList ++ (session.slot role.other).channel?.toList) := by
  cases role with
  | read => exact List.Perm.refl _
  | write => exact List.perm_append_comm

theorem channels_setSlot_perm (session : Session) (role : Role) (slot : Slot) :
    (session.setSlot role slot).channels.Perm
      (slot.channel?.toList ++ (session.slot role.other).channel?.toList) := by
  have hperm := (session.setSlot role slot).channels_perm role
  rwa [slot_setSlot_self, slot_setSlot_of_ne role.other_ne] at hperm

@[simp]
theorem channels_noting (session : Session) (destroyed : Bool) :
    (session.noting destroyed).channels = session.channels := rfl

theorem channels_of_closed {session : Session} (h : ∀ role, session.slot role = .closed) :
    session.channels = [] := by
  have hread : session.read = .closed := h .read
  have hwrite : session.write = .closed := h .write
  simp [channels, hread, hwrite, Slot.channel?]

theorem slot_close {network : Network ω} {session : Session} {before : Net ω} (role : Role) :
    (session.close network.transport before).1.slot role = .closed := by
  rw [close_fst]
  cases role with
  | read => rw [slot_setSlot_of_ne (by simp), slot_setSlot_self]
  | write => rw [slot_setSlot_self]

variable {network : Network ω} {before after : Session × Net ω}

/-- A session that opens and closes channels keeps the live ones in its slots. -/
theorem Handled.holding (h : Handled network before after)
    (hbefore : before.2.Holding before.1.channels) : after.2.Holding after.1.channels := by
  cases h with
  | noted destroyed => exact hbefore
  | refused hdial => exact network.holding_opening_error hbefore hdial
  | @opened session role channel destroyed _ net hempty hdial =>
    -- the slot was empty, so its new channel is the only one to come in hand
    have hnew := network.holding_opening_ok hbefore hdial
    have hold := (session.noting destroyed).channels_perm role
    have hslots := (session.noting destroyed).channels_setSlot_perm role (.connected channel)
    simp only [slot_noting, hempty, Option.toList_none, List.nil_append] at hold hslots
    exact hnew.perm ((hold.cons channel).trans hslots.symm)
  | @closed session role channel slot net hslot hempty =>
    have hold := session.channels_perm role
    have hslots := session.channels_setSlot_perm role slot
    simp only [hslot, Slot.channel?_connected, Option.toList_some, List.cons_append,
      List.nil_append] at hold
    simp only [hempty, Option.toList_none, List.nil_append] at hslots
    -- the channel is brought to the front, closed, and gone from the slots
    exact (network.holding_close (hbefore.perm hold)).perm hslots.symm
  | @emptied session role slot net hold hempty =>
    have hbeforeSlots := session.channels_perm role
    have hslots := session.channels_setSlot_perm role slot
    simp only [hold, hempty] at hbeforeSlots hslots
    exact hbefore.perm (hbeforeSlots.trans hslots.symm)

theorem mem_channels {session : Session} {role : Role} {channel : ChannelId}
    (hslot : session.slot role = .connected channel) : channel ∈ session.channels := by
  rw [(session.channels_perm role).mem_iff, hslot]
  simp [Slot.channel?]

theorem Worked.holding (h : Worked network before after)
    (hbefore : before.2.Holding before.1.channels) : after.2.Holding after.1.channels := by
  cases h with
  | handled hhandled => exact hhandled.holding hbefore
  | moved hslot hmoved => exact hbefore.moved (mem_channels hslot) hmoved

theorem Works.holding (h : Works network before after)
    (hbefore : before.2.Holding before.1.channels) : after.2.Holding after.1.channels := by
  induction h with
  | refl => exact hbefore
  | tail _ hworked ih => exact hworked.holding ih

/-- How connecting a session shows in the log of a new network, last operation
first: the log and the outcome determine each other. -/
inductive ConnectLog (config : Config) : Except Error Session → List Event → Prop where
  /-- Nothing is tried with bad settings. -/
  | invalid {error : Error} : config.validate = .error error →
      ConnectLog config (.error error) []
  | readRefused {error : Error} : config.validate = .ok () →
      ConnectLog config (.error error)
        [.connect config.host config.readPort config.timeout (.error error)]
  /-- The channel for queries is closed again. -/
  | writeRefused {error : Error} {read : ChannelId} {closing : Except Error Unit} :
      config.validate = .ok () →
      ConnectLog config (.error error)
        [.close read closing,
          .connect config.host config.writePort config.timeout (.error error),
          .connect config.host config.readPort config.timeout (.ok read)]
  | connected {read write : ChannelId} : config.validate = .ok () →
      ConnectLog config (.ok { config, read := .connected read, write := .connected write })
        [.connect config.host config.writePort config.timeout (.ok write),
          .connect config.host config.readPort config.timeout (.ok read)]

/-- A session that could be connected owns the live channels; otherwise there are
none. -/
theorem connectLog_connect {config : Config} {world : ω} {result : Except Error Session}
    {net : Net ω}
    (hrun : Session.connect network.transport config (Net.fresh world) = (result, net)) :
    ConnectLog config result net.log ∧
      net.Holding (match result with | .ok session => session.channels | .error _ => []) := by
  rw [Session.connect] at hrun
  have hfresh := Net.holding_fresh world
  cases hvalidate : config.validate with
  | error error =>
    simp only [hvalidate] at hrun
    cases hrun
    exact ⟨.invalid hvalidate, hfresh⟩
  | ok done =>
    simp only [hvalidate, stateM_bind_apply, network.transport_connect, Config.port] at hrun
    rcases hread : network.opening config.host config.readPort config.timeout
      (Net.fresh world) with ⟨⟨error | read, gone⟩, middle⟩
    · rw [hread] at hrun
      cases hrun
      refine ⟨?_, network.holding_opening_error hfresh hread⟩
      show ConnectLog config (.error error) middle.log
      rw [(network.opening_error hread).2]
      exact .readRefused hvalidate
    rw [hread] at hrun
    -- the channel for queries is in hand; what follows must not lose it
    have hhalf := network.holding_opening_ok hfresh hread
    obtain ⟨-, -, hreadLog⟩ := network.opening_ok hread
    simp only [stateM_pure_apply, stateM_bind_apply] at hrun
    rcases hwrite : network.opening config.host config.writePort config.timeout middle with
      ⟨⟨error | write, lost⟩, last⟩
    · rw [hwrite] at hrun
      cases hrun
      refine ⟨?_, network.holding_close (network.holding_opening_error hhalf hwrite)⟩
      show ConnectLog config _ (.close read (network.close read last.world).1 :: last.log)
      rw [(network.opening_error hwrite).2, hreadLog]
      exact .writeRefused hvalidate
    · rw [hwrite] at hrun
      cases hrun
      refine ⟨?_, (network.holding_opening_ok hhalf hwrite).perm (List.Perm.swap ..)⟩
      show ConnectLog config _ last.log
      rw [(network.opening_ok hwrite).2.2, hreadLog]
      exact .connected hvalidate

end Session

variable {network : Network ω} {config : Config} {world : ω} {run : List Step}
  {session : Session} {net : Net ω}

/-- Between steps, the live channels are those in the slots of the session. -/
theorem Reached.holding (h : Reached network config world run session net) :
    net.Holding session.channels := by
  induction h with
  | connected hconnect => exact (Session.connectLog_connect hconnect).2
  | step request _ hperform ih => exact (Session.works_perform hperform).holding ih

namespace Session

/-- Connecting ends with both channels or with none, and from then on every channel
that is opened is in a slot until it is closed, which happens once and after which
nothing is done on it. -/
theorem every_channel_closed_once (network : Network ω) (config : Config) (world : ω) :
    (∀ result net,
      Session.connect network.transport config (Net.fresh world) = (result, net) →
        ConnectLog config result net.log ∧
          ∀ error, result = .error error → Log.Settled net.log) ∧
    ∀ run session net, Reached network config world run session net →
      (Log.live net.log).Perm session.channels ∧
      (Log.live net.log).length =
        [Role.read, Role.write].countP (fun role => (session.slot role).channel?.isSome) ∧
      Log.NoUseAfterClose net.log ∧
      Log.Settled (session.close network.transport net).2.log := by
  refine ⟨?_, ?_⟩
  · intro result net hrun
    obtain ⟨hlog, hholding⟩ := connectLog_connect hrun
    refine ⟨hlog, ?_⟩
    rintro error rfl
    exact hholding.settled
  · intro run session net hreached
    have hholding := hreached.holding
    refine ⟨hholding.live, ?_, hholding.orderly.noUseAfterClose, ?_⟩
    · rw [hholding.live.length_eq]
      show (session.read.channel?.toList ++ session.write.channel?.toList).length =
        [Role.read, Role.write].countP fun role => (session.slot role).channel?.isSome
      cases hread : session.read <;> cases hwrite : session.write <;>
        simp [Session.slot, Slot.channel?, hread, hwrite]
    -- a session that ends is closed
    · have hhandles : Handles network (session, net) (session.close network.transport net) :=
        handles_close
      have hclosed := hhandles.works.holding hholding
      rw [channels_of_closed slot_close] at hclosed
      exact hclosed.settled

/-- A script whose first channel for queries breaks off in the header of an answer, while
the second one answers. -/
def breakingOff : ScriptedWorld where
  openings :=
    [.accept { reads := [.data [0, 0]] } false, .accept {} false,
      .accept { reads := [.data [0, 0, 0, 0, 0]] } false]

theorem connect_breakingOff :
    Session.connect scriptedNetwork.transport {} (Net.fresh breakingOff) =
      (.ok ⟨{}, .connected ⟨11001, 0⟩, .connected ⟨11002, 0⟩, false⟩,
        (Session.connect scriptedNetwork.transport {} (Net.fresh breakingOff)).2) :=
  Prod.ext (by decide +kernel) rfl

/-- The channel that broke off is closed, and the other two when the session ends. -/
theorem every_channel_closed_once_after_fault :
    ∃ run session net, Reached scriptedNetwork {} breakingOff run session net ∧
      Log.opened net.log = [⟨11001, 1⟩, ⟨11002, 0⟩, ⟨11001, 0⟩] ∧
      Log.closed net.log = [⟨11001, 0⟩] ∧
      (Log.live net.log).Perm session.channels ∧
      Log.Settled (session.close scriptedNetwork.transport net).2.log := by
  have hreached :=
    ((Reached.connected connect_breakingOff).perform (.send .ping)).perform (.send .ping)
  obtain ⟨-, hruns⟩ := every_channel_closed_once scriptedNetwork {} breakingOff
  obtain ⟨hlive, -, -, hsettled⟩ := hruns _ _ _ hreached
  exact ⟨_, _, _, hreached, by decide +kernel, by decide +kernel, hlive, hsettled⟩

end Session
end MaskedList
