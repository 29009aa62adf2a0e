import MaskedList.Proofs.Network.Moved
import MaskedList.Proofs.Network.Orderly

/-!
# Who holds which channels

`Net.Holding` says that the channels which are live on a network are exactly those
of a list, which is what the client has in hand.  Opening a channel adds it to the
list, closing one takes it off, and whatever else is done is done on a channel of
the list.  Channels are numbered by port, so that a new one is never an old one.
-/

namespace MaskedList

variable {ω : Type} {net before after : Net ω} {channels : List ChannelId}
  {channel : ChannelId}

/-- The live channels are the ones that the client holds. -/
structure Net.Holding (net : Net ω) (channels : List ChannelId) : Prop where
  /-- Channels are numbered from zero on each port. -/
  numbered : ∀ channel ∈ net.opened,
    channel.ordinal < net.opened.countP fun other => other.port = channel.port
  opened : net.opened = Log.opened net.log
  orderly : Log.Orderly net.log
  live : (Log.live net.log).Perm channels

/-- What serves a live channel opens none, closes none and keeps to the order. -/
theorem Log.Orderly.serves_append {log : List Event} (h : Log.Orderly log)
    (hlive : channel ∈ Log.live log) {done : List Event}
    (hserves : ∀ event ∈ done, event.Serves channel) :
    Log.opened (done ++ log) = Log.opened log ∧ Log.live (done ++ log) = Log.live log ∧
      Log.Orderly (done ++ log) := by
  induction done with
  | nil => exact ⟨rfl, rfl, h⟩
  | cons event done ih =>
    have hevent := hserves event List.mem_cons_self
    obtain ⟨hopened, hsame, horderly⟩ :=
      ih fun other hother => hserves other (List.mem_cons_of_mem event hother)
    rw [List.cons_append]
    refine ⟨?_, ?_, horderly, ?_, ?_⟩
    · simpa [Log.opened, hevent.opened] using hopened
    · rw [Log.live_cons_of_none hevent.opened hevent.closed, hsame]
    · intro other hother
      rw [hevent.opened] at hother
      cases hother
    · intro other htarget
      rw [hevent.target htarget, hsame]
      exact hlive

namespace Net

theorem holding_fresh (world : ω) : (Net.fresh world).Holding [] :=
  ⟨by simp [fresh], rfl, trivial, List.Perm.nil⟩

theorem Holding.perm {others : List ChannelId} (h : net.Holding channels)
    (hperm : channels.Perm others) : net.Holding others :=
  ⟨h.numbered, h.opened, h.orderly, h.live.trans hperm⟩

theorem Holding.nodup (h : net.Holding channels) : channels.Nodup :=
  h.live.nodup h.orderly.nodup_live

theorem Holding.mem_live (h : net.Holding channels) (hmem : channel ∈ channels) :
    channel ∈ Log.live net.log :=
  h.live.mem_iff.mpr hmem

theorem Holding.mem_opened (h : net.Holding channels) (hmem : channel ∈ channels) :
    channel ∈ net.opened := by
  rw [h.opened]
  exact ((Log.mem_live net.log channel).mp (h.mem_live hmem)).1

/-- The next channel of a port is none of those opened so far. -/
theorem Holding.nextChannel_notMem (h : net.Holding channels) (port : UInt16) :
    Network.nextChannel net port ∉ net.opened := by
  intro hmem
  exact Nat.lt_irrefl _ (h.numbered _ hmem)

/-- Whoever holds nothing has closed each channel exactly once. -/
theorem Holding.settled (h : net.Holding []) : Log.Settled net.log :=
  h.orderly.settled h.live.eq_nil

/-- What is done on a channel in hand leaves everything in hand. -/
theorem Holding.moved {sent received : Bytes} (h : before.Holding channels)
    (hmem : channel ∈ channels) (hmoved : Moved channel sent received before after) :
    after.Holding channels := by
  obtain ⟨hopened, done, hlog, hserves, -, -⟩ := hmoved
  obtain ⟨hsame, hlive, horderly⟩ := h.orderly.serves_append (h.mem_live hmem) hserves
  refine ⟨by rw [hopened]; exact h.numbered, ?_, hlog ▸ horderly, ?_⟩
  · rw [hopened, h.opened, hlog, hsame]
  · rw [hlog, hlive]
    exact h.live

end Net

namespace Network

variable (network : Network ω) {host : String} {port : UInt16} {timeout : Option Nat}

@[simp]
theorem transport_connect : network.transport.connect = network.opening := rfl

/-- An opening that fails is logged and does nothing else. -/
theorem opening_error {error : Error} {destroyed : Bool}
    (hrun : network.opening host port timeout before = (⟨.error error, destroyed⟩, after)) :
    after.opened = before.opened ∧
      after.log = .connect host port timeout (.error error) :: before.log := by
  simp only [opening, Prod.mk.injEq, Opening.mk.injEq] at hrun
  obtain ⟨⟨hresult, -⟩, rfl⟩ := hrun
  simp [hresult, Except.isOk, Except.toBool]

/-- An opening that succeeds makes the next channel of its port. -/
theorem opening_ok {destroyed : Bool}
    (hrun : network.opening host port timeout before = (⟨.ok channel, destroyed⟩, after)) :
    channel = nextChannel before port ∧ after.opened = channel :: before.opened ∧
      after.log = .connect host port timeout (.ok channel) :: before.log := by
  simp only [opening, Prod.mk.injEq, Opening.mk.injEq] at hrun
  obtain ⟨⟨hresult, -⟩, rfl⟩ := hrun
  have hchannel : channel = nextChannel before port := by
    revert hresult
    cases (network.connect (nextChannel before port) host timeout before.world).1.result <;>
      simp [Except.map, eq_comm]
  simp [hresult, Except.isOk, Except.toBool, hchannel]

/-- An opening that fails leaves everything in hand. -/
theorem holding_opening_error {error : Error} {destroyed : Bool}
    (h : before.Holding channels)
    (hrun : network.opening host port timeout before = (⟨.error error, destroyed⟩, after)) :
    after.Holding channels := by
  obtain ⟨hopened, hlog⟩ := network.opening_error hrun
  refine ⟨by rw [hopened]; exact h.numbered, ?_, ?_, ?_⟩
  · rw [hopened, h.opened, hlog]
    rfl
  · rw [hlog]
    exact ⟨h.orderly, by simp [Event.opened?], by simp [Event.target?]⟩
  · rw [hlog, Log.live_cons_of_none rfl rfl]
    exact h.live

/-- An opening that succeeds puts the new channel in hand. -/
theorem holding_opening_ok {destroyed : Bool} (h : before.Holding channels)
    (hrun : network.opening host port timeout before = (⟨.ok channel, destroyed⟩, after)) :
    after.Holding (channel :: channels) := by
  obtain ⟨hchannel, hopened, hlog⟩ := network.opening_ok hrun
  have hport : channel.port = port := by rw [hchannel]; rfl
  have hordinal : channel.ordinal =
      before.opened.countP fun other => other.port = channel.port := by
    rw [hport, hchannel]
    rfl
  -- its number is as yet unused on its port
  have hfresh : channel ∉ Log.opened before.log := by
    rw [← h.opened, hchannel]
    exact h.nextChannel_notMem port
  have horderly : Log.Orderly after.log := by
    rw [hlog]
    refine ⟨h.orderly, ?_, by simp [Event.target?]⟩
    intro other hother
    cases hother
    exact hfresh
  refine ⟨?_, ?_, horderly, ?_⟩
  · intro other hmem
    rw [hopened, List.countP_cons]
    rw [hopened] at hmem
    -- the new channel has the next number of its port; the old ones keep theirs
    rcases List.mem_cons.mp hmem with rfl | hmem
    · simp [hordinal]
    · have hless := h.numbered other hmem
      omega
  · rw [hopened, h.opened, hlog]
    rfl
  · rw [hlog] at horderly ⊢
    rw [horderly.live_cons_opened rfl]
    exact h.live.cons channel

/-- Closing a channel takes it off the hands of the client. -/
theorem holding_close (h : before.Holding (channel :: channels)) :
    (network.transport.close channel before).2.Holding channels := by
  have hlog : (network.transport.close channel before).2.log =
      .close channel (network.close channel before.world).1 :: before.log := rfl
  have horderly : Log.Orderly (network.transport.close channel before).2.log := by
    rw [hlog]
    refine ⟨h.orderly, by simp [Event.opened?], ?_⟩
    intro other htarget
    cases htarget
    exact h.mem_live List.mem_cons_self
  refine ⟨h.numbered, h.opened.trans rfl, horderly, ?_⟩
  rw [hlog] at horderly ⊢
  rw [horderly.live_cons_closed rfl]
  simpa using h.live.erase channel

end Network
end MaskedList
