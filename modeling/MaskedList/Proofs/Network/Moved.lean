import MaskedList.Network.Log

/-!
# Bytes that move on one channel

Between its opening and its closing a channel is read, written and flushed, with a
look at the clock and a limit on its time before each of these.  `Moved` says that
nothing else was done between two states of a network, and which bytes went out
and came in meanwhile; nothing moves on any other channel.
-/

namespace MaskedList

/-- A look at the clock, or something done on a channel other than closing it. -/
def Event.Serves (channel : ChannelId) : Event → Prop
  | .time _ => True
  | .allow other _ _ | .read other _ _ | .write other _ _ | .flush other _ => other = channel
  | .connect .. | .close .. => False

namespace Event

variable {channel other : ChannelId} {event : Event}

theorem Serves.opened (h : event.Serves channel) : event.opened? = none := by
  cases event <;> first | rfl | exact h.elim

theorem Serves.closed (h : event.Serves channel) : event.closed? = none := by
  cases event <;> first | rfl | exact h.elim

theorem Serves.target (h : event.Serves channel) (htarget : event.target? = some other) :
    other = channel := by
  cases event <;> simp_all [Serves, target?]

theorem Serves.target_ne (h : event.Serves channel) (hne : other ≠ channel) :
    event.target? ≠ some other :=
  fun htarget => hne (h.target htarget)

end Event

variable {ω : Type}

/-- All that was done between two states serves one channel, which accepted and
gave these bytes. -/
structure Moved (channel : ChannelId) (sent received : Bytes) (before after : Net ω) :
    Prop where
  opened : after.opened = before.opened
  log : ∃ done, after.log = done ++ before.log ∧ (∀ event ∈ done, event.Serves channel) ∧
    Log.sent channel done = sent ∧ Log.received channel done = received

namespace Moved

variable {channel other : ChannelId} {sent received : Bytes} {before after : Net ω}

theorem refl (channel : ChannelId) (net : Net ω) : Moved channel [] [] net net :=
  ⟨rfl, [], by simp⟩

theorem trans {sentNext receivedNext : Bytes} {last : Net ω}
    (hfirst : Moved channel sent received before after)
    (hsecond : Moved channel sentNext receivedNext after last) :
    Moved channel (sent ++ sentNext) (received ++ receivedNext) before last := by
  obtain ⟨hopened, done, hlog, hserves, rfl, rfl⟩ := hfirst
  obtain ⟨hopenedNext, more, hlogNext, hservesNext, rfl, rfl⟩ := hsecond
  refine ⟨hopenedNext.trans hopened, more ++ done, by rw [hlogNext, hlog, List.append_assoc],
    ?_, Log.sent_append done channel more, Log.received_append done channel more⟩
  intro event hmem
  exact (List.mem_append.mp hmem).elim (hservesNext event) (hserves event)

/-- One operation on the channel. -/
theorem single (event : Event) (hserves : event.Serves channel)
    (hopened : after.opened = before.opened) (hlog : after.log = event :: before.log) :
    Moved channel (event.accepted channel) (event.given channel) before after :=
  ⟨hopened, [event], by simp [hlog], by simpa using hserves, by simp, by simp⟩

theorem sent_eq (h : Moved channel sent received before after) :
    Log.sent channel after.log = Log.sent channel before.log ++ sent := by
  obtain ⟨-, done, hlog, -, rfl, -⟩ := h
  rw [hlog, Log.sent_append]

theorem received_eq (h : Moved channel sent received before after) :
    Log.received channel after.log = Log.received channel before.log ++ received := by
  obtain ⟨-, done, hlog, -, -, rfl⟩ := h
  rw [hlog, Log.received_append]

theorem log_opened_eq (h : Moved channel sent received before after) :
    Log.opened after.log = Log.opened before.log := by
  obtain ⟨-, done, hlog, hserves, -, -⟩ := h
  have hnone : Log.opened done = [] :=
    List.filterMap_eq_nil_iff.mpr fun event hmem => (hserves event hmem).opened
  rw [hlog, Log.opened, List.filterMap_append]
  exact congrArg (· ++ Log.opened before.log) hnone

theorem log_closed_eq (h : Moved channel sent received before after) :
    Log.closed after.log = Log.closed before.log := by
  obtain ⟨-, done, hlog, hserves, -, -⟩ := h
  have hnone : Log.closed done = [] :=
    List.filterMap_eq_nil_iff.mpr fun event hmem => (hserves event hmem).closed
  rw [hlog, Log.closed, List.filterMap_append]
  exact congrArg (· ++ Log.closed before.log) hnone

/-- Nothing moves on the other channels. -/
theorem elsewhere (h : Moved channel sent received before after) (hne : other ≠ channel) :
    Log.sent other after.log = Log.sent other before.log ∧
      Log.received other after.log = Log.received other before.log := by
  obtain ⟨-, done, hlog, hserves, -, -⟩ := h
  have hsent : Log.sent other done = [] := by
    rw [Log.sent, List.flatMap_eq_nil_iff]
    intro event hmem
    exact Event.accepted_of_target_ne ((hserves event (List.mem_reverse.mp hmem)).target_ne hne)
  have hreceived : Log.received other done = [] := by
    rw [Log.received, List.flatMap_eq_nil_iff]
    intro event hmem
    exact Event.given_of_target_ne ((hserves event (List.mem_reverse.mp hmem)).target_ne hne)
  rw [hlog, Log.sent_append, Log.received_append, hsent, hreceived, List.append_nil,
    List.append_nil]
  exact ⟨rfl, rfl⟩

end Moved

end MaskedList
