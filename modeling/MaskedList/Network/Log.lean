import MaskedList.Network.Basic

/-!
# What a log tells

A log holds every operation of a client, last one first.  From it one reads which
channels were opened and which of them closed, and which bytes each of them
accepted and gave.  A log is orderly if no channel is opened twice and nothing is
done on a channel before it is opened or after it is closed.
-/

namespace MaskedList
namespace Event

/-- The channel that an opening made. -/
def opened? : Event → Option ChannelId
  | .connect _ _ _ (.ok channel) => some channel
  | _ => none

/-- The channel that was closed. -/
def closed? : Event → Option ChannelId
  | .close channel _ => some channel
  | _ => none

/-- The channel that something was done on, be it to close it. -/
def target? : Event → Option ChannelId
  | .allow channel _ _ | .read channel _ _ | .write channel _ _ | .flush channel _
  | .close channel _ => some channel
  | .time _ | .connect .. => none

/-- The bytes that a channel accepted. -/
def accepted (channel : ChannelId) : Event → Bytes
  | .write other offered (.ok count) => if other = channel then offered.take count else []
  | _ => []

/-- The bytes that a channel gave. -/
def given (channel : ChannelId) : Event → Bytes
  | .read other _ (.ok bytes) => if other = channel then bytes else []
  | _ => []

theorem accepted_of_target_ne {event : Event} {channel : ChannelId}
    (h : event.target? ≠ some channel) : event.accepted channel = [] := by
  unfold accepted
  split
  · exact if_neg (by simpa [target?] using h)
  · rfl

theorem given_of_target_ne {event : Event} {channel : ChannelId}
    (h : event.target? ≠ some channel) : event.given channel = [] := by
  unfold given
  split
  · exact if_neg (by simpa [target?] using h)
  · rfl

end Event

namespace Log

/-- The channels that were opened, last one first. -/
def opened (log : List Event) : List ChannelId :=
  log.filterMap Event.opened?

/-- The channels that were closed, last one first. -/
def closed (log : List Event) : List ChannelId :=
  log.filterMap Event.closed?

/-- The channels that were opened and not closed. -/
def live (log : List Event) : List ChannelId :=
  (opened log).filter fun channel => channel ∉ closed log

/-- The bytes that a channel accepted, in order. -/
def sent (channel : ChannelId) (log : List Event) : Bytes :=
  log.reverse.flatMap (Event.accepted channel)

/-- The bytes that a channel gave, in order. -/
def received (channel : ChannelId) (log : List Event) : Bytes :=
  log.reverse.flatMap (Event.given channel)

/-- No channel is opened twice, and whatever is done on a channel is done while it
is live. -/
def Orderly : List Event → Prop
  | [] => True
  | event :: log =>
    Orderly log ∧ (∀ channel, event.opened? = some channel → channel ∉ opened log) ∧
      ∀ channel, event.target? = some channel → channel ∈ live log

/-- Nothing is done on a channel after it is closed. -/
def NoUseAfterClose (log : List Event) : Prop :=
  ∀ later channel result earlier, log = later ++ .close channel result :: earlier →
    ∀ event ∈ later, event.target? ≠ some channel

/-- Every channel that was opened has been closed, once and for all. -/
def Settled (log : List Event) : Prop :=
  (∀ channel ∈ opened log, (closed log).count channel = 1) ∧ NoUseAfterClose log

section Views

variable (event : Event) (log : List Event) (channel : ChannelId)

@[simp]
theorem sent_nil : sent channel [] = [] := rfl

@[simp]
theorem received_nil : received channel [] = [] := rfl

@[simp]
theorem sent_cons :
    sent channel (event :: log) = sent channel log ++ event.accepted channel := by
  simp [sent]

@[simp]
theorem received_cons :
    received channel (event :: log) = received channel log ++ event.given channel := by
  simp [received]

theorem sent_append (later : List Event) :
    sent channel (later ++ log) = sent channel log ++ sent channel later := by
  simp [sent]

theorem received_append (later : List Event) :
    received channel (later ++ log) = received channel log ++ received channel later := by
  simp [received]

theorem mem_opened_cons (hopened : channel ∈ opened log) : channel ∈ opened (event :: log) := by
  simp only [opened, List.mem_filterMap, List.mem_cons] at hopened ⊢
  obtain ⟨earlier, hmem, hopened⟩ := hopened
  exact ⟨earlier, Or.inr hmem, hopened⟩

theorem mem_live : channel ∈ live log ↔ channel ∈ opened log ∧ channel ∉ closed log := by
  simp [live]

end Views

end Log
end MaskedList
