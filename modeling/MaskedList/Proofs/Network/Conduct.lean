import MaskedList.Proofs.Network.Moved
import MaskedList.Proofs.Stream.Transfer

/-!
# How operations are conducted on a channel

An operation on a channel is tried until it is not interrupted.  One try looks at the
clock, gives the channel the time that is left, and does the operation, or stops at
whichever of these fails; without a deadline it only does the operation.  A `Turn` is
one such try as it is logged, with the failure that it leaves; `Work` is any number of
them, where each but the last leaves none or an interruption.  `Network.Conducts` is
work done between two states of a network, by a clock that does not go back.  Every
operation of `Network.transport` is conducted in this way, so what streams do on a
channel is accounted for by it.
-/

namespace MaskedList
namespace Event

/-- The channel that was read, written or flushed. -/
def transfer? : Event → Option ChannelId
  | .read channel _ _ | .write channel _ _ | .flush channel _ => some channel
  | .time _ | .connect .. | .allow .. | .close .. => none

/-- The moment that a look at the clock showed. -/
def time? : Event → Option Nat
  | .time now => some now
  | _ => none

/-- The time that a channel was to be given. -/
def allowed? : Event → Option Nat
  | .allow _ span _ => some span
  | _ => none

/-- How an operation on a channel failed, which a read that gives nothing and a write that
takes nothing do as well. -/
def failure? : Event → Option IoError
  | .read _ _ (.ok []) => some .endOfStream
  | .write _ _ (.ok 0) => some .writeZero
  | .allow _ _ (.error error) | .read _ _ (.error error) | .write _ _ (.error error)
  | .flush _ (.error error) => some error
  | _ => none

variable {channel : ChannelId} {event : Event}

theorem serves_of_transfer (h : event.transfer? = some channel) : event.Serves channel := by
  cases event <;> simp_all [transfer?, Serves]

theorem time_of_transfer (h : event.transfer? = some channel) : event.time? = none := by
  cases event <;> first | rfl | cases h

theorem allowed_of_transfer (h : event.transfer? = some channel) : event.allowed? = none := by
  cases event <;> first | rfl | cases h

end Event

/-- One try of an operation on a channel, as it is logged, with the failure that it leaves. -/
inductive Turn (channel : ChannelId) : Deadline → List Event → Option IoError → Prop where
  /-- There is no deadline to look after. -/
  | untimed {event : Event} : event.transfer? = some channel →
      Turn channel none [event] event.failure?
  /-- The time is up. -/
  | late {expiry now : Nat} : expiry ≤ now →
      Turn channel (some expiry) [.time now] (some .deadlineExceeded)
  /-- The channel cannot be given a limit on its time. -/
  | unallowed {expiry now : Nat} {error : IoError} : now < expiry →
      Turn channel (some expiry) [.allow channel (expiry - now) (.error error), .time now]
        (some error)
  /-- The channel has the time that is left. -/
  | timed {expiry now : Nat} {event : Event} : now < expiry → event.transfer? = some channel →
      Turn channel (some expiry) [event, .allow channel (expiry - now) (.ok ()), .time now]
        event.failure?

/-- Any number of tries, with the failure that the last of them leaves. -/
inductive Work (channel : ChannelId) (deadline : Deadline) :
    List Event → Option IoError → Prop where
  | idle : Work channel deadline [] none
  | next {earlier piece : List Event} {failure : Option IoError} :
      Work channel deadline earlier none → Turn channel deadline piece failure →
      Work channel deadline (piece ++ earlier) failure
  /-- An interruption is no failure to whoever tries again. -/
  | resumed {done : List Event} {error : IoError} : Work channel deadline done (some error) →
      error.isInterruption = true → Work channel deadline done none

section Work

variable {channel : ChannelId} {deadline : Deadline} {done earlier later : List Event}
  {failure : Option IoError}

theorem Turn.serves (h : Turn channel deadline done failure) :
    ∀ event ∈ done, event.Serves channel := by
  cases h with
  | untimed htransfer => simpa using Event.serves_of_transfer htransfer
  | late hlate => simp [Event.Serves]
  | unallowed hnow => simp [Event.Serves]
  | timed hnow htransfer => simpa [Event.Serves] using Event.serves_of_transfer htransfer

theorem Work.append (hearlier : Work channel deadline earlier none)
    (hlater : Work channel deadline later failure) :
    Work channel deadline (later ++ earlier) failure := by
  induction hlater with
  | idle => exact hearlier
  | next _ hturn ih =>
    rw [List.append_assoc]
    exact .next ih hturn
  | resumed _ hinterrupted ih => exact .resumed ih hinterrupted

theorem Work.serves (h : Work channel deadline done failure) :
    ∀ event ∈ done, event.Serves channel := by
  induction h with
  | idle => simp
  | next _ hturn ih =>
    intro event hmem
    exact (List.mem_append.mp hmem).elim (hturn.serves event) (ih event)
  | resumed _ _ ih => exact ih

end Work

/-! ## Clocks that do not go back -/

namespace Log

/-- The moments that the looks at the clock showed, last one first. -/
def times (log : List Event) : List Nat :=
  log.filterMap Event.time?

@[simp]
theorem times_cons (event : Event) (log : List Event) :
    times (event :: log) = event.time?.toList ++ times log := by
  cases h : event.time? <;> simp [times, h]

/-- The looks at the clock lie between two moments and in the order of time. -/
structure Clocked (start finish : Nat) (log : List Event) : Prop where
  le : start ≤ finish
  between : ∀ now ∈ times log, start ≤ now ∧ now ≤ finish
  ordered : (times log).Pairwise (· ≥ ·)

variable {start middle finish : Nat} {earlier later : List Event}

theorem clocked_nil (start : Nat) : Clocked start start [] :=
  ⟨Nat.le_refl start, by simp [times], List.Pairwise.nil⟩

theorem clocked_time (now : Nat) : Clocked now now [.time now] :=
  ⟨Nat.le_refl now, by simp [times, Event.time?], by simp [times, Event.time?]⟩

theorem clocked_single {event : Event} (hevent : event.time? = none) (hle : start ≤ finish) :
    Clocked start finish [event] :=
  ⟨hle, by simp [times, hevent], by simp [times, hevent]⟩

theorem Clocked.append (hearlier : Clocked start middle earlier)
    (hlater : Clocked middle finish later) : Clocked start finish (later ++ earlier) := by
  have htimes : times (later ++ earlier) = times later ++ times earlier :=
    List.filterMap_append
  refine ⟨Nat.le_trans hearlier.le hlater.le, ?_, ?_⟩
  · intro now hmem
    rw [htimes] at hmem
    rcases List.mem_append.mp hmem with hmem | hmem
    · obtain ⟨hstart, hfinish⟩ := hlater.between now hmem
      exact ⟨Nat.le_trans hearlier.le hstart, hfinish⟩
    · obtain ⟨hstart, hfinish⟩ := hearlier.between now hmem
      exact ⟨hstart, Nat.le_trans hfinish hlater.le⟩
  · rw [htimes, List.pairwise_append]
    refine ⟨hlater.ordered, hearlier.ordered, ?_⟩
    intro last hlast first hfirst
    exact Nat.le_trans (hearlier.between first hfirst).2 (hlater.between last hlast).1

end Log

variable {ω : Type} {α : Type}

namespace Network

/-- Work on a channel between two states of a network, which moves these bytes. -/
structure Conducts (network : Network ω) (channel : ChannelId) (deadline : Deadline)
    (failure : Option IoError) (sent received : Bytes) (before after : Net ω)
    (done : List Event) : Prop where
  opened : after.opened = before.opened
  log : after.log = done ++ before.log
  work : Work channel deadline done failure
  clocked : Log.Clocked (network.time before.world) (network.time after.world) done
  sent : Log.sent channel done = sent
  received : Log.received channel done = received

variable {network : Network ω} {channel : ChannelId} {deadline : Deadline}
  {failure : Option IoError} {sent received : Bytes} {before after last : Net ω}
  {done later : List Event}

namespace Conducts

theorem moved (h : network.Conducts channel deadline failure sent received before after done) :
    Moved channel sent received before after :=
  ⟨h.opened, done, h.log, h.work.serves, h.sent, h.received⟩

theorem refl (network : Network ω) (channel : ChannelId) (deadline : Deadline) (net : Net ω) :
    network.Conducts channel deadline none [] [] net net [] :=
  ⟨rfl, rfl, .idle, Log.clocked_nil _, rfl, rfl⟩

theorem trans {sentNext receivedNext : Bytes}
    (hfirst : network.Conducts channel deadline none sent received before after done)
    (hnext : network.Conducts channel deadline failure sentNext receivedNext after last later) :
    network.Conducts channel deadline failure (sent ++ sentNext) (received ++ receivedNext)
      before last (later ++ done) where
  opened := hnext.opened.trans hfirst.opened
  log := by rw [hnext.log, hfirst.log, List.append_assoc]
  work := hfirst.work.append hnext.work
  clocked := hfirst.clocked.append hnext.clocked
  sent := by rw [Log.sent_append, hfirst.sent, hnext.sent]
  received := by rw [Log.received_append, hfirst.received, hnext.received]

theorem resumed {error : IoError}
    (h : network.Conducts channel deadline (some error) sent received before after done)
    (hinterrupted : error.isInterruption = true) :
    network.Conducts channel deadline none sent received before after done :=
  { h with work := .resumed h.work hinterrupted }

end Conducts

/-- What an operation on a channel leaves in the log: bytes are in it only if it succeeds. -/
structure Logs (channel : ChannelId) (event : Except IoError α → Event) : Prop where
  transfer : ∀ result, (event result).transfer? = some channel
  failure : ∀ error, (event (.error error)).failure? = some error
  accepted : ∀ error, (event (.error error)).accepted channel = []
  given : ∀ error, (event (.error error)).given channel = []

section Operations

variable {operation : ω → Except IoError α × ω} {event : Except IoError α → Event}
  {result : Except IoError α}

/-- The operation alone is a turn without a deadline. -/
theorem conducts_perform (hlogs : Logs channel event)
    (htime : ∀ world, network.time world ≤ network.time (operation world).2)
    (hrun : perform operation event before = (result, after)) :
    network.Conducts channel none (event result).failure? ((event result).accepted channel)
        ((event result).given channel) before after [event result] ∧
      operation before.world = (result, after.world) := by
  simp only [perform, Prod.mk.injEq] at hrun
  obtain ⟨rfl, rfl⟩ := hrun
  have htransfer := hlogs.transfer (operation before.world).1
  refine ⟨⟨rfl, rfl, ?_, ?_, by simp, by simp⟩, rfl⟩
  · exact .next .idle (.untimed htransfer)
  · exact Log.clocked_single (Event.time_of_transfer htransfer) (htime before.world)

/-- An operation within a deadline is one turn; if it succeeds it is logged last. -/
theorem conducts_within (hlogs : Logs channel event)
    (htime : ∀ world, network.time world ≤ network.time (operation world).2)
    (hrun : network.within channel deadline operation event before = (result, after)) :
    ∃ done, network.Conducts channel deadline (event result).failure?
        ((event result).accepted channel) ((event result).given channel) before after done ∧
      ∀ value, result = .ok value → (∃ rest, done = event result :: rest) ∧
        ∃ world, operation world = (.ok value, after.world) := by
  unfold within at hrun
  split at hrun
  · obtain ⟨hconducts, hoperation⟩ := conducts_perform hlogs htime hrun
    refine ⟨_, hconducts, ?_⟩
    rintro value rfl
    exact ⟨⟨[], rfl⟩, before.world, hoperation⟩
  rename_i expiry
  dsimp only at hrun
  have hlooked := Log.clocked_time (network.time before.world)
  split at hrun
  · -- too late: nothing is done on the channel
    rename_i hlate
    cases hrun
    refine ⟨[_], ⟨rfl, rfl, ?_, hlooked, ?_, ?_⟩, by simp⟩
    · rw [hlogs.failure]
      exact .next .idle (.late hlate)
    · rw [hlogs.accepted]
      rfl
    · rw [hlogs.given]
      rfl
  rename_i hnow
  rw [Nat.not_le] at hnow
  split at hrun
  · rename_i error allowed hallow
    cases hrun
    simp only [perform, Prod.mk.injEq] at hallow
    obtain ⟨hresult, rfl⟩ := hallow
    refine ⟨[_, _], ⟨rfl, rfl, ?_, ?_, ?_, ?_⟩, by simp⟩
    · rw [hlogs.failure, hresult]
      exact .next .idle (.unallowed hnow)
    · exact hlooked.append (Log.clocked_single rfl (network.allow_time_le _ _ _))
    · rw [hlogs.accepted]
      rfl
    · rw [hlogs.given]
      rfl
  · rename_i allowed hallow
    simp only [perform, Prod.mk.injEq] at hallow
    obtain ⟨hresult, rfl⟩ := hallow
    simp only [perform, Prod.mk.injEq] at hrun
    obtain ⟨rfl, rfl⟩ := hrun
    have htransfer := fun world => hlogs.transfer (operation world).1
    refine ⟨[_, _, _], ⟨rfl, rfl, ?_, ?_, ?_, ?_⟩, ?_⟩
    · rw [hresult]
      exact .next .idle (.timed hnow (htransfer _))
    · exact (hlooked.append (Log.clocked_single rfl (network.allow_time_le _ _ _))).append
        (Log.clocked_single (Event.time_of_transfer (htransfer _)) (htime _))
    · simp [Event.accepted]
    · simp [Event.given]
    · intro value hvalue
      exact ⟨⟨_, rfl⟩, _, Prod.ext hvalue rfl⟩

/-- An operation that is tried again after interruptions is as many turns. -/
theorem conducts_persist (hlogs : Logs channel event)
    (htime : ∀ world, network.time world ≤ network.time (operation world).2)
    {attempt : Attempt (Net ω) α}
    (hattempt : attempt.run = network.within channel deadline operation event)
    (hrun : attempt.persist before = (result, after)) :
    ∃ done, network.Conducts channel deadline (event result).failure?
        ((event result).accepted channel) ((event result).given channel) before after done ∧
      ∀ value, result = .ok value → ∃ world, operation world = (.ok value, after.world) := by
  -- an interruption moves nothing, so the last turn starts where nothing has been moved
  obtain ⟨start, ⟨earlier, hearlier⟩, hlast⟩ := attempt.exists_run_eq_persist
    (fun net => ∃ done, network.Conducts channel deadline none [] [] before net done)
    ⟨[], .refl network channel deadline before⟩ (by
      rintro first error next ⟨done, hreached⟩ hinterrupted hkind
      rw [hattempt] at hinterrupted
      obtain ⟨piece, hturn, -⟩ := conducts_within hlogs htime hinterrupted
      rw [hlogs.failure, hlogs.accepted, hlogs.given] at hturn
      exact ⟨piece ++ done, hreached.trans (hturn.resumed hkind)⟩)
  rw [hrun, hattempt] at hlast
  obtain ⟨piece, hturn, hvalue⟩ := conducts_within hlogs htime hlast
  exact ⟨piece ++ earlier, hearlier.trans hturn, fun value hok => (hvalue value hok).2⟩

end Operations

theorem logs_read (channel : ChannelId) (limit : Nat) : Logs channel (.read channel limit) :=
  ⟨fun _ => rfl, fun _ => rfl, fun _ => rfl, fun _ => rfl⟩

theorem logs_write (channel : ChannelId) (bytes : Bytes) : Logs channel (.write channel bytes) :=
  ⟨fun _ => rfl, fun _ => rfl, fun _ => rfl, fun _ => rfl⟩

theorem logs_flush (channel : ChannelId) : Logs channel (.flush channel) :=
  ⟨fun _ => rfl, fun _ => rfl, fun _ => rfl, fun _ => rfl⟩

/-! ## Streams on a channel -/

/-- The work done on a channel, as an account of what streams do. -/
def transferOn (network : Network ω) (channel : ChannelId) (deadline : Deadline) :
    Transfer (Net ω) where
  moves sent received before after :=
    ∃ done, network.Conducts channel deadline none sent received before after done
  breaks error sent received before after :=
    ∃ done, network.Conducts channel deadline (some error) sent received before after done
  refl net := ⟨[], .refl network channel deadline net⟩
  trans := by
    rintro _ _ _ _ _ _ _ ⟨done, hfirst⟩ ⟨later, hnext⟩
    exact ⟨later ++ done, hfirst.trans hnext⟩
  broken := by
    rintro _ _ _ _ _ _ _ _ ⟨done, hfirst⟩ ⟨later, hnext⟩
    exact ⟨later ++ done, hfirst.trans hnext⟩

theorem conducts_read {limit : Nat} {result : Except IoError Bytes}
    (hrun : (network.transport.source channel deadline).read limit before = (result, after)) :
    ∃ done, network.Conducts channel deadline (Event.read channel limit result).failure?
        ((Event.read channel limit result).accepted channel)
        ((Event.read channel limit result).given channel) before after done ∧
      ∀ bytes, result = .ok bytes → bytes.length ≤ limit := by
  have hattempt : (network.reading channel deadline limit).run =
      network.within channel deadline (network.read channel limit) (.read channel limit) := rfl
  obtain ⟨done, hconducts, hvalue⟩ := conducts_persist (logs_read channel limit)
    (network.read_time_le channel limit) hattempt hrun
  refine ⟨done, hconducts, ?_⟩
  intro bytes hbytes
  obtain ⟨world, hworld⟩ := hvalue bytes hbytes
  exact network.read_length_le hworld

theorem conducts_write {bytes : Bytes} {result : Except IoError Nat}
    (hrun : (network.transport.sink channel deadline).write bytes before = (result, after)) :
    ∃ done, network.Conducts channel deadline (Event.write channel bytes result).failure?
        ((Event.write channel bytes result).accepted channel)
        ((Event.write channel bytes result).given channel) before after done ∧
      ∀ count, result = .ok count → count ≤ bytes.length := by
  have hattempt : (network.writing channel deadline bytes).run =
      network.within channel deadline (network.write channel bytes) (.write channel bytes) := rfl
  obtain ⟨done, hconducts, hvalue⟩ := conducts_persist (logs_write channel bytes)
    (network.write_time_le channel bytes) hattempt hrun
  refine ⟨done, hconducts, ?_⟩
  intro count hcount
  obtain ⟨world, hworld⟩ := hvalue count hcount
  exact network.write_le_length hworld

/-- A flush that succeeds is logged last. -/
theorem conducts_flush {result : Except IoError Unit}
    (hrun : (network.transport.sink channel deadline).flush before = (result, after)) :
    ∃ done, network.Conducts channel deadline (Event.flush channel result).failure? [] []
        before after done ∧
      (result = .ok () → ∃ rest, done = .flush channel (.ok ()) :: rest) := by
  obtain ⟨done, hconducts, hvalue⟩ :=
    conducts_within (logs_flush channel) (network.flush_time_le channel) hrun
  refine ⟨done, hconducts, ?_⟩
  rintro rfl
  exact (hvalue () rfl).1

theorem accounted_source (network : Network ω) (channel : ChannelId) (deadline : Deadline) :
    (network.transport.source channel deadline).Accounted
      (network.transferOn channel deadline) where
  read_ok hrun := by
    obtain ⟨done, hconducts, hlength⟩ := conducts_read hrun
    refine ⟨hlength _ rfl, done, ?_⟩
    simpa [Event.failure?, Event.accepted, Event.given] using hconducts
  read_none hrun := by
    obtain ⟨done, hconducts, -⟩ := conducts_read hrun
    exact ⟨done, by simpa [Event.failure?, Event.accepted, Event.given] using hconducts⟩
  read_error hrun := by
    obtain ⟨done, hconducts, -⟩ := conducts_read hrun
    exact ⟨done, hconducts⟩

theorem accounted_sink (network : Network ω) (channel : ChannelId) (deadline : Deadline) :
    (network.transport.sink channel deadline).Accounted
      (network.transferOn channel deadline) where
  write_ok hrun := by
    obtain ⟨done, hconducts, hlength⟩ := conducts_write hrun
    refine ⟨hlength _ rfl, done, ?_⟩
    simpa [Event.failure?, Event.accepted, Event.given] using hconducts
  write_none hrun := by
    obtain ⟨done, hconducts, -⟩ := conducts_write hrun
    exact ⟨done, by simpa [Event.failure?, Event.accepted, Event.given] using hconducts⟩
  write_error hrun := by
    obtain ⟨done, hconducts, -⟩ := conducts_write hrun
    exact ⟨done, hconducts⟩
  flush_ok hrun := by
    obtain ⟨done, hconducts, -⟩ := conducts_flush hrun
    exact ⟨done, hconducts⟩
  flush_error hrun := by
    obtain ⟨done, hconducts, -⟩ := conducts_flush hrun
    exact ⟨done, hconducts⟩

end Network
end MaskedList
