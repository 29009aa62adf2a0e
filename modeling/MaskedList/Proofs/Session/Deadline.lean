import MaskedList.Proofs.Session.Service
import MaskedList.Proofs.Session.Transmission

/-!
# One deadline for the whole exchange

An exchange that may take so much time has one deadline, counted from the look at the clock
that it begins with.  `Log.InTime` says that it keeps to it: in front of every read, write
and flush, a look at the clock showed an earlier moment and the channel was given just the
time left from there, which is never more than before; and a look that shows the deadline or
a later moment is the last thing that is done.  All tries of all reads and writes are held
to this, in however many pieces the bytes move and however often they are interrupted.  An
exchange without a deadline never looks at the clock.
-/

namespace MaskedList

variable {ω : Type} {α : Type}

/-- The times that channels were to be given, last one first. -/
def Log.spans (log : List Event) : List Nat :=
  log.filterMap Event.allowed?

@[simp]
theorem Log.spans_cons (event : Event) (log : List Event) :
    Log.spans (event :: log) = event.allowed?.toList ++ Log.spans log := by
  cases h : event.allowed? <;> simp [Log.spans, h]

/-- What is done on a channel keeps to a deadline that is so far from the start. -/
structure Log.InTime (channel : ChannelId) (start span : Nat) (log : List Event) : Prop where
  /-- In front of an operation, a look shows that there is time, and the channel is given it. -/
  preceded : ∀ event earlier, event :: earlier <:+ log → event.transfer?.isSome = true →
    ∃ now rest, earlier = .allow channel (start + span - now) (.ok ()) :: .time now :: rest ∧
      start ≤ now ∧ now < start + span
  positive : ∀ left ∈ Log.spans log, 0 < left ∧ left ≤ span
  /-- The channel is given ever less time, last one first. -/
  shrinking : (Log.spans log).Pairwise (· ≤ ·)
  /-- Nothing is done any more once the time is up, and nothing else stops after a look. -/
  late : ∀ now earlier, .time now :: earlier <:+ log →
    (start + span ≤ now ↔ log = .time now :: earlier)

/-! ## Work against a deadline -/

section Work

variable {channel : ChannelId} {expiry : Nat} {done : List Event} {failure : Option IoError}

/-- An operation is done only in time, and with no more than the time that is left. -/
theorem Work.preceded (h : Work channel (some expiry) done failure) {event : Event}
    {earlier : List Event} (hsuffix : event :: earlier <:+ done)
    (htransfer : event.transfer?.isSome = true) :
    ∃ now rest, earlier = .allow channel (expiry - now) (.ok ()) :: .time now :: rest ∧
      now < expiry := by
  induction h with
  | idle => simp at hsuffix
  | resumed _ _ ih => exact ih hsuffix
  | next _ hturn ih =>
    -- an event of the last try is one of three; every other one was there before
    cases hturn with
    | late hlate =>
      rw [List.singleton_append, List.suffix_cons_iff] at hsuffix
      rcases hsuffix with heq | hsuffix
      · cases heq
        cases htransfer
      · exact ih hsuffix
    | unallowed hnow =>
      simp only [List.cons_append, List.nil_append, List.suffix_cons_iff] at hsuffix
      rcases hsuffix with heq | heq | hsuffix
      · cases heq
        cases htransfer
      · cases heq
        cases htransfer
      · exact ih hsuffix
    | timed hnow hevent =>
      simp only [List.cons_append, List.nil_append, List.suffix_cons_iff] at hsuffix
      rcases hsuffix with heq | heq | heq | hsuffix
      · cases heq
        exact ⟨_, _, rfl, hnow⟩
      · cases heq
        cases htransfer
      · cases heq
        cases htransfer
      · exact ih hsuffix

/-- Each look that is in time gives the channel what is left from there. -/
theorem Work.spans_eq (h : Work channel (some expiry) done failure) :
    Log.spans done = ((Log.times done).filter (· < expiry)).map (expiry - ·) := by
  induction h with
  | idle => rfl
  | resumed _ _ ih => exact ih
  | next _ hturn ih =>
    cases hturn with
    | late hlate => simp [Event.allowed?, Event.time?, ih, Nat.not_lt.mpr hlate]
    | unallowed hnow => simp [Event.allowed?, Event.time?, ih, hnow]
    | timed hnow hevent =>
      simp only [List.cons_append, List.nil_append, Log.spans_cons, Log.times_cons,
        Event.allowed_of_transfer hevent, Event.time_of_transfer hevent]
      simp [Event.allowed?, Event.time?, ih, hnow]

/-- A look that shows the time to be up is the last thing done, and a failure for that
reason. -/
theorem Work.late (h : Work channel (some expiry) done failure) {now : Nat}
    {earlier : List Event} (hsuffix : .time now :: earlier <:+ done) (hlate : expiry ≤ now) :
    done = .time now :: earlier ∧ failure = some .deadlineExceeded := by
  induction h with
  | idle => simp at hsuffix
  | resumed _ hinterrupted ih =>
    obtain ⟨-, herror⟩ := ih hsuffix
    cases herror
    cases hinterrupted
  | next _ hturn ih =>
    -- the tries before the last one have left no failure
    have hbefore := fun h => (ih h).2
    cases hturn with
    | late hnow =>
      rw [List.singleton_append, List.suffix_cons_iff] at hsuffix
      rcases hsuffix with heq | hsuffix
      · cases heq
        exact ⟨rfl, rfl⟩
      · cases hbefore hsuffix
    | unallowed hnow =>
      simp only [List.cons_append, List.nil_append, List.suffix_cons_iff] at hsuffix
      rcases hsuffix with heq | heq | hsuffix
      · cases heq
      · cases heq
        omega
      · cases hbefore hsuffix
    | timed hnow hevent =>
      simp only [List.cons_append, List.nil_append, List.suffix_cons_iff] at hsuffix
      rcases hsuffix with heq | heq | heq | hsuffix
      · cases heq
        cases hevent
      · cases heq
      · cases heq
        omega
      · cases hbefore hsuffix

/-- Nothing else stops after a look at the clock. -/
theorem Work.late_of_last (h : Work channel (some expiry) done failure) {now : Nat}
    {earlier : List Event} (hlast : done = .time now :: earlier) : expiry ≤ now := by
  induction h with
  | idle => cases hlast
  | resumed _ _ ih => exact ih hlast
  | next _ hturn ih =>
    cases hturn with
    | late hlate =>
      cases hlast
      exact hlate
    | unallowed => cases hlast
    | timed hnow hevent =>
      cases hlast
      cases hevent

/-- Work by a clock that does not go back keeps to its deadline. -/
theorem Work.inTime {start span finish : Nat} (h : Work channel (some (start + span)) done failure)
    (hclocked : Log.Clocked start finish done) : Log.InTime channel start span done := by
  refine ⟨?_, ?_, ?_, ?_⟩
  · intro event earlier hsuffix htransfer
    obtain ⟨now, rest, rfl, hnow⟩ := h.preceded hsuffix htransfer
    have hmem : now ∈ Log.times done := by
      refine List.mem_filterMap.mpr ⟨.time now, hsuffix.subset ?_, rfl⟩
      simp
    exact ⟨now, rest, rfl, (hclocked.between now hmem).1, hnow⟩
  · intro left hleft
    rw [h.spans_eq] at hleft
    simp only [List.mem_map, List.mem_filter, decide_eq_true_eq] at hleft
    obtain ⟨now, ⟨hmem, hnow⟩, rfl⟩ := hleft
    have hstart := (hclocked.between now hmem).1
    omega
  · rw [h.spans_eq, List.pairwise_map]
    refine (hclocked.ordered.filter _).imp ?_
    intro later earlier hle
    exact Nat.sub_le_sub_left hle (start + span)
  · intro now earlier hsuffix
    exact ⟨fun hlate => (h.late hsuffix hlate).1, h.late_of_last⟩

/-- The last try leaves its own failure: the clock was late, or the channel failed. -/
theorem Work.last_failure {deadline : Deadline} {error : IoError}
    (h : Work channel deadline done (some error)) :
    ∃ event earlier, done = event :: earlier ∧
      ((∃ now, event = .time now) ∨ event.failure? = some error) := by
  generalize hfailure : some error = failure at h
  cases h with
  | idle => cases hfailure
  | resumed => cases hfailure
  | next _ hturn =>
    cases hturn with
    | untimed => exact ⟨_, _, rfl, Or.inr rfl⟩
    | late => exact ⟨_, _, rfl, Or.inl ⟨_, rfl⟩⟩
    | unallowed => exact ⟨_, _, rfl, Or.inr rfl⟩
    | timed => exact ⟨_, _, rfl, Or.inr rfl⟩

/-- Without a deadline there are operations on the channel and nothing else. -/
theorem Work.transfers (h : Work channel none done failure) :
    ∀ event ∈ done, event.transfer? = some channel := by
  induction h with
  | idle => simp
  | resumed _ _ ih => exact ih
  | next _ hturn ih =>
    intro event hmem
    cases hturn with
    | untimed hevent =>
      rcases List.mem_cons.mp hmem with rfl | hmem
      · exact hevent
      · exact ih event hmem

end Work

/-! ## Calls -/

theorem Error.ofExpired_eq_timeout_iff {error : IoError} :
    Error.ofExpired (.io error) = .timeout ↔ error.isExpiry = true := by
  cases h : error.isExpiry <;> simp [ofExpired, h]

namespace Network.Conducted

variable {network : Network ω} {channel : ChannelId} {timeout : Option Nat} {command : Command}
  {before after : Net ω} {done : List Event} {outcome : Except Error Response}

/-- An exchange that is allowed some time keeps to its deadline, and is timed out if the clock
was late. -/
theorem inTime {span : Nat}
    (h : network.Conducted channel (some span) command before after done outcome) :
    Log.InTime channel (network.time before.world) span done ∧
      ∀ now earlier, done = .time now :: earlier → outcome = .error .timeout := by
  obtain ⟨failure, _, _, hconducts, houtcome, -⟩ := h.conducts
  have hwork : Work channel (some (network.time before.world + span)) done failure :=
    hconducts.work
  refine ⟨hwork.inTime hconducts.clocked, ?_⟩
  intro now earlier hlast
  have hsuffix : .time now :: earlier <:+ done := hlast ▸ List.suffix_rfl
  obtain ⟨-, rfl⟩ := hwork.late hsuffix (hwork.late_of_last hlast)
  exact houtcome _ rfl

/-- An exchange is timed out only if the clock was late or the channel said so. -/
theorem expired (h : network.Conducted channel timeout command before after done outcome)
    (htimeout : outcome = .error .timeout) :
    ∃ event earlier, done = event :: earlier ∧ ((∃ now, event = .time now) ∨
      ∃ error, event.failure? = some error ∧ error.isExpiry = true) := by
  obtain ⟨failure, _, _, hconducts, houtcome, hnone⟩ := h.conducts
  cases failure with
  | none => exact absurd htimeout (hnone rfl)
  | some error =>
    have hexpiry : error.isExpiry = true := by
      rw [houtcome error rfl] at htimeout
      exact Error.ofExpired_eq_timeout_iff.mp (Except.error.inj htimeout)
    obtain ⟨event, earlier, hdone, hlate | hfailure⟩ := hconducts.work.last_failure
    · exact ⟨event, earlier, hdone, Or.inl hlate⟩
    · exact ⟨event, earlier, hdone, Or.inr ⟨error, hfailure, hexpiry⟩⟩

/-- Without a deadline the clock is not looked at, the channel is given no time, and only the
channel itself can run out of time. -/
theorem unbounded (h : network.Conducted channel none command before after done outcome) :
    (∀ event ∈ done, event.time? = none ∧ event.allowed? = none) ∧
      (outcome = .error .timeout → ∃ event ∈ done, event.transfer? = some channel ∧
        ∃ error, event.failure? = some error ∧ error.isExpiry = true) := by
  obtain ⟨_, _, _, hconducts, -⟩ := h.conducts
  have htransfers := hconducts.work.transfers
  refine ⟨?_, ?_⟩
  · intro event hmem
    have hevent := htransfers event hmem
    exact ⟨Event.time_of_transfer hevent, Event.allowed_of_transfer hevent⟩
  · intro htimeout
    obtain ⟨event, earlier, rfl, ⟨now, rfl⟩ | hfailure⟩ := h.expired htimeout
    · cases htransfers _ List.mem_cons_self
    · exact ⟨event, List.mem_cons_self, htransfers event List.mem_cons_self, hfailure⟩

end Network.Conducted

namespace Session

/-- An exchange that is allowed so much time, and the closing of its channel if there is one:
the exchange keeps to its deadline, and if the clock was late the command is timed out, the
channel is closed and the slot discarded. -/
structure Bounded (channel : ChannelId) (start span : Nat) (exchange closing : List Event)
    (role : Role) (result : Ending (Except Error α)) (ended : Session) : Prop where
  inTime : Log.InTime channel start span exchange
  closing_eq : closing = [] ∨ ∃ outcome, closing = [.close channel outcome]
  late : ∀ now earlier, exchange = .time now :: earlier →
    result = .returned (.error .timeout) ∧ (∃ outcome, closing = [.close channel outcome]) ∧
      ended.slot role = .discarded
  /-- Otherwise the command is timed out only if the channel itself ran out of time. -/
  expired : result = .returned (.error .timeout) → ∃ event earlier,
    exchange = event :: earlier ∧ ((∃ now, event = .time now) ∨
      ∃ error, event.failure? = some error ∧ error.isExpiry = true)

variable {network : Network ω} {session ended : Session} {role : Role} {channel : ChannelId}
  {command : Command} {before after : Net ω} {done : List Event}
  {result : Ending (Except Error α)} {decode : Response → Ending (Except Error α)}

/-- A response that was read is no reason for a timeout. -/
theorem timeout_of_decoded {outcome : Except Error Response}
    (hdecode : ∀ response, decode response ≠ .returned (.error .timeout))
    (h : decoded decode outcome = .returned (.error .timeout)) : outcome = .error .timeout := by
  cases outcome with
  | ok response => exact absurd h (hdecode response)
  | error error =>
    cases h
    rfl

theorem Talked.bounded {span : Nat} (hspan : session.config.timeout = some span)
    (hdecode : ∀ response, decode response ≠ .returned (.error .timeout))
    (h : Talked network session role channel command decode before done result ended after) :
    ∃ exchange closing, done = closing ++ (exchange ++ [.time (network.time before.world)]) ∧
      Bounded channel (network.time before.world) span exchange closing role result ended := by
  have hlook : network.firstLook session.config.timeout before =
      [.time (network.time before.world)] := by
    rw [hspan]
    rfl
  cases h with
  | @kept exchange outcome _ hconducted hharmless =>
    have hexpired := hconducted.expired
    rw [hspan] at hconducted
    obtain ⟨hinTime, htimedOut⟩ := hconducted.inTime
    refine ⟨exchange, [], by rw [hlook]; rfl, hinTime, Or.inl rfl, ?_, ?_⟩
    · -- a call that is timed out does not leave its channel in use
      intro now earlier hlast
      have hnot := hharmless .timeout (by rw [htimedOut now earlier hlast]; rfl)
      cases hnot
    · exact fun htimeout => hexpired (timeout_of_decoded hdecode htimeout)
  | @givenUp exchange outcome error last hconducted hvalue hdesync =>
    have hexpired := hconducted.expired
    rw [hspan] at hconducted
    obtain ⟨hinTime, htimedOut⟩ := hconducted.inTime
    refine ⟨exchange, [_], by rw [hlook]; rfl, hinTime, Or.inr ⟨_, rfl⟩, ?_, ?_⟩
    · intro now earlier hlast
      rw [htimedOut now earlier hlast] at hvalue
      exact ⟨hvalue.symm, ⟨_, rfl⟩, slot_setSlot_self session role .discarded⟩
    · rintro ⟨⟩
      exact hexpired (timeout_of_decoded hdecode hvalue)

/-- A call on a channel, without any bound on its time. -/
structure Unbounded (done : List Event) (result : Ending (Except Error α)) : Prop where
  unlooked : ∀ event ∈ done, event.time? = none ∧ event.allowed? = none
  /-- Only the channel itself can run out of time. -/
  expired : result = .returned (.error .timeout) → ∃ event ∈ done,
    event.transfer?.isSome = true ∧
      ∃ error, event.failure? = some error ∧ error.isExpiry = true

theorem Talked.unbounded (hspan : session.config.timeout = none)
    (hdecode : ∀ response, decode response ≠ .returned (.error .timeout))
    (h : Talked network session role channel command decode before done result ended after) :
    Unbounded done result := by
  have hlook : network.firstLook session.config.timeout before = [] := by
    rw [hspan]
    rfl
  cases h with
  | @kept exchange outcome _ hconducted hharmless =>
    rw [hspan] at hconducted
    obtain ⟨hunlooked, hexpired⟩ := hconducted.unbounded
    rw [hlook, List.append_nil]
    refine ⟨hunlooked, ?_⟩
    intro htimeout
    obtain ⟨event, hmem, htransfer, hfailure⟩ := hexpired (timeout_of_decoded hdecode htimeout)
    exact ⟨event, hmem, by rw [htransfer]; rfl, hfailure⟩
  | @givenUp exchange outcome error last hconducted hvalue hdesync =>
    rw [hspan] at hconducted
    obtain ⟨hunlooked, hexpired⟩ := hconducted.unbounded
    rw [hlook, List.append_nil]
    refine ⟨?_, ?_⟩
    · intro event hmem
      rcases List.mem_cons.mp hmem with rfl | hmem
      · exact ⟨rfl, rfl⟩
      · exact hunlooked event hmem
    · rintro ⟨⟩
      obtain ⟨event, hmem, htransfer, hfailure⟩ := hexpired (timeout_of_decoded hdecode hvalue)
      exact ⟨event, List.mem_cons_of_mem _ hmem, by rw [htransfer]; rfl, hfailure⟩

/-- Reading data never runs out of time. -/
theorem interpret_ne_timeout {opcode : Opcode} (response : Response) :
    interpret opcode.readData response ≠ .returned (.error .timeout) := by
  intro htimeout
  obtain ⟨fault, hfault⟩ := Opcode.readData_eq_error (interpret_eq_error htimeout)
  cases hfault

theorem Traced.unbounded {opcode : Opcode} {result : Ending (Except Error (Reply opcode.Data))}
    (hspan : session.config.timeout = none)
    (h : Traced network session command (interpret opcode.readData) before done result ended
      after) : Unbounded done result := by
  cases h with
  | closed => exact ⟨by simp, by simp⟩
  | unopened => exact ⟨by simp [dialed, Event.time?, Event.allowed?], by simp⟩
  | held hslot htalked => exact htalked.unbounded hspan interpret_ne_timeout
  | @reopened channel destroyed opened _ rest _ _ hslot hdial htalked =>
    obtain ⟨hunlooked, hexpired⟩ :=
      htalked.unbounded (by simpa using hspan) interpret_ne_timeout
    refine ⟨?_, ?_⟩
    · intro event hmem
      rcases List.mem_append.mp hmem with hmem | hmem
      · exact hunlooked event hmem
      · rw [List.mem_singleton.mp hmem]
        exact ⟨rfl, rfl⟩
    · intro htimeout
      obtain ⟨event, hmem, hevent⟩ := hexpired htimeout
      exact ⟨event, List.mem_append_left _ hmem, hevent⟩

theorem Traced.bounded {opcode : Opcode} {result : Ending (Except Error (Reply opcode.Data))}
    {span : Nat} (hspan : session.config.timeout = some span)
    (h : Traced network session command (interpret opcode.readData) before done result ended
      after) :
    (∀ event ∈ done, event.target? = none ∧ event.time? = none) ∨
      ∃ channel start opening exchange closing,
        done = closing ++ (exchange ++ .time start :: opening) ∧
          (∀ event ∈ opening, event.target? = none ∧ event.time? = none) ∧
          Bounded channel start span exchange closing command.role result ended := by
  cases h with
  | closed => exact Or.inl (by simp)
  | unopened => exact Or.inl (by simp [dialed, Event.target?, Event.time?])
  | held hslot htalked =>
    obtain ⟨exchange, closing, rfl, hbounded⟩ := htalked.bounded hspan interpret_ne_timeout
    exact Or.inr ⟨_, _, [], exchange, closing, rfl, by simp, hbounded⟩
  | @reopened channel destroyed opened _ rest _ _ hslot hdial htalked =>
    obtain ⟨exchange, closing, rfl, hbounded⟩ :=
      htalked.bounded (by simpa using hspan) interpret_ne_timeout
    exact Or.inr ⟨_, _, [session.dialed command.role (.ok channel)], exchange, closing,
      by simp, by simp [dialed, Event.target?, Event.time?], hbounded⟩

/-- A call that has a bound on its time either does nothing on any channel, for its slot is closed
or no channel could be opened, or begins an exchange by looking at the clock: from there on
every read, write and flush is done in time, after the channel was given the time left, which
never grows; and if the clock is found to have come to the deadline then nothing more is done,
the command is timed out, the channel is closed and the slot discarded.  A call that has no such
bound never looks at the clock and never gives a channel a limit, and is timed out only if an
operation of the channel itself says so.  What the looks show is the network's own time. -/
theorem deadline_bounds_the_whole_exchange (network : Network ω) (session : Session)
    (command : Command) (opcode : Opcode) (before : Net ω) :
    let ((result, ended), after) :=
      session.call network.transport command (interpret opcode.readData) before
    ∃ done, after.log = done ++ before.log ∧
      Log.Clocked (network.time before.world) (network.time after.world) done ∧
      match session.config.timeout with
      | none => Unbounded done result
      | some span => 0 < span ∧
        ((∀ event ∈ done, event.target? = none ∧ event.time? = none) ∨
          ∃ channel start opening exchange closing,
            done = closing ++ (exchange ++ .time start :: opening) ∧
              (∀ event ∈ opening, event.target? = none ∧ event.time? = none) ∧
              Bounded channel start span exchange closing command.role result ended) := by
  rcases hrun : session.call network.transport command (interpret opcode.readData) before with
    ⟨⟨result, ended⟩, after⟩
  obtain ⟨done, htraced⟩ := traced_call network hrun
  refine ⟨done, htraced.log_eq, htraced.clocked, ?_⟩
  cases hspan : session.config.timeout with
  | none => exact htraced.unbounded hspan
  | some span =>
    have hpositive : span ≠ 0 := by
      rintro rfl
      exact session.config.timeout_ne_zero hspan
    exact ⟨Nat.pos_of_ne_zero hpositive, htraced.bounded hspan⟩

/-- A script whose store brings the header of its answer byte by byte, each after sixty
milliseconds. -/
def trickling : ScriptedWorld where
  openings :=
    [.accept { reads := [.pause 60, .data [0], .pause 60, .data [0], .pause 60, .data [0]] } false,
      .accept {} false]

/-- A session with that store, which allows an exchange a hundred milliseconds. -/
def hurried : Session where
  config := { timeoutMs := 100 }
  read := .connected ⟨11001, 0⟩
  write := .connected ⟨11002, 0⟩

/-- The network on which that session has just been connected. -/
def hurriedNet : Net ScriptedWorld :=
  (Session.connect scriptedNetwork.transport hurried.config (Net.fresh trickling)).2

/-- The third byte is not waited for. -/
theorem deadline_bounds_the_whole_exchange_trickling :
    Reached scriptedNetwork hurried.config trickling [] hurried hurriedNet ∧
      let ((result, ended), after) :=
        hurried.call scriptedNetwork.transport .ping (interpret Opcode.ping.readData) hurriedNet
      result = .returned (.error .timeout) ∧ ended.slot .read = .discarded ∧
        Log.received ⟨11001, 0⟩ after.log = [0, 0] ∧ Log.closed after.log = [⟨11001, 0⟩] ∧
        ∃ done channel start opening exchange closing, after.log = done ++ hurriedNet.log ∧
          done = closing ++ (exchange ++ .time start :: opening) ∧
          Bounded channel start (milliseconds 100) exchange closing .read result ended := by
  have hconnect : Session.connect scriptedNetwork.transport hurried.config
      (Net.fresh trickling) = (.ok hurried, hurriedNet) :=
    Prod.ext (by decide +kernel) rfl
  refine ⟨.connected hconnect, ?_⟩
  have hbounded :=
    deadline_bounds_the_whole_exchange scriptedNetwork hurried .ping .ping hurriedNet
  have hresult : (hurried.call scriptedNetwork.transport .ping
      (interpret Opcode.ping.readData) hurriedNet).1.1 = .returned (.error .timeout) := by
    decide +kernel
  have hslot : (hurried.call scriptedNetwork.transport .ping
      (interpret Opcode.ping.readData) hurriedNet).1.2.slot .read = .discarded := by
    decide +kernel
  have hreceived : Log.received ⟨11001, 0⟩ (hurried.call scriptedNetwork.transport .ping
      (interpret Opcode.ping.readData) hurriedNet).2.log = [0, 0] := by
    decide +kernel
  have hclosed : Log.closed (hurried.call scriptedNetwork.transport .ping
      (interpret Opcode.ping.readData) hurriedNet).2.log = [⟨11001, 0⟩] := by
    decide +kernel
  rcases hrun : hurried.call scriptedNetwork.transport .ping
    (interpret Opcode.ping.readData) hurriedNet with ⟨⟨result, ended⟩, after⟩
  rw [hrun] at hbounded hresult hslot hreceived hclosed
  obtain ⟨done, hlog, -, -, hcase⟩ := hbounded
  rcases hcase with hidle | ⟨channel, start, opening, exchange, closing, hdone, -, hkept⟩
  · -- bytes came in, so something was done on a channel
    have hquiet : Log.received ⟨11001, 0⟩ done = [] := by
      rw [Log.received, List.flatMap_eq_nil_iff]
      intro event hmem
      apply Event.given_of_target_ne
      rw [(hidle event (List.mem_reverse.mp hmem)).1]
      simp
    rw [hlog, Log.received_append, hquiet, (moved_nothing_connect hconnect _).2] at hreceived
    cases hreceived
  · exact ⟨hresult, hslot, hreceived, hclosed, done, channel, start, opening, exchange, closing,
      hlog, hdone, hkept⟩

end Session
end MaskedList
