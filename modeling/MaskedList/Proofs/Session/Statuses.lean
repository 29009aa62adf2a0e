import MaskedList.Proofs.Session.Ownership

/-!
# What the statuses of the client itself tell

A store sends statuses with codes below 16; the others are made by the client, and
a caller takes them to say that the channel was given up or that the call was
refused.  They do say so, except after one kind of answer: a response frame whose
status byte is one of these codes is read like any other, and its status handed on
while the channel stays in use.  Main statement: a status of the client means what
it says exactly when the call did not end with such an answer.
-/

namespace MaskedList

/-- Whether a status is made by the client, not by the store. -/
def Status.isClientMade (status : Status) : Bool :=
  16 ≤ status.code.toNat

/-- Every channel that something was done on between two states has been closed. -/
def UsedClosed {ω : Type} (before after : Net ω) : Prop :=
  ∃ done, after.log = done ++ before.log ∧
    ∀ event ∈ done, ∀ channel, event.target? = some channel → channel ∈ Log.closed done

/-- The statuses of the client mean what they say after a call: one of the three failures
that the slot of the command is without a channel and every channel used is closed, and a
refusal that the session was destroyed or the slot closed before.  A call that panics has no
status, and so none that could mean anything. -/
def StatusMeant {ω : Type} (command : Command) (status : Option Status)
    (session ended : Session) (before after : Net ω) : Prop :=
  (status = some .timeout ∨ status = some .connectionLost ∨ status = some .protocolError →
    (∀ channel, ended.slot command.role ≠ .connected channel) ∧ UsedClosed before after) ∧
  (status = some .closedSession →
    session.destroyed = true ∨ session.slot command.role = .closed)

/-- What came in during a call, on a channel that is in use after it, is one whole response
whose status only a client makes. -/
def Impersonated {ω : Type} (command : Command) (ended : Session) (before after : Net ω) :
    Prop :=
  ∃ (channel : ChannelId) (response : Response),
    ended.slot command.role = .connected channel ∧ response.Fits ∧
    response.status.isClientMade = true ∧
    Log.received channel after.log = Log.received channel before.log ++ response.encode

namespace Session

variable {ω : Type} {network : Network ω}

/-- The ends of a call, as far as a status tells them. -/
inductive Verdict (session : Session) (command : Command) (before : Net ω) :
    Option Status → Session → Net ω → Prop where
  | refused : session.destroyed = true ∨ session.slot command.role = .closed →
      Verdict session command before (some .closedSession) session before
  /-- The slot is without a channel. -/
  | lost {status : Status} {ended : Session} {after : Net ω} :
      status = .timeout ∨ status = .connectionLost ∨ status = .protocolError →
      (∀ channel, ended.slot command.role ≠ .connected channel) → UsedClosed before after →
      Verdict session command before (some status) ended after
  | oversized {ended : Session} {after : Net ω} :
      (∀ channel, Log.received channel after.log = Log.received channel before.log) →
      Verdict session command before (some .invalidParam) ended after
  /-- The status is that of a response, whatever it is.  If there is none, reading the data of
  a success panicked. -/
  | answered {channel : ChannelId} {response : Response} {status : Option Status}
      {ended : Session} {after : Net ω} :
      session.destroyed = false → session.slot command.role ≠ .closed →
      ended.slot command.role = .connected channel → response.Fits →
      Log.received channel after.log = Log.received channel before.log ++ response.encode →
      status = some response.status ∨ status = none ∧ response.status = .ok →
      Verdict session command before status ended after

/-- An answer is told by its status, whether or not there is data with it.  Only the data of a
success can make its reader panic. -/
theorem status_interpret {α : Type} {decode : Bytes → Ending (Except Error α)}
    {response : Response} {ending : Ending (Reply α)}
    (h : interpret decode response = ending.map Except.ok) :
    ending.returned?.map Reply.status = some response.status ∨
      ending.returned?.map Reply.status = none ∧ response.status = .ok := by
  rw [interpret] at h
  split at h
  · rename_i hok
    cases ending with
    | returned reply =>
      obtain ⟨data, -, hdata⟩ := Ending.map_eq_returned_iff.mp h
      cases data with
      | error error => cases hdata
      | ok value =>
        cases hdata
        exact Or.inl (congrArg some hok.symm)
    | panicked panic => exact Or.inr ⟨rfl, hok⟩
  · cases ending with
    | returned reply =>
      cases h
      exact Or.inl rfl
    | panicked panic => cases h

theorem status_of_desynchronizes {error : Error} (h : error.desynchronizes = true) :
    error.status = .timeout ∨ error.status = .connectionLost ∨
      error.status = .protocolError := by
  simpa [Error.desynchronizes, or_assoc] using h

section Calls

variable {α : Type} {session start ended : Session} {command : Command}
  {decode : Bytes → Ending (Except Error α)} {result : Ending (Except Error (Reply α))}
  {before opened after : Net ω}

/-- A conversation ends in one of these ways.  Since the call began, no more than a channel
was opened. -/
theorem Conversed.verdict {channel : ChannelId}
    (h : Conversed network start command.role channel command (interpret decode) opened result
      ended after) (since : List Event)
    (halive : session.destroyed = false) (hopen : session.slot command.role ≠ .closed)
    (hslot : start.slot command.role = .connected channel)
    (hsince : opened.log = since ++ before.log)
    (hidle : ∀ event ∈ since, event.target? = none ∧ ∀ other, event.given other = []) :
    Verdict session command before ((result.map told).returned?.map Reply.status) ended
      after := by
  have hreceived : ∀ other, Log.received other opened.log = Log.received other before.log := by
    intro other
    have hnothing : Log.received other since = [] := by
      rw [Log.received, List.flatMap_eq_nil_iff]
      intro event hmem
      exact (hidle event (List.mem_reverse.mp hmem)).2 other
    rw [hsince, Log.received_append, hnothing, List.append_nil]
  cases h with
  | oversized hencode hmoved =>
    obtain ⟨-, rfl⟩ := Command.encode_eq_error hencode
    refine .oversized fun other => ?_
    rw [← hreceived]
    by_cases hother : other = channel
    · rw [hother, hmoved.received_eq, List.append_nil]
    · exact (hmoved.elsewhere hother).2
  | answered hencode hmoved hfits hresponse hnoError =>
    obtain ⟨ending, rfl⟩ := Ending.exists_eq_map_ok hnoError
    rw [map_told_map_ok]
    refine .answered halive hopen hslot hfits ?_ (status_interpret hresponse)
    rw [hmoved.received_eq, hreceived]
  | @failed frame sent received error last hencode hbegins hmoved herror =>
    obtain ⟨-, done, hlog, hserves, -, -⟩ := hmoved
    refine .lost (status_of_desynchronizes herror) (by simp)
      ⟨.close channel (network.close channel last.world).1 :: (done ++ since), ?_, ?_⟩
    · show Event.close channel _ :: last.log = _
      rw [hlog, hsince, List.cons_append, List.append_assoc]
    · -- everything since then was done on the channel, and it is closed
      intro event hmem other htarget
      have hother : other = channel := by
        rcases List.mem_cons.mp hmem with rfl | hmem
        · simpa [Event.target?] using htarget.symm
        rcases List.mem_append.mp hmem with hmem | hmem
        · exact (hserves event hmem).target htarget
        · rw [(hidle event hmem).1] at htarget
          cases htarget
      simp [Log.closed, Event.closed?, hother]

theorem Called.verdict
    (h : Called network session command (interpret decode) before result ended after)
    (halive : session.destroyed = false) :
    Verdict session command before ((result.map told).returned?.map Reply.status) ended
      after := by
  cases h with
  | closed hslot => exact .refused (Or.inr hslot)
  | @unopened error destroyed _ hslot hdial =>
    refine .lost (Or.inr (Or.inl rfl)) ?_ ⟨[_], (network.opening_error hdial).2, ?_⟩
    · simp [hslot]
    · simp [Event.target?]
  | held hslot hconversed =>
    exact hconversed.verdict [] halive (by simp [hslot]) hslot rfl (by simp)
  | @reopened channel destroyed opened _ _ _ hslot hdial hconversed =>
    exact hconversed.verdict [_] halive (by simp [hslot]) (slot_setSlot_self _ _ _)
      (network.opening_ok hdial).2.2 (by simp [Event.target?, Event.given])

theorem Dispatched.verdict {ending : Ending (Reply α)}
    (h : Dispatched network session command decode before ending ended after) :
    Verdict session command before (ending.returned?.map Reply.status) ended after := by
  cases h with
  | refused hdestroyed => exact .refused (Or.inl hdestroyed)
  | called halive hcalled => exact hcalled.verdict halive

/-- A status means what it says unless it is the client's own and came from the store. -/
theorem Verdict.statusMeant_iff {status : Option Status}
    (h : Verdict session command before status ended after) :
    StatusMeant command status session ended before after ↔
      ¬ Impersonated command ended before after := by
  cases h with
  | refused hrefused =>
    refine iff_of_true ⟨by simp, fun _ => hrefused⟩ ?_
    rintro ⟨channel, response, -, -, -, hreceived⟩
    exact Frame.encode_ne_nil _ _ (List.self_eq_append_right.mp hreceived)
  | lost hstatus hslot hused =>
    refine iff_of_true ⟨fun _ => ⟨hslot, hused⟩, ?_⟩ ?_
    · rintro ⟨⟩
      simp at hstatus
    · rintro ⟨channel, response, hconnected, -⟩
      exact hslot channel hconnected
  | oversized hsame =>
    refine iff_of_true ⟨by simp, by simp⟩ ?_
    rintro ⟨channel, response, -, -, -, hreceived⟩
    rw [hsame channel] at hreceived
    exact Frame.encode_ne_nil _ _ (List.self_eq_append_right.mp hreceived)
  | @answered channel response _ _ _ halive hopen hslot hfits hreceived htold =>
    -- what came in on the channel in use is this response and nothing else
    have hexact : Impersonated command ended before after ↔
        response.status.isClientMade = true := by
      constructor
      · rintro ⟨other, candidate, hother, -, hclient, hgiven⟩
        rw [hslot] at hother
        cases hother
        rw [hreceived] at hgiven
        rw [Response.status_of_encode_eq (List.append_cancel_left hgiven)]
        exact hclient
      · intro hclient
        exact ⟨channel, response, hslot, hfits, hclient, hreceived⟩
    rw [hexact, StatusMeant]
    rcases htold with rfl | ⟨rfl, hok⟩
    · -- with the store's own codes both sides hold, with the client's neither does
      cases hstatus : response.status <;>
        simp [Status.isClientMade, Status.code, hslot, halive, hopen]
    · simp [hok, Status.isClientMade, Status.code]

end Calls

/-- After any command sent from any state, the statuses of the client mean what they say,
exactly if the call did not end with a response that bears one of them.  A call that panics
never did. -/
theorem statusMeant_iff_not_impersonated (network : Network ω) (session : Session)
    (command : Command) (before : Net ω) :
    let ((outcome, ended), after) := session.issue network.transport command before
    StatusMeant command (command.opcode.statusOf? outcome) session ended before after ↔
      ¬ Impersonated command ended before after := by
  rcases hrun : session.issue network.transport command before with ⟨⟨outcome, ended⟩, after⟩
  obtain ⟨ending, rfl, hdispatched⟩ := dispatched_issue network hrun
  show StatusMeant command (command.opcode.statusOf? (ending.map command.opcode.report)) session
    ended before after ↔ _
  rw [Opcode.statusOf?_map_report]
  exact hdispatched.verdict.statusMeant_iff

/-- A script whose store answers with the code of a timeout. -/
def claimingTimeout : ScriptedWorld where
  openings := [.accept { reads := [.data [0x11, 0, 0, 0, 0]] } false, .accept {} false]

/-- A session with that store, as long as nothing has been asked of it. -/
def misled : Session where
  config := { host := "store.test", readPort := 21001, writePort := 21002, timeoutMs := 60000 }
  read := .connected ⟨21001, 0⟩
  write := .connected ⟨21002, 0⟩

/-- A caller is told of a timeout while the channel stays in use: no time ran out, the store
said so. -/
theorem timeout_claimed_by_store :
    ∃ run net, Reached scriptedNetwork misled.config claimingTimeout run misled net ∧
      let ((outcome, ended), after) := misled.issue scriptedNetwork.transport .ping net
      Opcode.ping.statusOf? outcome = some .timeout ∧ ended.slot .read = .connected ⟨21001, 0⟩ ∧
        Log.closed after.log = [] ∧
        ¬ StatusMeant .ping (Opcode.ping.statusOf? outcome) misled ended net after := by
  have hconnect : Session.connect scriptedNetwork.transport misled.config
      (Net.fresh claimingTimeout) = (.ok misled,
        (Session.connect scriptedNetwork.transport misled.config (Net.fresh claimingTimeout)).2) :=
    Prod.ext (by decide +kernel) rfl
  refine ⟨_, _, .connected hconnect, ?_⟩
  have hstatus : Opcode.ping.statusOf? (misled.issue scriptedNetwork.transport .ping
      (Session.connect scriptedNetwork.transport misled.config
        (Net.fresh claimingTimeout)).2).1.1 = some .timeout := by
    decide +kernel
  have hslot : (misled.issue scriptedNetwork.transport .ping
      (Session.connect scriptedNetwork.transport misled.config
        (Net.fresh claimingTimeout)).2).1.2.slot .read = .connected ⟨21001, 0⟩ := by
    decide +kernel
  refine ⟨hstatus, hslot, by decide +kernel, ?_⟩
  intro hmeant
  exact (hmeant.1 (Or.inl hstatus)).1 ⟨21001, 0⟩ hslot

end Session
end MaskedList
