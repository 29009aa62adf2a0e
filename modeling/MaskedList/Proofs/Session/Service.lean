import MaskedList.Proofs.Network.Holding
import MaskedList.Proofs.Network.Loopback
import MaskedList.Proofs.Session.Call
import MaskedList.Proofs.Store.Answer
import MaskedList.Session.Calls

/-!
# A store seen through a session

A session that is connected to a store without faults is a view of the store: whatever
functions of the session are called, every call has the reply that the store's own data calls
for, and the store has carried out just the commands that may travel, once each and in the
order of the calls.  The two channels of the session stay the ones that it was connected with.
-/

namespace MaskedList

namespace Store

/-- The reply to a call: the store's answer, unless the command may not travel. -/
def replyTo (store : Store) (command : Command) : Reply command.opcode.Data :=
  if command.size ≤ maxPayloadSize then store.answer command else .failed .invalidParam

/-- The store after a call.  A command that may not travel does not come to it. -/
def called (store : Store) (command : Command) : Store :=
  if command.size ≤ maxPayloadSize then (store.execute command).2 else store

/-- Every response to the commands, one after the other, may travel. -/
def AnswersFit (store : Store) : List Command → Prop
  | [] => True
  | command :: commands =>
    (command.size ≤ maxPayloadSize → (store.execute command).1.Fits) ∧
      (store.called command).AnswersFit commands

instance decidableAnswersFit : (store : Store) → (commands : List Command) →
    Decidable (store.AnswersFit commands)
  | _, [] => isTrue trivial
  | store, command :: commands =>
    have := decidableAnswersFit (store.called command) commands
    inferInstanceAs (Decidable (_ ∧ _))

/-- The run of a session that never changes, with the replies that the store calls for. -/
def runOf (session : Session) (store : Store) : List Command → List Step
  | [] => []
  | command :: commands =>
    ⟨.send command, .returned (command.opcode.report (store.replyTo command)), session,
        session⟩ ::
      runOf session (store.called command) commands

theorem Sound.called {store : Store} (h : store.Sound) (command : Command) :
    (store.called command).Sound := by
  rw [Store.called]
  split
  · exact h.execute command
  · exact h

end Store

/-- An exchange that may take no time at all is never asked for. -/
theorem Config.timeout_ne_zero (config : Config) : config.timeout ≠ some 0 := by
  rw [timeout]
  split
  · simp
  · rename_i htimeout
    have hpositive : config.timeoutMs.toNat ≠ 0 := fun hzero =>
      htimeout (UInt64.toNat_inj.mp hzero)
    simp only [milliseconds, ne_eq, Option.some.injEq]
    omega

namespace Session

section Calls

variable {ω α : Type} {network : Network ω} {session ended : Session} {channel : ChannelId}
  {command : Command} {net after : Net ω}

/-- Sends commands one after the other, whatever comes of them. -/
def issueAll {m : Type → Type} [Monad m] (transport : Transport m) (session : Session) :
    List Command → m (List Step × Session)
  | [] => pure ([], session)
  | command :: commands => do
    let (outcome, after) ← session.issue transport command
    let (run, last) ← after.issueAll transport commands
    return (⟨.send command, outcome, session, after⟩ :: run, last)

/-- What comes of calls is what comes of sending their commands. -/
theorem invokeAll_eq_issueAll {m : Type → Type} [Monad m] (transport : Transport m)
    (session : Session) (calls : List Call) :
    session.invokeAll transport calls = session.issueAll transport (calls.map Call.command) := by
  induction calls generalizing session with
  | nil => rfl
  | cons call calls ih =>
    simp only [invokeAll, List.map_cons, issueAll, invoke_eq_issue, ih]

theorem converse_of_answered {role : Role} {decode : Response → Ending (Except Error α)}
    {response : Response} {value : α}
    (hexchange : network.transport.exchange channel session.config.timeout command net =
      (.ok response, after))
    (hdecode : decode response = .returned (.ok value)) :
    session.converse network.transport role channel command decode net =
      ((.returned (.ok value), session), after) := by
  rw [converse, stateM_bind_apply, hexchange]
  simp only [decoded, hdecode]
  rfl

/-- After an error that leaves nothing open the channel is kept. -/
theorem converse_of_harmless (role : Role) (decode : Response → Ending (Except Error α))
    {error : Error}
    (hexchange : network.transport.exchange channel session.config.timeout command net =
      (.error error, after))
    (hharmless : error.desynchronizes = false) :
    session.converse network.transport role channel command decode net =
      ((.returned (.error error), session), after) := by
  rw [converse, stateM_bind_apply, hexchange]
  simp only [decoded, hharmless]
  rfl

/-- A call on a connected slot comes to what the conversation on its channel comes to. -/
theorem issue_of_converse {result : Ending (Except Error (Reply command.opcode.Data))}
    (hdestroyed : session.destroyed = false)
    (hslot : session.slot command.role = .connected channel)
    (hconverse : session.converse network.transport command.role channel command
      (interpret command.opcode.readData) net = ((result, ended), after)) :
    session.issue network.transport command net =
      (((result.map told).map command.opcode.report, ended), after) := by
  have hcall : session.call network.transport command (interpret command.opcode.readData) net =
      ((result, ended), after) := by
    simp only [call, hslot]
    exact hconverse
  exact issue_of_call hdestroyed hcall

theorem issueAll_cons_of_issue {commands : List Command}
    {outcome : Ending command.opcode.Outcome}
    (hissue : session.issue network.transport command net = ((outcome, ended), after)) :
    session.issueAll network.transport (command :: commands) net =
      ((⟨.send command, outcome, session, ended⟩ ::
          (ended.issueAll network.transport commands after).1.1,
        (ended.issueAll network.transport commands after).1.2),
        (ended.issueAll network.transport commands after).2) := by
  rw [issueAll, stateM_bind_apply, hissue]
  rfl

/-- A call that leaves a channel in its slot has only served that channel. -/
theorem Called.moved_of_kept {decode : Response → Ending (Except Error α)}
    {result : Ending (Except Error α)}
    (h : Called network session command decode net result ended after)
    (hslot : session.slot command.role = .connected channel)
    (hkept : ended.slot command.role = .connected channel) :
    ∃ sent received, Moved channel sent received net after := by
  cases h with
  | closed hclosed => cases hslot.symm.trans hclosed
  | unopened hdiscarded => cases hslot.symm.trans hdiscarded
  | reopened hdiscarded => cases hslot.symm.trans hdiscarded
  | held hheld hconversed =>
    cases hslot.symm.trans hheld
    cases hconversed with
    | oversized _ hmoved => exact ⟨_, _, hmoved⟩
    | answered _ hmoved => exact ⟨_, _, hmoved⟩
    | failed =>
      rw [slot_setSlot_self] at hkept
      cases hkept

/-- A call that leaves the session as it is has opened no channel and closed none. -/
theorem quiet_of_issue {outcome : Ending command.opcode.Outcome}
    (hdestroyed : session.destroyed = false)
    (hslot : session.slot command.role = .connected channel)
    (hrun : session.issue network.transport command net = ((outcome, session), after)) :
    Log.opened after.log = Log.opened net.log ∧ Log.closed after.log = Log.closed net.log := by
  obtain ⟨ending, -, hdispatched⟩ := dispatched_issue network hrun
  have hmoved : ∃ sent received, Moved channel sent received net after := by
    cases hdispatched with
    | refused hrefused =>
      rw [hdestroyed] at hrefused
      cases hrefused
    | called _ hcalled => exact hcalled.moved_of_kept hslot hslot
  obtain ⟨sent, received, hmoved⟩ := hmoved
  exact ⟨hmoved.log_opened_eq, hmoved.log_closed_eq⟩

end Calls

section Serving

variable {session : Session} {command : Command} {net : Net LoopbackWorld}

/-- What holds between the calls of a session on a network that ends in a store: both slots
have channels of their ports, nothing is under way on them, and no faults are laid in. -/
structure Serving (session : Session) (net : Net LoopbackWorld) : Prop where
  undestroyed : session.destroyed = false
  idle : ∀ role, ∃ channel, session.slot role = .connected channel ∧
    channel.port = session.config.port role ∧ net.world.channel channel = {}
  faultless : net.world.faults = []

/-- After a command has been carried out on one of the channels, nothing is under way. -/
theorem Serving.carriedOut {after : Net LoopbackWorld} {channel : ChannelId} {port : UInt16}
    (h : session.Serving net)
    (hafter : after.world = (net.world.carryOut port command).setChannel channel {}) :
    session.Serving after := by
  refine ⟨h.undestroyed, ?_, ?_⟩
  · intro role
    obtain ⟨other, hslot, hport, hidle⟩ := h.idle role
    refine ⟨other, hslot, hport, ?_⟩
    rw [hafter]
    by_cases hsame : other = channel
    · rw [hsame, LoopbackWorld.channel_setChannel]
    · rw [LoopbackWorld.channel_setChannel_of_ne hsame, LoopbackWorld.channel_carryOut, hidle]
  · rw [hafter]
    exact h.faultless

/-- One call has the reply that the store calls for, and leaves everything ready for the
next one. -/
theorem Serving.issue (h : session.Serving net) (hsound : net.world.store.Sound)
    (hfits : command.size ≤ maxPayloadSize → (net.world.store.execute command).1.Fits) :
    ∃ after, session.issue loopbackNetwork.transport command net =
        ((.returned (command.opcode.report (net.world.store.replyTo command)), session),
          after) ∧
      session.Serving after ∧
      after.world.store = net.world.store.called command ∧
      after.world.requests = (if command.size ≤ maxPayloadSize then
        [(session.config.port command.role, command.opcode)] else []) ++ net.world.requests := by
  obtain ⟨channel, hslot, hport, hidle⟩ := h.idle command.role
  have htimeout := session.config.timeout_ne_zero
  by_cases hsize : command.size ≤ maxPayloadSize
  · obtain ⟨after, hexchange, hafter⟩ :=
      exchange_answered htimeout hsize hidle h.faultless (hfits hsize)
    have hissue := issue_of_converse h.undestroyed hslot (converse_of_answered hexchange
      (Store.interpret_execute hsound command (hfits hsize)))
    refine ⟨after, ?_, h.carriedOut hafter, ?_, ?_⟩
    · rw [hissue, Store.replyTo, if_pos hsize]
      rfl
    · rw [hafter, Store.called, if_pos hsize]
      rfl
    · rw [hafter, if_pos hsize, ← hport]
      rfl
  -- the command is held back, and nothing has changed but for the look at the clock
  · obtain ⟨after, hexchange, hafter⟩ :=
      exchange_oversized htimeout (Nat.lt_of_not_le hsize) channel net
    have hissue := issue_of_converse h.undestroyed hslot
      (converse_of_harmless command.role (interpret command.opcode.readData) hexchange rfl)
    refine ⟨after, ?_, ⟨h.undestroyed, by rw [hafter]; exact h.idle,
      by rw [hafter]; exact h.faultless⟩, ?_, ?_⟩
    · rw [hissue, Store.replyTo, if_neg hsize]
      rfl
    · rw [hafter, Store.called, if_neg hsize]
    · rw [hafter, if_neg hsize, List.nil_append]

/-- The commands that came to the store, with the ports that they came in on, last one
first. -/
def requestsOf (config : Config) (commands : List Command) : List (UInt16 × Opcode) :=
  ((commands.filter fun command => command.size ≤ maxPayloadSize).map fun command =>
    (config.port command.role, command.opcode)).reverse

theorem requestsOf_cons (config : Config) (command : Command) (commands : List Command) :
    requestsOf config (command :: commands) = requestsOf config commands ++
      if command.size ≤ maxPayloadSize then [(config.port command.role, command.opcode)]
      else [] := by
  by_cases hsize : command.size ≤ maxPayloadSize <;> simp [requestsOf, hsize]

/-- All calls have the replies that the store calls for. -/
theorem Serving.issueAll (h : session.Serving net) (hsound : net.world.store.Sound)
    {commands : List Command} (hfits : net.world.store.AnswersFit commands) :
    ∃ last, session.issueAll loopbackNetwork.transport commands net =
        ((net.world.store.runOf session commands, session), last) ∧
      last.world.store = commands.foldl Store.called net.world.store ∧
      last.world.requests = requestsOf session.config commands ++ net.world.requests ∧
      Log.opened last.log = Log.opened net.log ∧ Log.closed last.log = Log.closed net.log := by
  -- on the commands, each of which finds the session as it was and the store further on
  induction commands generalizing net with
  | nil => exact ⟨net, rfl, rfl, rfl, rfl, rfl⟩
  | cons command commands ih =>
    obtain ⟨hfirst, hothers⟩ := hfits
    obtain ⟨after, hissue, hserving, hstore, hrequests⟩ := h.issue hsound hfirst
    obtain ⟨channel, hslot, -⟩ := h.idle command.role
    obtain ⟨hopened, hclosed⟩ := quiet_of_issue h.undestroyed hslot hissue
    obtain ⟨last, hrun, hlast, hserved, hopenedLast, hclosedLast⟩ :=
      ih hserving (by rw [hstore]; exact hsound.called command) (by rw [hstore]; exact hothers)
    refine ⟨last, ?_, ?_, ?_, hopenedLast.trans hopened, hclosedLast.trans hclosed⟩
    · rw [issueAll_cons_of_issue hissue, hrun, hstore]
      rfl
    · rw [hlast, hstore]
      rfl
    · rw [hserved, hrequests, requestsOf_cons, List.append_assoc]

end Serving

/-! ## A fresh session -/

section Connecting

variable {config : Config} {world : LoopbackWorld}

/-- A port that is not refused has a channel on which nothing is under way. -/
theorem opening_accepted (host : String) {port : UInt16} (timeout : Option Nat)
    {net : Net LoopbackWorld} (haccepted : port ∉ net.world.refused) :
    ∃ channel after, loopbackNetwork.opening host port timeout net =
        (⟨.ok channel, false⟩, after) ∧
      channel.port = port ∧ after.world = net.world.setChannel channel {} := by
  have hconnect : loopbackNetwork.connect (Network.nextChannel net port) host timeout net.world =
      (⟨.ok (), false⟩, net.world.setChannel (Network.nextChannel net port) {}) := by
    have hport : (Network.nextChannel net port).port = port := rfl
    simp [loopbackNetwork, LoopbackWorld.connect, hport, haccepted]
  refine ⟨Network.nextChannel net port,
    (loopbackNetwork.opening host port timeout net).2, ?_, rfl, ?_⟩
  · simp only [Network.opening, hconnect]
    rfl
  · simp only [Network.opening, hconnect]

/-- A session can be connected where its ports are open, and is ready at once. -/
theorem serving_connect (hconfig : config.validate = .ok ()) (hfaults : world.faults = [])
    (haccepted : ∀ role, config.port role ∉ world.refused) :
    ∃ session net, Session.connect loopbackNetwork.transport config (Net.fresh world) =
        (.ok session, net) ∧
      session.Serving net ∧ session.config = config ∧ net.world.store = world.store ∧
      net.world.requests = world.requests ∧ Log.closed net.log = [] := by
  have hreadAccepted : config.readPort ∉ (Net.fresh world).world.refused := haccepted .read
  obtain ⟨read, middle, hread, hreadPort, hmiddle⟩ :=
    opening_accepted config.host config.timeout hreadAccepted
  have hwriteAccepted : config.writePort ∉ middle.world.refused := by
    rw [hmiddle]
    exact haccepted .write
  obtain ⟨write, last, hwrite, hwritePort, hlast⟩ :=
    opening_accepted config.host config.timeout hwriteAccepted
  rw [hmiddle] at hlast
  have hclosed : Log.closed last.log = [] := by
    rw [(loopbackNetwork.opening_ok hwrite).2.2, (loopbackNetwork.opening_ok hread).2.2]
    rfl
  have hserving : Serving { config, read := .connected read, write := .connected write } last := by
    refine ⟨rfl, ?_, by rw [hlast]; exact hfaults⟩
    intro role
    rw [hlast]
    cases role with
    | read =>
      refine ⟨read, rfl, hreadPort, ?_⟩
      by_cases hsame : read = write
      · rw [hsame, LoopbackWorld.channel_setChannel]
      · rw [LoopbackWorld.channel_setChannel_of_ne hsame, LoopbackWorld.channel_setChannel]
    | write => exact ⟨write, rfl, hwritePort, LoopbackWorld.channel_setChannel⟩
  refine ⟨_, last, ?_, hserving, rfl, by rw [hlast]; rfl, by rw [hlast]; rfl, hclosed⟩
  rw [Session.connect, hconfig]
  simp only [stateM_bind_apply, stateM_pure_apply, loopbackNetwork.transport_connect,
    Config.port, hread, hwrite]

/-- A session that is connected to a sound store without faults shows its callers the store
itself.  Whatever functions they call, as long as every response may travel, each command that
may travel is carried out once, in the order of the calls, and its caller gets the status of
the response and with success what the store found; the caller of a command that may not travel
is told so, and the store is left alone.  The session, with both its channels, never changes. -/
theorem calls_show_the_store (hconfig : config.validate = .ok ())
    (hfaults : world.faults = []) (haccepted : ∀ role, config.port role ∉ world.refused)
    (hsound : world.store.Sound) :
    ∃ session net, Session.connect loopbackNetwork.transport config (Net.fresh world) =
        (.ok session, net) ∧
      (∀ role, ∃ channel, session.slot role = .connected channel) ∧
      ∀ calls : List Call, let commands := calls.map Call.command
        world.store.AnswersFit commands →
        ∃ last, session.invokeAll loopbackNetwork.transport calls net =
            ((world.store.runOf session commands, session), last) ∧
          last.world.store = commands.foldl Store.called world.store ∧
          last.world.requests = requestsOf config commands ++ world.requests ∧
          Log.opened last.log = Log.opened net.log ∧ Log.closed last.log = [] := by
  obtain ⟨session, net, hconnect, hserving, rfl, hstore, hrequests, hclosed⟩ :=
    serving_connect hconfig hfaults haccepted
  refine ⟨session, net, hconnect, ?_, ?_⟩
  · intro role
    obtain ⟨channel, hslot, -⟩ := hserving.idle role
    exact ⟨channel, hslot⟩
  · intro calls commands hfits
    rw [← hstore, ← hrequests, ← hclosed, invokeAll_eq_issueAll]
    rw [← hstore] at hsound hfits
    exact hserving.issueAll hsound hfits

/-- A queue is made, a value goes in and comes out again, and then the queue is empty. -/
def queueCalls : List Call :=
  [.createQueue "q" 3 "m", .rpush "q" [7] "a", .lpopOne "q", .lpopOne "q"]

/-- The value comes out padded to its width, and its mask to the width of masks. -/
theorem calls_show_the_queue :
    ∃ session net last,
      Session.connect loopbackNetwork.transport {} (Net.fresh {}) = (.ok session, net) ∧
      session.invokeAll loopbackNetwork.transport queueCalls net =
        (([⟨.send (.create "q" 3 "m" .queue .binary), .returned Status.ok, session, session⟩,
          ⟨.send (.rpush "q" [7] "a"), .returned Status.ok, session, session⟩,
          ⟨.send (.lpop "q" 1), (.returned
              (.ok ⟨3, 8, [⟨[7, 0, 0], [97, 0, 0, 0, 0, 0, 0, 0]⟩], false⟩) :
            Ending (Reply ItemList)), session, session⟩,
          ⟨.send (.lpop "q" 1), (.returned (.failed .empty) : Ending (Reply ItemList)), session,
            session⟩],
          session), last) ∧
      last.world.requests =
        [(11002, .lpop), (11002, .lpop), (11002, .rpush), (11002, .create)] ∧
      Log.closed last.log = [] := by
  have hconfig : Config.validate {} = .ok () := by decide +kernel
  have haccepted : ∀ role, Config.port {} role ∉ ({} : LoopbackWorld).refused :=
    fun _ => List.not_mem_nil
  obtain ⟨session, net, hconnect, -, hcalls⟩ :=
    calls_show_the_store hconfig rfl haccepted Store.sound_empty
  obtain ⟨last, hrun, -, hrequests, -, hclosed⟩ := hcalls queueCalls (by decide +kernel)
  exact ⟨session, net, last, hconnect, hrun, hrequests, hclosed⟩

end Connecting

end Session
end MaskedList
