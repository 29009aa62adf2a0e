import MaskedList.Network.PerPort
import MaskedList.Proofs.Network.Moved
import MaskedList.Proofs.Stream.Lockstep
import MaskedList.Session.Exchange

/-!
# Networks on which ports do not see each other

The network is separate if what comes of an operation on a port depends on nothing but the
view from this port, and changes nothing about the views from others.  Then two networks in
use that look alike from a port stay so: whatever is done with the port on both has the same
outcome, and whatever is done with other ports on one of them goes unnoticed.  The moments
on the two clocks may differ; what an exchange has in common on both is the time that is
left until its deadline.
-/

namespace MaskedList

/-- The port that something was done with. -/
def Event.port? : Event → Option UInt16
  | .time _ => none
  | .connect _ port _ _ => some port
  | .allow channel _ _ | .read channel _ _ | .write channel _ _ | .flush channel _
  | .close channel _ => some channel.port

/-- What was done with a port. -/
def Log.onPort (port : UInt16) (log : List Event) : List Event :=
  log.filter fun event => event.port? = some port

variable {ω π α : Type}

/-- An operation that sees and changes a network from one port only. -/
structure Network.Local (network : Network ω) (view : UInt16 → ω → π) (port : UInt16)
    (operation : ω → α × ω) : Prop where
  result : ∀ {left right}, view port left = view port right →
    (operation left).1 = (operation right).1
  next : ∀ {left right}, view port left = view port right →
    view port (operation left).2 = view port (operation right).2
  /-- It takes the same time. -/
  lasts : ∀ {left right}, view port left = view port right →
    network.time (operation left).2 - network.time left =
      network.time (operation right).2 - network.time right
  elsewhere : ∀ {other}, other ≠ port → ∀ world,
    view other (operation world).2 = view other world

/-- Every operation sees and changes the network from its own port only. -/
structure Network.Separate (network : Network ω) (view : UInt16 → ω → π) : Prop where
  connect : ∀ channel host timeout,
    network.Local view channel.port (network.connect channel host timeout)
  allow : ∀ channel span, network.Local view channel.port (network.allow channel span)
  read : ∀ channel limit, network.Local view channel.port (network.read channel limit)
  write : ∀ channel bytes, network.Local view channel.port (network.write channel bytes)
  flush : ∀ channel, network.Local view channel.port (network.flush channel)
  close : ∀ channel, network.Local view channel.port (network.close channel)

/-- A visit to the world of one port is not noticed from the others. -/
theorem PortWorlds.local_visit (network : Network ω) (port : UInt16) (operation : ω → α × ω) :
    network.perPort.Local (fun port worlds => worlds.world port) port
      (PortWorlds.visit network port operation) where
  result hview := by
    rw [visit_fst, visit_fst, hview]
  next hview := by
    rw [world_visit_self, world_visit_self, hview]
  lasts := by
    intro left right hview
    show (left.visit network port operation).2.clock - left.clock =
      (right.visit network port operation).2.clock - right.clock
    rw [clock_visit, clock_visit, hview, Nat.add_sub_cancel_left, Nat.add_sub_cancel_left]
  elsewhere hne worlds := world_visit_of_ne network port operation worlds hne

/-- Ports with worlds of their own do not see each other. -/
theorem Network.separate_perPort (network : Network ω) :
    network.perPort.Separate fun port worlds => worlds.world port where
  connect _ _ _ := PortWorlds.local_visit network _ _
  allow _ _ := PortWorlds.local_visit network _ _
  read _ _ := PortWorlds.local_visit network _ _
  write _ _ := PortWorlds.local_visit network _ _
  flush _ := PortWorlds.local_visit network _ _
  close _ := PortWorlds.local_visit network _ _

/-- Two networks in use that look alike from a port, now and as far as the log goes back. -/
structure Net.Alike (view : UInt16 → ω → π) (port : UInt16) (left right : Net ω) : Prop where
  world : view port left.world = view port right.world
  opened : left.opened.countP (fun channel => channel.port = port) =
    right.opened.countP fun channel => channel.port = port
  log : Log.onPort port left.log = Log.onPort port right.log

namespace Log

variable {event : Event} {port : UInt16}

theorem onPort_cons (event : Event) (port : UInt16) (log : List Event) :
    onPort port (event :: log) =
      if event.port? = some port then event :: onPort port log else onPort port log := by
  simp [onPort, List.filter_cons]

theorem onPort_cons_of_ne (hport : event.port? ≠ some port) (log : List Event) :
    onPort port (event :: log) = onPort port log := by
  rw [onPort_cons, if_neg hport]

end Log

namespace Net.Alike

variable {view : UInt16 → ω → π} {port : UInt16} {left right last : Net ω}

theorem refl (net : Net ω) : Alike view port net net :=
  ⟨rfl, rfl, rfl⟩

theorem symm (h : Alike view port left right) : Alike view port right left :=
  ⟨h.world.symm, h.opened.symm, h.log.symm⟩

theorem trans (h : Alike view port left right) (hnext : Alike view port right last) :
    Alike view port left last :=
  ⟨h.world.trans hnext.world, h.opened.trans hnext.opened, h.log.trans hnext.log⟩

theorem nextChannel (h : Alike view port left right) :
    Network.nextChannel left port = Network.nextChannel right port := by
  rw [Network.nextChannel, Network.nextChannel, h.opened]

/-- A look at the clock is not done with any port. -/
theorem looked (now : Nat) (net : Net ω) :
    Alike view port net { net with log := .time now :: net.log } :=
  ⟨rfl, rfl, (Log.onPort_cons_of_ne (by simp [Event.port?]) net.log).symm⟩

/-- Each of the two clocks can be looked at, whatever they show. -/
theorem bothLooked (h : Alike view port left right) (now other : Nat) :
    Alike view port { left with log := .time now :: left.log }
      { right with log := .time other :: right.log } :=
  ((looked now left).symm.trans h).trans (looked other right)

end Net.Alike

/-- The same network in use, which looks from the port as it did at the start. -/
def Net.Unnoticed (view : UInt16 → ω → π) (port : UInt16) (start left right : Net ω) : Prop :=
  left = right ∧ start.Alike view port left

namespace Network

variable {network : Network ω} {view : UInt16 → ω → π} {port other : UInt16}
  {channel : ChannelId}

/-! ## What is done with the port -/

section Same

/-- The time that is left until a deadline. -/
def remaining (network : Network ω) (deadline : Deadline) (net : Net ω) : Option Nat :=
  deadline.map fun expiry => expiry - network.time net.world

/-- Alike from a port, and in exchanges for which the same time is left. -/
structure Abreast (network : Network ω) (view : UInt16 → ω → π) (port : UInt16)
    (first second : Deadline) (left right : Net ω) : Prop where
  alike : left.Alike view port right
  remaining : network.remaining first left = network.remaining second right

/-- Neither exchange has a deadline, or both have as long to go. -/
theorem Abreast.deadlines {first second : Deadline} {left right : Net ω}
    (h : network.Abreast view port first second left right) :
    (first = none ∧ second = none) ∨ ∃ expiry later, first = some expiry ∧ second = some later ∧
      expiry - network.time left.world = later - network.time right.world := by
  have hremaining := h.remaining
  cases first with
  | none =>
    cases second with
    | none => exact Or.inl ⟨rfl, rfl⟩
    | some later => cases hremaining
  | some expiry =>
    cases second with
    | none => cases hremaining
    | some later => exact Or.inr ⟨expiry, later, rfl, rfl, Option.some.inj hremaining⟩

/-- Operations take the same time on both, so they leave the same time. -/
theorem matched_perform {first second : Deadline} {operation : ω → Except IoError α × ω}
    (hlocal : network.Local view port operation)
    (htime : ∀ world, network.time world ≤ network.time (operation world).2)
    (event : Except IoError α → Event) :
    Matched (network.Abreast view port first second) (perform operation event)
      (perform operation event) := by
  intro left right h
  have hworld := h.alike.world
  have hresult := hlocal.result hworld
  refine ⟨hresult, ⟨hlocal.next hworld, h.alike.opened, ?_⟩, ?_⟩
  · show Log.onPort port (event (operation left.world).1 :: left.log) =
      Log.onPort port (event (operation right.world).1 :: right.log)
    rw [Log.onPort_cons, Log.onPort_cons, hresult, h.alike.log]
  · have hlasts := hlocal.lasts hworld
    have hleft := htime left.world
    have hright := htime right.world
    obtain ⟨rfl, rfl⟩ | ⟨expiry, later, rfl, rfl, hspan⟩ := h.deadlines
    · rfl
    · have hless : expiry - network.time (operation left.world).2 =
          later - network.time (operation right.world).2 := by
        omega
      exact congrArg some hless

theorem matched_within {first second : Deadline} {operation : ω → Except IoError α × ω}
    (hseparate : network.Separate view) (hlocal : network.Local view channel.port operation)
    (htime : ∀ world, network.time world ≤ network.time (operation world).2)
    (event : Except IoError α → Event) :
    Matched (network.Abreast view channel.port first second)
      (network.within channel first operation event)
      (network.within channel second operation event) := by
  intro left right h
  obtain ⟨rfl, rfl⟩ | ⟨expiry, later, rfl, rfl, hspan⟩ := h.deadlines
  · exact matched_perform hlocal htime event left right h
  -- the looks at the clocks see different moments, but they are not done with the port
  have hlooked : network.Abreast view channel.port (some expiry) (some later)
      { left with log := .time (network.time left.world) :: left.log }
      { right with log := .time (network.time right.world) :: right.log } :=
    ⟨h.alike.bothLooked _ _, h.remaining⟩
  unfold within
  dsimp only
  by_cases hexpired : expiry ≤ network.time left.world
  · rw [if_pos hexpired, if_pos (by omega)]
    exact ⟨rfl, hlooked⟩
  rw [if_neg hexpired, if_neg (by omega), hspan]
  -- both channels are allowed the same time
  obtain ⟨hresult, hallowed⟩ :=
    matched_perform (hseparate.allow channel (later - network.time right.world))
      (network.allow_time_le channel _) (.allow channel _) _ _ hlooked
  rcases hleft : perform (network.allow channel (later - network.time right.world))
    (.allow channel (later - network.time right.world))
    { left with log := .time (network.time left.world) :: left.log } with
    ⟨error | done, after⟩
  all_goals
    rcases hright : perform (network.allow channel (later - network.time right.world))
      (.allow channel (later - network.time right.world))
      { right with log := .time (network.time right.world) :: right.log } with
      ⟨result, last⟩
    rw [hleft, hright] at hresult hallowed
    cases hresult
  · exact ⟨rfl, hallowed⟩
  · exact matched_perform hlocal htime event after last hallowed

theorem inStep_source (hseparate : network.Separate view) (channel : ChannelId)
    (first second : Deadline) :
    (network.transport.source channel first).InStep
      (network.Abreast view channel.port first second)
      (network.transport.source channel second) := by
  intro limit
  have hrun : Matched (network.Abreast view channel.port first second)
      (network.reading channel first limit).run (network.reading channel second limit).run :=
    matched_within hseparate (hseparate.read channel limit)
      (network.read_time_le channel limit) (.read channel limit)
  exact hrun.persist

theorem inStep_sink (hseparate : network.Separate view) (channel : ChannelId)
    (first second : Deadline) :
    (network.transport.sink channel first).InStep
      (network.Abreast view channel.port first second)
      (network.transport.sink channel second) := by
  constructor
  · intro bytes
    have hrun : Matched (network.Abreast view channel.port first second)
        (network.writing channel first bytes).run (network.writing channel second bytes).run :=
      matched_within hseparate (hseparate.write channel bytes)
        (network.write_time_le channel bytes) (.write channel bytes)
    exact hrun.persist
  · exact matched_within hseparate (hseparate.flush channel)
      (network.flush_time_le channel) (.flush channel)

theorem matched_exchange (hseparate : network.Separate view) (channel : ChannelId)
    (timeout : Option Nat) (command : Command) :
    Matched (Net.Alike view channel.port)
      (network.transport.exchange channel timeout command)
      (network.transport.exchange channel timeout command) := by
  intro left right h
  -- the deadlines are different moments, but the time until then is the same
  have hdeadline : network.Abreast view channel.port
      (network.transport.deadline timeout left).1 (network.transport.deadline timeout right).1
      (network.transport.deadline timeout left).2
      (network.transport.deadline timeout right).2 := by
    cases timeout with
    | none => exact ⟨h, rfl⟩
    | some span =>
      constructor
      · exact h.bothLooked _ _
      · show some (network.time left.world + span - network.time left.world) =
          some (network.time right.world + span - network.time right.world)
        rw [Nat.add_sub_cancel_left, Nat.add_sub_cancel_left]
  obtain ⟨hresult, hafter⟩ := matched_writeRead (inStep_sink hseparate channel _ _)
    (inStep_source hseparate channel _ _) command _ _ hdeadline
  exact ⟨congrArg (Except.mapError Error.ofExpired) hresult, hafter.alike⟩

theorem matched_opening (hseparate : network.Separate view) (host : String) (port : UInt16)
    (timeout : Option Nat) :
    Matched (Net.Alike view port) (network.opening host port timeout)
      (network.opening host port timeout) := by
  intro left right h
  have hlocal := hseparate.connect (nextChannel right port) host timeout
  have hresult := hlocal.result h.world
  unfold opening
  dsimp only
  rw [h.nextChannel, hresult]
  refine ⟨rfl, hlocal.next h.world, ?_, ?_⟩
  · dsimp only
    split
    · rw [List.countP_cons, List.countP_cons, h.opened]
    · exact h.opened
  · rw [Log.onPort_cons, Log.onPort_cons, h.log]

theorem matched_close (hseparate : network.Separate view) (channel : ChannelId) :
    Matched (Net.Alike view channel.port) (network.transport.close channel)
      (network.transport.close channel) := by
  intro left right h
  have hlocal := hseparate.close channel
  have hresult := hlocal.result h.world
  refine ⟨hresult, hlocal.next h.world, h.opened, ?_⟩
  show Log.onPort channel.port (.close channel (network.close channel left.world).1 :: left.log) =
    Log.onPort channel.port (.close channel (network.close channel right.world).1 :: right.log)
  rw [Log.onPort_cons, Log.onPort_cons, hresult, h.log]

end Same

/-! ## What is done with other ports -/

section Elsewhere

theorem alike_perform {operation : ω → Except IoError α × ω}
    (event : Except IoError α → Event) (hlocal : network.Local view other operation)
    (hne : port ≠ other) (hevent : ∀ result, (event result).port? = some other) (net : Net ω) :
    net.Alike view port (perform operation event net).2 := by
  have hport : (event (operation net.world).1).port? ≠ some port := by
    rw [hevent]
    exact fun hsame => hne (Option.some.inj hsame).symm
  exact ⟨(hlocal.elsewhere hne net.world).symm, rfl, (Log.onPort_cons_of_ne hport net.log).symm⟩

theorem alike_within {operation : ω → Except IoError α × ω} (event : Except IoError α → Event)
    (hseparate : network.Separate view) (hlocal : network.Local view channel.port operation)
    (hne : port ≠ channel.port) (hevent : ∀ result, (event result).port? = some channel.port)
    (deadline : Deadline) (net : Net ω) :
    net.Alike view port (network.within channel deadline operation event net).2 := by
  unfold within
  cases deadline with
  | none => exact alike_perform event hlocal hne hevent net
  | some expiry =>
    have hlooked : net.Alike view port
        { net with log := .time (network.time net.world) :: net.log } :=
      Net.Alike.looked _ net
    dsimp only
    split
    · exact hlooked
    have hallowed := hlooked.trans (alike_perform
      (.allow channel (expiry - network.time net.world))
      (hseparate.allow channel (expiry - network.time net.world)) hne (fun _ => rfl) _)
    split
    · rename_i error allowed hallow
      rw [hallow] at hallowed
      exact hallowed
    · rename_i allowed hallow
      rw [hallow] at hallowed
      exact hallowed.trans (alike_perform event hlocal hne hevent allowed)

theorem inStep_source_elsewhere (hseparate : network.Separate view) (hne : port ≠ channel.port)
    (deadline : Deadline) (start : Net ω) :
    (network.transport.source channel deadline).InStep (start.Unnoticed view port)
      (network.transport.source channel deadline) := by
  intro limit
  have hrun : Matched (start.Unnoticed view port) (network.reading channel deadline limit).run
      (network.reading channel deadline limit).run :=
    matched_self.mpr fun net hnet => hnet.trans
      (alike_within (.read channel limit) hseparate (hseparate.read channel limit) hne
        (fun _ => rfl) deadline net)
  exact hrun.persist

theorem inStep_sink_elsewhere (hseparate : network.Separate view) (hne : port ≠ channel.port)
    (deadline : Deadline) (start : Net ω) :
    (network.transport.sink channel deadline).InStep (start.Unnoticed view port)
      (network.transport.sink channel deadline) := by
  constructor
  · intro bytes
    have hrun : Matched (start.Unnoticed view port) (network.writing channel deadline bytes).run
        (network.writing channel deadline bytes).run :=
      matched_self.mpr fun net hnet => hnet.trans
        (alike_within (.write channel bytes) hseparate (hseparate.write channel bytes) hne
          (fun _ => rfl) deadline net)
    exact hrun.persist
  · exact matched_self.mpr fun net hnet => hnet.trans
      (alike_within (.flush channel) hseparate (hseparate.flush channel) hne (fun _ => rfl)
        deadline net)

theorem alike_exchange (hseparate : network.Separate view) (hne : port ≠ channel.port)
    (timeout : Option Nat) (command : Command) (net : Net ω) :
    net.Alike view port (network.transport.exchange channel timeout command net).2 := by
  have hlooked : net.Alike view port (network.transport.deadline timeout net).2 := by
    cases timeout with
    | none => exact Net.Alike.refl net
    | some span => exact Net.Alike.looked _ net
  obtain ⟨-, -, hafter⟩ := matched_writeRead (inStep_sink_elsewhere hseparate hne _ net)
    (inStep_source_elsewhere hseparate hne _ net) command _ _ ⟨rfl, hlooked⟩
  exact hafter

theorem alike_opening (hseparate : network.Separate view) (hne : port ≠ other) (host : String)
    (timeout : Option Nat) (net : Net ω) :
    net.Alike view port (network.opening host other timeout net).2 := by
  have hlocal := hseparate.connect (nextChannel net other) host timeout
  refine ⟨(hlocal.elsewhere hne net.world).symm, ?_, (Log.onPort_cons_of_ne ?_ net.log).symm⟩
  · unfold opening
    dsimp only
    split
    · rw [List.countP_cons_of_neg (by simp [nextChannel, hne.symm])]
    · rfl
  · simpa [Event.port?] using hne.symm

theorem alike_close (hseparate : network.Separate view) (hne : port ≠ channel.port)
    (net : Net ω) : net.Alike view port (network.transport.close channel net).2 := by
  refine ⟨((hseparate.close channel).elsewhere hne net.world).symm, rfl,
    (Log.onPort_cons_of_ne ?_ net.log).symm⟩
  simpa [Event.port?] using hne.symm

end Elsewhere

end Network
end MaskedList
