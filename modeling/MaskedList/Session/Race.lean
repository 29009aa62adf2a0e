import MaskedList.Session.Requests

/-!
# Destroying a session that somebody else is using

Two callers use a session at a time: one reconnects it or sends a command, the other
destroys it.  Whoever works on a slot holds its lock, so what they do is cut into
turns: a look at the flag, or what is done under one hold of a lock.  Opening a
channel takes turns of its own, for much can happen before it is over; the caller
keeps the lock of the slot meanwhile.  The destroyer sets the flag, then closes the
slot for queries, then the other one.

Main facts: a caller who is left alone reconnects, or runs a command, as
`Session.reconnect` and `Session.dispatch` do, and a destroyer as `Session.destroy`.
-/

namespace MaskedList

/-- How far a caller has come with a reconnect. -/
inductive Reconnecting where
  | starting
  /-- Waits for the lock of a slot that is to be live. -/
  | reopening (role : Role)
  /-- Is opening a channel, with the lock of its slot. -/
  | opening (role : Role)
  /-- Both slots are live; the flag is still to be looked at again. -/
  | checking
  /-- Waits for the lock of a slot that is to be closed after a failure. -/
  | closing (role : Role) (error : Error)
  | ended (result : Except Error Unit)

/-- How far a caller has come with a command. -/
inductive Sending (command : Command) where
  | starting
  /-- Waits for the lock of the command's slot. -/
  | waiting
  /-- Is opening a channel, with the lock of its slot. -/
  | opening
  /-- Has the lock of the slot and its channel. -/
  | talking (channel : ChannelId)
  | ended (ending : Ending (Reply command.opcode.Data))

/-- What the caller is doing who is not the destroyer. -/
inductive Caller where
  | reconnecting (stage : Reconnecting)
  | sending (command : Command) (stage : Sending command)

variable {m : Type → Type} [Monad m]

namespace Reconnecting

/-- What comes after a slot is live. -/
def afterLive : Role → Reconnecting
  | .read => .reopening .write
  | .write => .checking

def turn (transport : Transport m) (session : Session) :
    Reconnecting → m (Reconnecting × Session)
  | .starting =>
    if session.destroyed then return (.ended (.error .closedSession), session)
    else return (.reopening .read, session)
  | .reopening role =>
    match session.slot role with
    | .connected _ => return (afterLive role, session)
    | _ => return (.opening role, session)
  | .opening role => do
    match ← session.openChannel transport role with
    | (.error error, session) => return (.closing .read error, session)
    | (.ok channel, session) =>
      return (afterLive role, session.setSlot role (.connected channel))
  | .checking =>
    if session.destroyed then return (.closing .read .closedSession, session)
    else return (.ended (.ok ()), session)
  | .closing .read error => do
    return (.closing .write error, ← session.closeSlot transport .read)
  | .closing .write error => do
    return (.ended (.error error), ← session.closeSlot transport .write)
  | .ended result => return (.ended result, session)

end Reconnecting

/-- A caller takes a turn with a command. -/
def Sending.turn {command : Command} (transport : Transport m) (session : Session) :
    Sending command → m (Sending command × Session)
  | .starting =>
    if session.destroyed then return (.ended (.returned (.failed .closedSession)), session)
    else return (.waiting, session)
  | .waiting =>
    match session.slot command.role with
    | .closed => return (.ended (.returned (.failed .closedSession)), session)
    | .connected channel => return (.talking channel, session)
    | .discarded => return (.opening, session)
  | .opening => do
    match ← session.openChannel transport command.role with
    | (.error error, session) =>
      return (.ended (.returned (.failed (Error.connectionLost error.message).status)), session)
    | (.ok channel, session) =>
      return (.talking channel, session.setSlot command.role (.connected channel))
  | .talking channel => do
    let (result, session) ← session.converse transport command.role channel command
      (Session.interpret command.opcode.readData)
    return (.ended (result.map Session.told), session)
  | .ended ending => return (.ended ending, session)

namespace Caller

def turn (transport : Transport m) (session : Session) : Caller → m (Caller × Session)
  | .reconnecting stage => do
    let (stage, session) ← stage.turn transport session
    return (.reconnecting stage, session)
  | .sending command stage => do
    let (stage, session) ← stage.turn transport session
    return (.sending command stage, session)

/-- The slot whose lock the caller has between turns. -/
def holds : Caller → Option Role
  | .reconnecting (.opening role) => some role
  | .sending command .opening | .sending command (.talking _) => some command.role
  | _ => none

/-- Whether the caller has done nothing yet. -/
def isStarting : Caller → Bool
  | .reconnecting .starting | .sending _ .starting => true
  | _ => false

/-- Whether the caller is inside the opening of a channel. -/
def isOpening : Caller → Bool
  | .reconnecting (.opening _) | .sending _ .opening => true
  | _ => false

/-- Whether the caller has nothing left to do. -/
def hasEnded : Caller → Bool
  | .reconnecting (.ended _) | .sending _ (.ended _) => true
  | _ => false

end Caller

/-- A caller and a destroyer at work on one session. -/
structure Race where
  caller : Caller
  session : Session
  /-- The slots that the destroyer has still to close, next one first, once it has set the
  flag. -/
  owed : Option (List Role) := none

namespace Race

/-- The destroyer takes a turn, unless it would have to wait for a lock. -/
def destroyerTurn (transport : Transport m) (race : Race) : m Race := do
  match race.owed with
  | none =>
    return { race with
      session := { race.session with destroyed := true }
      owed := some [.read, .write] }
  | some [] => return race
  | some (role :: owed) =>
    if race.caller.holds = some role then return race
    else
      let session ← race.session.closeSlot transport role
      return { race with session, owed := some owed }

/-- Who takes a turn. -/
inductive Party where
  | caller
  | destroyer
  deriving DecidableEq, Repr

def turn (transport : Transport m) (race : Race) : Party → m Race
  | .caller => do
    let (caller, session) ← race.caller.turn transport race.session
    return { race with caller, session }
  | .destroyer => race.destroyerTurn transport

/-- Both take turns as the schedule says. -/
def play (transport : Transport m) (schedule : List Party) (race : Race) : m Race :=
  schedule.foldlM (Race.turn transport) race

/-- Whether both are done. -/
def isOver (race : Race) : Bool :=
  race.caller.hasEnded && race.owed = some []

/-- Enough turns for both to be done, whatever is left to do. -/
def finish : List Party :=
  List.replicate 8 .caller ++ List.replicate 3 .destroyer

@[simp]
theorem play_nil (transport : Transport m) (race : Race) :
    race.play transport [] = pure race := rfl

theorem play_cons (transport : Transport m) (party : Party) (schedule : List Party)
    (race : Race) :
    race.play transport (party :: schedule) =
      race.turn transport party >>= Race.play transport schedule := rfl

/-! ## Left alone -/

section Alone

variable [LawfulMonad m] (transport : Transport m) (session : Session)
  (owed : Option (List Role))

theorem play_append (first second : List Party) (race : Race) :
    race.play transport (first ++ second) =
      race.play transport first >>= Race.play transport second :=
  List.foldlM_append

/-- Who has nothing left to do does nothing. -/
theorem play_reconnected (result : Except Error Unit) (turns : Nat) :
    Race.play transport (List.replicate turns .caller)
      ⟨.reconnecting (.ended result), session, owed⟩ =
    pure ⟨.reconnecting (.ended result), session, owed⟩ := by
  induction turns with
  | zero => rfl
  | succ turns ih =>
    rw [List.replicate_succ, play_cons]
    simpa [turn, Caller.turn, Reconnecting.turn] using ih

theorem play_closing (error : Error) (turns : Nat) :
    Race.play transport (List.replicate (turns + 2) .caller)
      ⟨.reconnecting (.closing .read error), session, owed⟩ =
    do return ⟨.reconnecting (.ended (.error error)), ← session.close transport, owed⟩ := by
  rw [List.replicate_succ, List.replicate_succ, play_cons]
  simp [turn, Caller.turn, Reconnecting.turn, Session.close, play_cons, play_reconnected]

theorem play_checking (turns : Nat) :
    Race.play transport (List.replicate (turns + 3) .caller)
      ⟨.reconnecting .checking, session, owed⟩ =
    if session.destroyed then
      do return ⟨.reconnecting (.ended (.error .closedSession)),
        ← session.close transport, owed⟩
    else pure ⟨.reconnecting (.ended (.ok ())), session, owed⟩ := by
  rw [List.replicate_succ, play_cons]
  cases hdestroyed : session.destroyed <;>
    simp [turn, Caller.turn, Reconnecting.turn, hdestroyed, play_closing, play_reconnected]

theorem play_reopening_write (turns : Nat) :
    Race.play transport (List.replicate (turns + 5) .caller)
      ⟨.reconnecting (.reopening .write), session, owed⟩ =
    do
      match ← session.reopen transport .write with
      | (.error error, session) =>
        return ⟨.reconnecting (.ended (.error error)), ← session.close transport, owed⟩
      | (.ok (), session) =>
        if session.destroyed then
          return ⟨.reconnecting (.ended (.error .closedSession)),
            ← session.close transport, owed⟩
        else return ⟨.reconnecting (.ended (.ok ())), session, owed⟩ := by
  rw [List.replicate_succ, play_cons]
  cases hslot : session.slot .write with
  | connected channel =>
    simp [turn, Caller.turn, Reconnecting.turn, Reconnecting.afterLive, Session.reopen, hslot,
      play_checking]
  -- one turn takes the lock, the next one opens
  | discarded | closed =>
    rw [List.replicate_succ]
    simp only [turn, Caller.turn, Reconnecting.turn, Session.reopen, hslot, pure_bind, bind_assoc,
      play_cons]
    apply bind_congr
    rintro ⟨_ | channel, opened⟩
    · simp [play_closing]
    · simp [Reconnecting.afterLive, play_checking]

theorem play_reopening_read (turns : Nat) :
    Race.play transport (List.replicate (turns + 7) .caller)
      ⟨.reconnecting (.reopening .read), session, owed⟩ =
    (do
      match ← session.reopen transport .read with
      | (.error error, session) =>
        return ⟨.reconnecting (.ended (.error error)), ← session.close transport, owed⟩
      | (.ok (), session) =>
        Race.play transport (List.replicate (turns + 5) .caller)
          ⟨.reconnecting (.reopening .write), session, owed⟩) := by
  rw [List.replicate_succ, play_cons]
  cases hslot : session.slot .read with
  | connected channel =>
    have hmore := play_reopening_write transport session owed (turns + 1)
    simp [turn, Caller.turn, Reconnecting.turn, Reconnecting.afterLive, Session.reopen, hslot,
      play_reopening_write, hmore]
  | discarded | closed =>
    rw [List.replicate_succ]
    simp only [turn, Caller.turn, Reconnecting.turn, Session.reopen, hslot, pure_bind, bind_assoc,
      play_cons]
    apply bind_congr
    rintro ⟨_ | channel, opened⟩
    · simp [play_closing]
    · simp [Reconnecting.afterLive]

/-- Eight turns are a reconnect. -/
theorem reconnect_alone :
    Race.play transport (List.replicate 8 .caller) ⟨.reconnecting .starting, session, owed⟩ =
    do
      let (result, session) ← session.reconnect transport
      return ⟨.reconnecting (.ended result), session, owed⟩ := by
  have hstart := play_cons transport .caller (List.replicate 7 .caller)
    ⟨.reconnecting .starting, session, owed⟩
  rw [show List.replicate 8 Party.caller = .caller :: List.replicate 7 .caller from rfl, hstart]
  cases hdestroyed : session.destroyed with
  | true =>
    simp only [turn, Caller.turn, Reconnecting.turn, Session.reconnect, hdestroyed, if_true,
      pure_bind, play_reconnected]
  | false =>
    simp only [turn, Caller.turn, Reconnecting.turn, Session.reconnect, hdestroyed,
      Bool.false_eq_true, if_false, pure_bind, bind_assoc]
    rw [play_reopening_read transport session owed 0]
    apply bind_congr
    rintro ⟨_ | _, half⟩
    · simp
    · simp only [play_reopening_write, bind_assoc]
      apply bind_congr
      rintro ⟨_ | _, full⟩
      · simp
      · cases hflag : full.destroyed <;> simp [hflag]

theorem play_sent {command : Command} (ending : Ending (Reply command.opcode.Data))
    (turns : Nat) :
    Race.play transport (List.replicate turns .caller)
      ⟨.sending command (.ended ending), session, owed⟩ =
    pure ⟨.sending command (.ended ending), session, owed⟩ := by
  induction turns with
  | zero => rfl
  | succ turns ih =>
    rw [List.replicate_succ, play_cons]
    simpa [turn, Caller.turn, Sending.turn] using ih

theorem play_talking {command : Command} (channel : ChannelId) (turns : Nat) :
    Race.play transport (List.replicate (turns + 1) .caller)
      ⟨.sending command (.talking channel), session, owed⟩ =
    do
      let (result, session) ← session.converse transport command.role channel command
        (Session.interpret command.opcode.readData)
      return ⟨.sending command (.ended (result.map Session.told)), session, owed⟩ := by
  rw [List.replicate_succ, play_cons]
  simp [turn, Caller.turn, Sending.turn, play_sent]

/-- Four turns are a command. -/
theorem send_alone (command : Command) :
    Race.play transport (List.replicate 4 .caller)
      ⟨.sending command .starting, session, owed⟩ =
    do
      let (ending, session) ← session.dispatch transport command command.opcode.readData
      return ⟨.sending command (.ended ending), session, owed⟩ := by
  cases hdestroyed : session.destroyed with
  | true =>
    simp [play_cons, turn, Caller.turn, Sending.turn, Session.dispatch, hdestroyed]
  | false =>
    have hstart : Race.play transport (List.replicate 4 .caller)
        ⟨.sending command .starting, session, owed⟩ =
        Race.play transport (List.replicate 3 .caller)
          ⟨.sending command .waiting, session, owed⟩ := by
      simp [play_cons, turn, Caller.turn, Sending.turn, hdestroyed]
    rw [hstart]
    cases hslot : session.slot command.role with
    | closed =>
      simp [play_cons, turn, Caller.turn, Sending.turn, Session.dispatch, Session.call,
        hdestroyed, hslot, Error.status]
    | connected channel =>
      rw [List.replicate_succ, play_cons]
      simp only [turn, Caller.turn, Sending.turn, Session.dispatch, Session.call, hdestroyed,
        hslot, pure_bind, play_talking, Bool.false_eq_true, if_false, bind_assoc]
    | discarded =>
      rw [List.replicate_succ, play_cons]
      simp only [turn, Caller.turn, Sending.turn, Session.dispatch, Session.call, hdestroyed,
        hslot, pure_bind, Bool.false_eq_true, if_false, bind_assoc]
      rw [List.replicate_succ, play_cons]
      simp only [turn, Caller.turn, Sending.turn, bind_assoc]
      apply bind_congr
      rintro ⟨_ | channel, opened⟩
      · simp only [pure_bind, play_sent, Ending.map_returned, Session.told_error]
      · simp only [pure_bind, play_talking]

/-- Three turns are a destroy, if no lock is in the way. -/
theorem destroy_alone (caller : Caller) (hfree : caller.holds = none) :
    Race.play transport (List.replicate 3 .destroyer) ⟨caller, session, none⟩ =
    do return ⟨caller, ← session.destroy transport, some []⟩ := by
  simp [play_cons, turn, destroyerTurn, hfree, Session.destroy, Session.close]

end Alone

end Race
end MaskedList
