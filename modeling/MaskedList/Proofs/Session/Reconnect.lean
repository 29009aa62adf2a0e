import MaskedList.Proofs.Session.Ownership

/-!
# Reconnecting is all or nothing

A reconnect opens channels for the slots that have none, in order and up to the first
failure: `Attempts` are the openings that show for it in the log.  `Redialed` says what has
come of them as long as nothing is closed: the channels that were live are where they were,
and every new one is in a slot.  If all openings succeed, this is where the session stays;
if one fails, both slots are closed, and with them every channel, old or new.
-/

namespace MaskedList

/-- The openings of channels for roles, in order and up to the first one that fails, as they
show in a log, last one first. -/
inductive Attempts (config : Config) : List Role → List Event → Except Error Unit → Prop where
  | done : Attempts config [] [] (.ok ())
  | failed {role : Role} {roles : List Role} {error : Error} :
      Attempts config (role :: roles)
        [.connect config.host (config.port role) config.timeout (.error error)] (.error error)
  | opened {role : Role} {roles : List Role} {channel : ChannelId} {later : List Event}
      {result : Except Error Unit} : Attempts config roles later result →
      Attempts config (role :: roles)
        (later ++ [.connect config.host (config.port role) config.timeout (.ok channel)]) result

namespace Attempts

variable {config : Config} {roles others : List Role} {earlier later events : List Event}
  {result : Except Error Unit}

/-- Once all have succeeded, there can be more. -/
theorem append (hfirst : Attempts config roles earlier (.ok ()))
    (hsecond : Attempts config others later result) :
    Attempts config (roles ++ others) (later ++ earlier) result := by
  generalize hall : Except.ok () = all at hfirst
  induction hfirst with
  | done => simpa using hsecond
  | failed => cases hall
  | opened _ ih =>
    rw [← List.append_assoc]
    exact .opened (ih hall)

/-- After a failure there are no more. -/
theorem stopped {error : Error} (hfirst : Attempts config roles earlier (.error error)) :
    Attempts config (roles ++ others) earlier (.error error) := by
  generalize hlost : Except.error error = lost at hfirst ⊢
  induction hfirst with
  | done => cases hlost
  | failed => exact .failed
  | opened _ ih => exact .opened (ih hlost)

/-- They succeed together if each of them has opened a channel. -/
theorem result_eq_ok_iff (h : Attempts config roles events result) :
    result = .ok () ↔ ∀ event ∈ events, event.opened?.isSome = true := by
  induction h with
  | done => simp
  | failed => simp [Event.opened?]
  | opened _ ih =>
    rw [ih]
    constructor
    · intro hall event hmem
      rcases List.mem_append.mp hmem with hmem | hmem
      · exact hall event hmem
      · rw [List.mem_singleton.mp hmem]
        rfl
    · intro hall event hmem
      exact hall event (List.mem_append_left _ hmem)

/-- Nothing is done on any channel. -/
theorem target_eq_none (h : Attempts config roles events result) :
    ∀ event ∈ events, event.target? = none := by
  induction h with
  | done => simp
  | failed => simp [Event.target?]
  | opened _ ih =>
    intro event hmem
    rcases List.mem_append.mp hmem with hmem | hmem
    · exact ih event hmem
    · rw [List.mem_singleton.mp hmem]
      rfl

end Attempts

namespace Session

variable {ω : Type} {network : Network ω} {session half ended : Session}
  {before middle after : Net ω} {attempts later : List Event} {roles others : List Role}
  {result : Except Error Unit}

/-- Those of the roles whose slots have no channel. -/
def vacant (session : Session) (roles : List Role) : List Role :=
  roles.filter fun role => (session.slot role).channel? = none

theorem vacant_congr (h : ∀ role ∈ roles, half.slot role = session.slot role) :
    half.vacant roles = session.vacant roles := by
  unfold vacant
  apply List.filter_congr
  intro role hmem
  rw [h role hmem]

/-- What openings for some roles have come to, before anything is closed. -/
structure Redialed (session : Session) (before : Net ω) (roles : List Role)
    (attempts : List Event) (result : Except Error Unit) (ended : Session) (after : Net ω) :
    Prop where
  log : after.log = attempts ++ before.log
  tried : Attempts session.config (session.vacant roles) attempts result
  config : ended.config = session.config
  elsewhere : ∀ role, role ∉ roles → ended.slot role = session.slot role
  /-- A channel that was live is still in its slot. -/
  kept : ∀ role channel, session.slot role = .connected channel →
    ended.slot role = .connected channel
  live : result = .ok () → ∀ role ∈ roles, ∃ channel, ended.slot role = .connected channel
  /-- The channels in the slots are the old ones and those that were opened. -/
  channels : ended.channels.Perm (Log.opened attempts ++ session.channels)

/-- A new channel comes to those in the slots. -/
theorem channels_setSlot_connected {role : Role} (hempty : (session.slot role).channel? = none)
    (channel : ChannelId) :
    (session.setSlot role (.connected channel)).channels.Perm (channel :: session.channels) := by
  have hold := session.channels_perm role
  have hnew := session.channels_setSlot_perm role (.connected channel)
  rw [hempty] at hold
  exact hnew.trans (hold.symm.cons channel)

theorem Reopened.redialed {role : Role}
    (h : Reopened network session role before result ended after) :
    ∃ attempts, Redialed session before [role] attempts result ended after := by
  cases h with
  | @kept channel hslot =>
    -- the slot is live, so there is nothing to attempt
    have hnone : session.vacant [role] = [] := by simp [vacant, hslot]
    refine ⟨[], rfl, by rw [hnone]; exact .done, rfl, fun _ _ => rfl, fun _ _ h => h, ?_,
      List.Perm.refl _⟩
    intro _ other hother
    rw [List.mem_singleton.mp hother]
    exact ⟨channel, hslot⟩
  | @refused error destroyed _ hempty hdial =>
    have hvacant : session.vacant [role] = [role] := by simp [vacant, hempty]
    refine ⟨[_], (network.opening_error hdial).2, by rw [hvacant]; exact .failed, rfl, ?_, ?_,
      by simp, List.Perm.refl _⟩
    · intro other _
      exact slot_noting session destroyed other
    · intro other channel hslot
      rw [slot_noting]
      exact hslot
  | @opened channel destroyed _ hempty hdial =>
    have hvacant : session.vacant [role] = [role] := by simp [vacant, hempty]
    have hslots : ∀ other, other ≠ role →
        ((session.noting destroyed).setSlot role (.connected channel)).slot other =
          session.slot other := by
      intro other hother
      rw [slot_setSlot_of_ne hother, slot_noting]
    refine ⟨[_], (network.opening_ok hdial).2.2, by rw [hvacant]; exact .opened .done,
      config_setSlot _ _ _, ?_, ?_, ?_, ?_⟩
    · intro other hother
      exact hslots other (by simpa using hother)
    · intro other live hslot
      have hother : other ≠ role := by
        rintro rfl
        rw [hslot] at hempty
        cases hempty
      rw [hslots other hother]
      exact hslot
    · intro _ other hother
      rw [List.mem_singleton.mp hother]
      exact ⟨channel, slot_setSlot_self _ _ _⟩
    · have hempty : ((session.noting destroyed).slot role).channel? = none := by
        rw [slot_noting]
        exact hempty
      exact channels_setSlot_connected hempty channel

/-- Openings for other roles can follow once the first ones have succeeded. -/
theorem Redialed.append (hfirst : Redialed session before roles attempts (.ok ()) half middle)
    (hsecond : Redialed half middle others later result ended after)
    (hdisjoint : ∀ role ∈ others, role ∉ roles) :
    Redialed session before (roles ++ others) (later ++ attempts) result ended after := by
  have hvacant : half.vacant others = session.vacant others :=
    vacant_congr fun role hmem => hfirst.elsewhere role (hdisjoint role hmem)
  have hlater := hsecond.tried
  rw [hfirst.config, hvacant] at hlater
  refine ⟨?_, ?_, hsecond.config.trans hfirst.config, ?_, ?_, ?_, ?_⟩
  · rw [hsecond.log, hfirst.log, List.append_assoc]
  · rw [vacant, List.filter_append]
    exact hfirst.tried.append hlater
  · intro role hrole
    rw [List.mem_append, not_or] at hrole
    exact (hsecond.elsewhere role hrole.2).trans (hfirst.elsewhere role hrole.1)
  · intro role channel hslot
    exact hsecond.kept role channel (hfirst.kept role channel hslot)
  · intro hok role hmem
    rcases List.mem_append.mp hmem with hmem | hmem
    · obtain ⟨channel, hslot⟩ := hfirst.live rfl role hmem
      exact ⟨channel, hsecond.kept role channel hslot⟩
    · exact hsecond.live hok role hmem
  · rw [Log.opened, List.filterMap_append, List.append_assoc]
    exact hsecond.channels.trans (hfirst.channels.append_left _)

/-- After a failure nothing is attempted for the roles that would have come next. -/
theorem Redialed.stopped {error : Error}
    (h : Redialed session before roles attempts (.error error) ended after) :
    Redialed session before (roles ++ others) attempts (.error error) ended after := by
  refine ⟨h.log, ?_, h.config, ?_, h.kept, by simp, h.channels⟩
  · rw [vacant, List.filter_append]
    exact h.tried.stopped
  · intro role hrole
    rw [List.mem_append, not_or] at hrole
    exact h.elsewhere role hrole.1

variable (network) in
/-- How closing a slot shows in the log: its channel is closed, and nothing else is done. -/
theorem log_closeSlot (session : Session) (role : Role) (before : Net ω) :
    ∃ closings,
      (session.closeSlot network.transport role before).2.log = closings ++ before.log ∧
      (∀ event ∈ closings, event.closed?.isSome = true) ∧
      Log.closed closings = (session.slot role).channel?.toList := by
  cases hslot : session.slot role with
  | connected channel =>
    rw [closeSlot_of_connected hslot]
    exact ⟨[.close channel (network.close channel before.world).1], rfl, by simp [Event.closed?],
      rfl⟩
  | discarded | closed =>
    rw [closeSlot_of_empty (by rw [hslot]; rfl)]
    exact ⟨[], rfl, by simp, rfl⟩

variable (network) in
/-- How closing a session shows in the log: the channels in its slots are closed, and nothing
else is done. -/
theorem log_close (session : Session) (before : Net ω) :
    ∃ closings, (session.close network.transport before).2.log = closings ++ before.log ∧
      (∀ event ∈ closings, event.closed?.isSome = true) ∧
      Log.closed closings = session.channels.reverse := by
  obtain ⟨first, hfirst, hfirstClosed, hread⟩ := log_closeSlot network session .read before
  obtain ⟨second, hsecond, hsecondClosed, hwrite⟩ :=
    log_closeSlot network (session.setSlot .read .closed) .write
      (session.closeSlot network.transport .read before).2
  refine ⟨second ++ first, ?_, ?_, ?_⟩
  · rw [close_apply, closeSlot_fst, hsecond, hfirst, List.append_assoc]
  · intro event hmem
    rcases List.mem_append.mp hmem with hmem | hmem
    · exact hsecondClosed event hmem
    · exact hfirstClosed event hmem
  · have hone : ∀ slot : Slot, slot.channel?.toList.reverse = slot.channel?.toList := by
      intro slot
      cases slot <;> rfl
    rw [Log.closed, List.filterMap_append, channels, List.reverse_append, hone, hone]
    exact congrArg₂ (· ++ ·) hwrite hread

theorem destroyed_close (session : Session) (before : Net ω) :
    (session.close network.transport before).1.destroyed = session.destroyed := by
  rw [close_fst, destroyed_setSlot, destroyed_setSlot]

/-- Both sides are dialed in one go, whatever comes of it; what follows a failure, or a flag
that was set meanwhile, is that the session is closed. -/
theorem Reconnected.redialed (h : Reconnected network session before result (ended, after))
    (halive : session.destroyed = false) :
    ∃ attempts outcome dialed opened,
      Redialed session before [.read, .write] attempts outcome dialed opened ∧
      ((outcome = .ok () ∧ dialed.destroyed = false ∧ result = .ok () ∧
          (ended, after) = (dialed, opened)) ∨
        ((∃ error, outcome = .error error ∧ result = .error error) ∨
            dialed.destroyed = true ∧ result = .error .closedSession) ∧
          (ended, after) = dialed.close network.transport opened) := by
  have hdisjoint : ∀ role ∈ [Role.write], role ∉ [Role.read] := by simp
  generalize hstate : (ended, after) = state at h
  cases h with
  | refused hdestroyed =>
    rw [halive] at hdestroyed
    cases hdestroyed
  | @readFailed error dialed opened _ hread =>
    obtain ⟨attempts, hfirst⟩ := hread.redialed
    exact ⟨_, _, _, _, hfirst.stopped, Or.inr ⟨Or.inl ⟨error, rfl, rfl⟩, rfl⟩⟩
  | @writeFailed error half dialed middle opened _ hread hwrite =>
    obtain ⟨attempts, hfirst⟩ := hread.redialed
    obtain ⟨later, hsecond⟩ := hwrite.redialed
    exact ⟨_, _, _, _, hfirst.append hsecond hdisjoint,
      Or.inr ⟨Or.inl ⟨error, rfl, rfl⟩, rfl⟩⟩
  | @overtaken half dialed middle opened _ hread hwrite hflag =>
    obtain ⟨attempts, hfirst⟩ := hread.redialed
    obtain ⟨later, hsecond⟩ := hwrite.redialed
    exact ⟨_, _, _, _, hfirst.append hsecond hdisjoint, Or.inr ⟨Or.inr ⟨hflag, rfl⟩, rfl⟩⟩
  | @live half dialed middle opened _ hread hwrite hflag =>
    obtain ⟨attempts, hfirst⟩ := hread.redialed
    obtain ⟨later, hsecond⟩ := hwrite.redialed
    exact ⟨_, _, _, _, hfirst.append hsecond hdisjoint, Or.inl ⟨rfl, hflag, rfl, rfl⟩⟩

/-- A reconnect of a destroyed session is refused without any effect.  Otherwise, unless the
session is destroyed meanwhile, channels are opened for just those slots that have none, the
one for queries first and up to the first failure.  The reconnect succeeds exactly if every
opening does; then both slots are live, nothing has been done on a channel that was live
before, and it is where it was.  A failure is that of the opening that failed; then both slots
are closed, and so is, once, every channel that was held before or has been opened. -/
theorem reconnected_in_full_or_closed
    (hrun : session.reconnect network.transport before = ((result, ended), after))
    (hundisturbed : ended.destroyed = session.destroyed) :
    (session.destroyed = true →
      result = .error .closedSession ∧ ended = session ∧ after = before) ∧
    (session.destroyed = false →
      ∃ attempts closings, after.log = closings ++ (attempts ++ before.log) ∧
        Attempts session.config (session.vacant [.read, .write]) attempts result ∧
        (result = .ok () ↔ ∀ event ∈ attempts, event.opened?.isSome = true) ∧
        (result = .ok () → closings = [] ∧ (∀ event ∈ attempts, event.target? = none) ∧
          (∀ role, ∃ channel, ended.slot role = .connected channel) ∧
          ∀ role channel, session.slot role = .connected channel →
            ended.slot role = .connected channel) ∧
        ∀ error, result = .error error → (∀ role, ended.slot role = .closed) ∧
          (∀ event ∈ closings, event.closed?.isSome = true) ∧
          (Log.closed closings).Perm (Log.opened attempts ++ session.channels)) := by
  have hreconnected := reconnected_reconnect hrun
  constructor
  · intro hdestroyed
    rw [reconnect, if_pos hdestroyed] at hrun
    cases hrun
    exact ⟨rfl, rfl, rfl⟩
  intro halive
  obtain ⟨attempts, outcome, dialed, opened, hdialed, hend⟩ := hreconnected.redialed halive
  rcases hend with ⟨rfl, -, rfl, hsame⟩ | ⟨hfailed, hsame⟩
  · cases hsame
    refine ⟨attempts, [], hdialed.log, hdialed.tried, hdialed.tried.result_eq_ok_iff, ?_,
      by simp⟩
    intro _
    refine ⟨rfl, hdialed.tried.target_eq_none, ?_, hdialed.kept⟩
    intro role
    exact hdialed.live rfl role (by cases role <;> simp)
  · have hended : ended = (dialed.close network.transport opened).1 := congrArg Prod.fst hsame
    have hafter : after = (dialed.close network.transport opened).2 := congrArg Prod.snd hsame
    -- the flag was not set meanwhile, so it was an opening that failed
    have hflag : dialed.destroyed = false := by
      rw [← halive, ← hundisturbed, hended, destroyed_close]
    obtain ⟨error, rfl, rfl⟩ : ∃ error, outcome = .error error ∧ result = .error error := by
      rcases hfailed with hfailed | ⟨hdestroyed, -⟩
      · exact hfailed
      · rw [hflag] at hdestroyed
        cases hdestroyed
    obtain ⟨closings, hlog, hclosings, hclosed⟩ := log_close network dialed opened
    refine ⟨attempts, closings, ?_, hdialed.tried, hdialed.tried.result_eq_ok_iff,
      by simp, ?_⟩
    · rw [hafter, hlog, hdialed.log]
    · intro _ _
      refine ⟨?_, hclosings, ?_⟩
      · intro role
        rw [hended]
        exact slot_close role
      · rw [hclosed]
        exact (List.reverse_perm _).trans hdialed.channels

/-- A script in which the second channel for mutations is refused, after one for queries that
will not even close. -/
def refusingAgain : ScriptedWorld where
  openings :=
    [.accept {} false, .accept {} false, .accept { closeError := some .timeout } false,
      .refuse "no more"]

/-- A reconnect of a closed session that gets only the channel for queries gives it up again. -/
theorem reconnected_in_full_or_closed_after_refusal :
    ∃ run session net, Reached scriptedNetwork {} refusingAgain run session net ∧
      let ((result, ended), after) := session.reconnect scriptedNetwork.transport net
      session.destroyed = false ∧ ended.destroyed = session.destroyed ∧
        result = .error (.connect "127.0.0.1" 11002 "no more") ∧
        (∀ role, ended.slot role = .closed) ∧
        Log.opened after.log = [⟨11001, 1⟩, ⟨11002, 0⟩, ⟨11001, 0⟩] ∧
        Log.closed after.log = [⟨11001, 1⟩, ⟨11002, 0⟩, ⟨11001, 0⟩] := by
  have hconnect : Session.connect scriptedNetwork.transport {} (Net.fresh refusingAgain) =
      (.ok ⟨{}, .connected ⟨11001, 0⟩, .connected ⟨11002, 0⟩, false⟩,
        (Session.connect scriptedNetwork.transport {} (Net.fresh refusingAgain)).2) :=
    Prod.ext (by decide +kernel) rfl
  have hreached := (Reached.connected hconnect).perform .close
  -- what the slots come to is the theorem's to say; the rest can be looked up in the run
  have hslots : ∀ {run session net}, Reached scriptedNetwork {} refusingAgain run session net →
      ∀ error : Error, session.destroyed = false →
      (session.reconnect scriptedNetwork.transport net).1.2.destroyed = session.destroyed →
      (session.reconnect scriptedNetwork.transport net).1.1 = .error error →
      ∀ role, (session.reconnect scriptedNetwork.transport net).1.2.slot role = .closed := by
    intro _ session net _ error halive hundisturbed hfailed
    obtain ⟨-, hopen⟩ := reconnected_in_full_or_closed
      (show session.reconnect scriptedNetwork.transport net = ((_, _), _) from rfl) hundisturbed
    obtain ⟨_, _, -, -, -, -, hclosed⟩ := hopen halive
    exact (hclosed error hfailed).1
  refine ⟨_, _, _, hreached, by decide +kernel, by decide +kernel, by decide +kernel, ?_,
    by decide +kernel, by decide +kernel⟩
  exact hslots hreached (.connect "127.0.0.1" 11002 "no more") (by decide +kernel)
    (by decide +kernel) (by decide +kernel)

end Session
end MaskedList
