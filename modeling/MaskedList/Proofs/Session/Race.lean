import MaskedList.Proofs.Session.Caller
import MaskedList.Proofs.Session.Ownership

/-!
# A destroyer wins every race

Once the flag is set nothing that a caller does can keep a channel alive.  What the
destroyer has closed stays closed, or the caller is on its way to close it: a
reconnect that may have opened a channel anew looks at the flag before it ends, and
a command opens one only while the destroyer has its slot still to close.  So when
both are done every slot is closed, and with it every channel.
-/

namespace MaskedList

variable {ω : Type}

namespace Caller

variable {network : Network ω} {caller next : Caller} {start last : Session × Net ω}
  {session : Session} {before : Net ω}

/-- Whether a reconnect that finds the flag set still closes a slot before it ends. -/
def willClose (role : Role) : Caller → Bool
  | .reconnecting (.reopening _) | .reconnecting (.opening _) | .reconnecting .checking
  | .reconnecting (.closing .read _) => true
  | .reconnecting (.closing .write _) => role = .write
  | _ => false

/-- The flag is set, and every slot is closed that the destroyer has not still to close and
the caller neither. -/
structure Doomed (owed : List Role) (caller : Caller) (state : Session × Net ω) : Prop where
  flagged : state.1.destroyed = true
  placed : caller.Placed state.1
  holding : state.2.Holding state.1.channels
  lost : caller ≠ .reconnecting (.ended (.ok ()))
  closed : ∀ role, role ∉ owed → state.1.slot role = .closed ∨ caller.willClose role = true

/-- The flag is never cleared. -/
theorem Turned.flagged (h : Turned network caller start next last)
    (hflagged : start.1.destroyed = true) : last.1.destroyed = true := by
  cases h with
  | unopened | sendUnopened => exact Bool.or_eq_true_iff.mpr (Or.inl hflagged)
  | opened | sendOpened =>
    rw [Session.destroyed_setSlot]
    exact Bool.or_eq_true_iff.mpr (Or.inl hflagged)
  | closedRead | closedWrite =>
    rw [Session.closeSlot_fst, Session.destroyed_setSlot]
    exact hflagged
  | talked ending hconversed => exact (conversed_frame hconversed).1.trans hflagged
  | _ => exact hflagged

/-- A reconnect that finds the flag set does not succeed. -/
theorem Turned.lost (h : Turned network caller start next last)
    (hflagged : start.1.destroyed = true)
    (hlost : caller ≠ .reconnecting (.ended (.ok ()))) :
    next ≠ .reconnecting (.ended (.ok ())) := by
  cases h with
  -- the only turn that ends in success looks at the flag first
  | live halive => exact absurd hflagged (by simp [halive])
  | @kept _ _ role => cases role <;> simp [Reconnecting.afterLive]
  | @opened _ _ _ role => cases role <;> simp [Reconnecting.afterLive]
  | idle hended => exact hlost
  | _ => simp

/-- No turn of a caller saves a session. -/
theorem Turned.doomed {owed : List Role} (h : Turned network caller start next last)
    (hdoomed : Doomed owed caller start) : Doomed owed next last := by
  refine ⟨h.flagged hdoomed.flagged, h.placed hdoomed.placed,
    (h.works hdoomed.placed).holding hdoomed.holding, h.lost hdoomed.flagged hdoomed.lost, ?_⟩
  intro role howed
  have hbefore := hdoomed.closed role howed
  cases h with
  -- a reconnect that is not done with reopening still comes to look at the flag
  | @kept _ _ other => cases other <;> exact Or.inr rfl
  | @opened _ _ _ other => cases other <;> exact Or.inr rfl
  | missed | unopened | overtaken => exact Or.inr rfl
  -- these turns are taken only as long as the flag is not set
  | reconnectStarted halive => exact absurd hdoomed.flagged (by simp [halive])
  | live halive => exact absurd hdoomed.flagged (by simp [halive])
  | sendStarted _ halive => exact absurd hdoomed.flagged (by simp [halive])
  | closedRead error =>
    rw [Session.closeSlot_fst]
    cases role with
    -- the other slot is closed in the caller's next turn
    | read => exact Or.inl (Session.slot_setSlot_self _ _ _)
    | write => exact Or.inr rfl
  | closedWrite error =>
    rw [Session.closeSlot_fst]
    cases role with
    | read =>
      rw [Session.slot_setSlot_of_ne (by simp)]
      simpa [willClose] using hbefore
    | write => exact Or.inl (Session.slot_setSlot_self _ _ _)
  | sendUnopened =>
    rw [Session.slot_noting]
    exact hbefore
  | @sendOpened session _ _ command =>
    -- the caller has the lock, so the destroyer has this slot still to close
    have hslot : session.slot command.role = .discarded := hdoomed.placed
    have hne : role ≠ command.role := by
      rintro rfl
      simp [hslot, willClose] at hbefore
    rw [Session.slot_setSlot_of_ne hne, Session.slot_noting]
    exact hbefore
  | @talked session _ _ _ command channel _ _ hconversed =>
    have hslot : session.slot command.role = .connected channel := hdoomed.placed
    have hne : role ≠ command.role := by
      rintro rfl
      simp [hslot, willClose] at hbefore
    rw [(conversed_frame hconversed).2 role hne]
    exact hbefore
  | _ => exact hbefore

/-- What the destroyer has closed it owes no more. -/
theorem Doomed.closeSlot {role : Role} {owed : List Role} {net : Net ω}
    (h : Doomed (role :: owed) caller (session, net)) (hfree : caller.holds ≠ some role) :
    Doomed owed caller (session.closeSlot network.transport role net) := by
  have hhandled : Session.Handled network (session, net)
      (session.closeSlot network.transport role net) := Session.handled_closeSlot
  refine ⟨?_, ?_, hhandled.holding h.holding, h.lost, ?_⟩
  · rw [Session.closeSlot_fst, Session.destroyed_setSlot]
    exact h.flagged
  · rw [Session.closeSlot_fst]
    exact h.placed.setSlot hfree .closed
  · intro other howed
    rw [Session.closeSlot_fst]
    by_cases hother : other = role
    · subst hother
      exact Or.inl (Session.slot_setSlot_self _ _ _)
    · rw [Session.slot_setSlot_of_ne hother]
      exact h.closed other (by simp [hother, howed])

/-- Once both are done there is nothing left to close. -/
theorem Doomed.over (h : Doomed [] caller (session, before)) (hended : caller.hasEnded = true) :
    (∀ role, session.slot role = .closed) ∧ Log.Settled before.log := by
  have hclosed : ∀ role, session.slot role = .closed := by
    intro role
    rcases h.closed role (by simp) with hslot | hwill
    · exact hslot
    · rcases caller with ⟨_ | ⟨_ | _⟩ | ⟨_ | _⟩ | _ | ⟨_ | _, _⟩ | _⟩ | ⟨_, _ | _ | _ | _ | _⟩ <;>
        simp_all [hasEnded, willClose]
  refine ⟨hclosed, ?_⟩
  have hholding := h.holding
  rw [Session.channels_of_closed hclosed] at hholding
  exact hholding.settled

end Caller

namespace Race

variable {network : Network ω} {race : Race} {net : Net ω}

variable (network) in
/-- The turn that the caller of a race takes. -/
theorem turned_caller (race : Race) (net : Net ω) :
    (race.turn network.transport .caller net).1.owed = race.owed ∧
      Caller.Turned network race.caller (race.session, net)
        (race.turn network.transport .caller net).1.caller
        ((race.turn network.transport .caller net).1.session,
          (race.turn network.transport .caller net).2) := by
  rcases hrun : race.caller.turn network.transport race.session net with
    ⟨⟨caller, session⟩, after⟩
  have hturn : race.turn network.transport .caller net =
      ({ race with caller, session }, after) := by
    rw [turn, stateM_bind_apply, hrun]
    rfl
  rw [hturn]
  exact ⟨rfl, Caller.turned_turn hrun⟩

/-- First the destroyer sets the flag. -/
theorem turn_flagging (howed : race.owed = none) :
    race.turn network.transport .destroyer net =
      (⟨race.caller, race.session.noting true, some [.read, .write]⟩, net) := by
  rw [turn, destroyerTurn, howed, Session.noting_true]
  rfl

theorem turn_waiting {role : Role} {owed : List Role} (howed : race.owed = some (role :: owed))
    (hheld : race.caller.holds = some role) :
    race.turn network.transport .destroyer net = (race, net) := by
  rw [turn, destroyerTurn, howed]
  show (if race.caller.holds = some role then pure race else _ : StateM (Net ω) Race) net = _
  rw [if_pos hheld]
  rfl

theorem turn_closing {role : Role} {owed : List Role} (howed : race.owed = some (role :: owed))
    (hfree : race.caller.holds ≠ some role) :
    race.turn network.transport .destroyer net =
      (⟨race.caller, (race.session.closeSlot network.transport role net).1, some owed⟩,
        (race.session.closeSlot network.transport role net).2) := by
  rw [turn, destroyerTurn, howed]
  show (if race.caller.holds = some role then pure race else _ : StateM (Net ω) Race) net = _
  rw [if_neg hfree]
  rfl

theorem turn_done (howed : race.owed = some []) :
    race.turn network.transport .destroyer net = (race, net) := by
  rw [turn, destroyerTurn, howed]
  rfl

/-- The destroyer has set the flag and goes on closing slots. -/
def Doomed (race : Race) (net : Net ω) : Prop :=
  ∃ owed, race.owed = some owed ∧ owed.length ≤ 2 ∧
    Caller.Doomed owed race.caller (race.session, net)

/-- Whoever takes a turn, the session stays lost. -/
theorem Doomed.turn (h : race.Doomed net) (party : Party) :
    (race.turn network.transport party net).1.Doomed
      (race.turn network.transport party net).2 := by
  obtain ⟨owed, howed, hfew, hdoomed⟩ := h
  cases party with
  | caller =>
    obtain ⟨hsame, hturned⟩ := race.turned_caller network net
    exact ⟨owed, hsame.trans howed, hfew, hturned.doomed hdoomed⟩
  | destroyer =>
    cases owed with
    | nil =>
      rw [turn_done howed]
      exact ⟨[], howed, hfew, hdoomed⟩
    | cons role owed =>
      by_cases hheld : race.caller.holds = some role
      · rw [turn_waiting howed hheld]
        exact ⟨role :: owed, howed, hfew, hdoomed⟩
      · rw [turn_closing howed hheld]
        exact ⟨owed, rfl, Nat.le_of_succ_le hfew, hdoomed.closeSlot hheld⟩

variable (network) in
theorem Doomed.play (h : race.Doomed net) (schedule : List Party) :
    (race.play network.transport schedule net).1.Doomed
      (race.play network.transport schedule net).2 := by
  induction schedule generalizing race net with
  | nil => exact h
  | cons party schedule ih => exact ih (h.turn party)

/-- A caller between turns, of whom nobody has destroyed anything yet. -/
def Placed (race : Race) (net : Net ω) : Prop :=
  race.caller.Placed race.session ∧ net.Holding race.session.channels

theorem Placed.play (h : race.Placed net) (turns : Nat) :
    (race.play network.transport (List.replicate turns .caller) net).1.Placed
      (race.play network.transport (List.replicate turns .caller) net).2 := by
  induction turns generalizing race net with
  | zero => exact h
  | succ turns ih =>
    obtain ⟨-, hturned⟩ := race.turned_caller network net
    exact ih ⟨hturned.placed h.1, (hturned.works h.1).holding h.2⟩

theorem play_owed (turns : Nat) :
    (race.play network.transport (List.replicate turns .caller) net).1.owed = race.owed := by
  induction turns generalizing race net with
  | zero => rfl
  | succ turns ih => exact ih.trans (race.turned_caller network net).1

variable (network) in
/-- A destroyer who sets the flag in time dooms the session. -/
theorem Placed.doomed (h : race.Placed net) (howed : race.owed = none)
    (hlost : race.caller ≠ .reconnecting (.ended (.ok ()))) :
    (race.turn network.transport .destroyer net).1.Doomed
      (race.turn network.transport .destroyer net).2 := by
  rw [turn_flagging howed]
  -- nothing is claimed of a slot yet: both are still owed
  refine ⟨[.read, .write], rfl, by simp, by simp, h.1.noting true, h.2, hlost, ?_⟩
  intro role howed
  cases role <;> simp at howed

theorem play_append_apply (first second : List Party) :
    race.play network.transport (first ++ second) net =
      Race.play network.transport second (race.play network.transport first net).1
        (race.play network.transport first net).2 := by
  rw [play_append]
  rfl

variable (network) in
/-- With every turn of its own a caller comes closer to the end. -/
theorem rank_play (race : Race) (net : Net ω) (turns : Nat) :
    (race.play network.transport (List.replicate turns .caller) net).1.caller.rank ≤
      race.caller.rank - turns := by
  induction turns generalizing race net with
  | zero => exact Nat.le_refl _
  | succ turns ih =>
    have hturn := (race.turned_caller network net).2.rank_le
    have hrest := ih (race.turn network.transport .caller net).1
      (race.turn network.transport .caller net).2
    refine Nat.le_trans hrest ?_
    omega

/-- A destroyer in nobody's way closes what it owes. -/
theorem over_of_hasEnded {owed : List Role} (howed : race.owed = some owed)
    (hended : race.caller.hasEnded = true) {turns : Nat} (hturns : owed.length ≤ turns) :
    (race.play network.transport (List.replicate turns .destroyer) net).1.isOver = true := by
  induction turns generalizing race net owed with
  | zero =>
    have hnothing : owed = [] := List.length_eq_zero_iff.mp (Nat.le_zero.mp hturns)
    show race.isOver = true
    simp [isOver, hended, howed, hnothing]
  | succ turns ih =>
    show (Race.play network.transport (List.replicate turns .destroyer)
      (race.turn network.transport .destroyer net).1
      (race.turn network.transport .destroyer net).2).1.isOver = true
    cases owed with
    | nil =>
      rw [turn_done howed]
      exact ih howed hended (Nat.zero_le turns)
    | cons role owed =>
      rw [turn_closing howed (by simp [Caller.holds_of_hasEnded hended])]
      exact ih rfl hended (Nat.le_of_succ_le_succ hturns)

/-- Both come to an end, whatever is left to do. -/
theorem Doomed.finish (h : race.Doomed net) :
    (race.play network.transport Race.finish net).1.isOver = true := by
  rw [Race.finish, play_append_apply]
  obtain ⟨owed, howed, hfew, -⟩ := h.play network (List.replicate 8 .caller)
  -- eight turns are enough for any caller, and then it has no lock either
  have hrank : (race.play network.transport (List.replicate 8 .caller) net).1.caller.rank = 0 := by
    have hbound := race.caller.rank_le
    have hless := rank_play network race net 8
    omega
  exact over_of_hasEnded howed (Caller.hasEnded_iff_rank.mpr hrank) (Nat.le_succ_of_le hfew)

end Race

/-- What a caller gets of a destroyed session. -/
def Request.refusal : (request : Request) → request.Answer
  | .send command => .returned (command.opcode.report (.failed .closedSession))
  | .reconnect => .error .closedSession
  | .close | .destroy => ()

namespace Session

variable {network : Network ω}

theorem setSlot_slot (session : Session) (role : Role) :
    session.setSlot role (session.slot role) = session := by
  cases role <;> rfl

theorem close_of_closed {session : Session} (hclosed : ∀ role, session.slot role = .closed)
    (net : Net ω) : session.close network.transport net = (session, net) := by
  have hkeep : ∀ role, session.closeSlot network.transport role net = (session, net) := by
    intro role
    rw [closeSlot_of_empty (by rw [hclosed role]; rfl), ← hclosed role, setSlot_slot]
  rw [close_apply, hkeep, hkeep]

/-- Whatever is asked of a session that is destroyed and closed is refused, and nothing
is done. -/
theorem perform_of_destroyed {session : Session} (hdestroyed : session.destroyed = true)
    (hclosed : ∀ role, session.slot role = .closed) (request : Request) (net : Net ω) :
    session.perform network.transport request net = ((request.refusal, session), net) := by
  cases request with
  | send command =>
    rw [perform, issue_of_destroyed hdestroyed]
    rfl
  | close =>
    rw [perform_close, close_of_closed hclosed]
  | reconnect =>
    rw [perform, reconnect, if_pos hdestroyed]
    rfl
  | destroy =>
    have hsame : session.noting true = session := by
      cases session
      simp_all [noting]
    rw [perform_destroy, destroy, ← noting_true, hsame, close_of_closed hclosed]

end Session

namespace Race

/-- A destroyer who begins while a caller is inside the opening of a channel, be it to
reconnect a session or to send a command, has the last word, whichever way the two take
their turns from there and whatever the network does: both come to an end, and then the
session is destroyed, both slots are closed, every channel was closed once and for all, a
reconnect has failed, and all that is asked for later is refused without any effect. -/
theorem destroyer_wins {network : Network ω} {config : Config} {world : ω} {run : List Step}
    {session : Session} {net : Net ω} (hreached : Reached network config world run session net)
    {caller : Caller} (hstarting : caller.isStarting = true) (lead : Nat)
    (hinside : (Race.play network.transport (List.replicate lead .caller)
      ⟨caller, session, none⟩ net).1.caller.isOpening = true) (schedule : List Party) :
    let inside := Race.play network.transport (List.replicate lead .caller)
      ⟨caller, session, none⟩ net
    let last := Race.play network.transport (.destroyer :: schedule) inside.1 inside.2
    (Race.play network.transport (.destroyer :: schedule ++ finish) inside.1
      inside.2).1.isOver = true ∧
    (last.1.isOver = true →
      last.1.session.destroyed = true ∧ (∀ role, last.1.session.slot role = .closed) ∧
      Log.Settled last.2.log ∧ last.1.caller ≠ .reconnecting (.ended (.ok ())) ∧
      ∀ request, last.1.session.perform network.transport request last.2 =
        ((request.refusal, last.1.session), last.2)) := by
  intro inside last
  have hstart : Race.Placed ⟨caller, session, none⟩ net :=
    ⟨Caller.placed_of_isStarting hstarting, hreached.holding⟩
  have hplaced : inside.1.Placed inside.2 := hstart.play lead
  have hlost : inside.1.caller ≠ .reconnecting (.ended (.ok ())) := by
    intro hended
    rw [hended] at hinside
    cases hinside
  have hflagged := hplaced.doomed network (play_owed lead) hlost
  have hdoomed : last.1.Doomed last.2 := hflagged.play network schedule
  refine ⟨?_, ?_⟩
  · rw [play_append_apply]
    exact hdoomed.finish
  · intro hover
    obtain ⟨owed, howed, -, hcaller⟩ := hdoomed
    simp only [isOver, Bool.and_eq_true, decide_eq_true_eq] at hover
    obtain ⟨hended, hnothing⟩ := hover
    rw [hnothing] at howed
    cases howed
    obtain ⟨hclosed, hsettled⟩ := hcaller.over hended
    exact ⟨hcaller.flagged, hclosed, hsettled, hcaller.lost,
      fun request => Session.perform_of_destroyed hcaller.flagged hclosed request last.2⟩

/-- A script of four channels without a fault. -/
def fourChannels : ScriptedWorld where
  openings := List.replicate 4 (.accept {} false)

/-- A session that is closed and then reconnected, and destroyed while its channel for
queries is being opened: the destroyer has to wait for that, closes the slot before the
other channel is opened, and all four channels are closed in the end. -/
theorem destroyer_wins_over_reconnect :
    ∃ run session net, Reached scriptedNetwork {} fourChannels run session net ∧
      let inside := Race.play scriptedNetwork.transport (List.replicate 2 .caller)
        ⟨.reconnecting .starting, session, none⟩ net
      let last := Race.play scriptedNetwork.transport
        (.destroyer :: ([.destroyer, .caller, .destroyer] ++ finish)) inside.1 inside.2
      inside.1.caller.isOpening = true ∧ last.1.isOver = true ∧
        (Log.opened last.2.log).length = 4 ∧ Log.Settled last.2.log ∧
        last.1.caller ≠ .reconnecting (.ended (.ok ())) := by
  have hconnect : Session.connect scriptedNetwork.transport {} (Net.fresh fourChannels) =
      (.ok ⟨{}, .connected ⟨11001, 0⟩, .connected ⟨11002, 0⟩, false⟩,
        (Session.connect scriptedNetwork.transport {} (Net.fresh fourChannels)).2) :=
    Prod.ext (by decide +kernel) rfl
  have hreached := (Reached.connected hconnect).perform .close
  obtain ⟨-, hwins⟩ := destroyer_wins hreached
    (show (Caller.reconnecting .starting).isStarting = true from rfl) 2
    (by decide +kernel) ([.destroyer, .caller, .destroyer] ++ finish)
  obtain ⟨-, -, hsettled, hlost, -⟩ := hwins (by decide +kernel)
  exact ⟨_, _, _, hreached, by decide +kernel, by decide +kernel, by decide +kernel, hsettled,
    hlost⟩

end Race
end MaskedList
