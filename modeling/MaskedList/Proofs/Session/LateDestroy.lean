import MaskedList.Proofs.Session.Race
import MaskedList.Proofs.Session.Reconnect

/-!
# What a reconnect reports that was overtaken

The flag can be set while a reconnect is opening a channel.  It then fails in any case,
but its error is not always that the session is closed: an opening that fails ends a
reconnect before it has looked at the flag again, and the error is that of the opening.
`Blames` is the exact rule, and the openings that count are those from the moment on at
which the flag was set, as they show in the log.
-/

namespace MaskedList

variable {ω : Type}

/-- The error with which an opening failed. -/
def Event.refusal? : Event → Option Error
  | .connect _ _ _ (.error error) => some error
  | _ => none

/-- The errors of the openings that failed, last one first. -/
def Log.refusals (log : List Event) : List Error :=
  log.filterMap Event.refusal?

theorem Log.refusals_append (later earlier : List Event) :
    refusals (later ++ earlier) = refusals later ++ refusals earlier :=
  List.filterMap_append

/-- Closing a channel is no opening. -/
theorem Log.refusals_of_closings {closings : List Event}
    (h : ∀ event ∈ closings, event.closed?.isSome = true) : refusals closings = [] := by
  refine List.filterMap_eq_nil_iff.mpr fun event hmem => ?_
  cases event with
  | close channel result => rfl
  | _ => simpa [Event.closed?] using h _ hmem

namespace Reconnecting

/-- The error of a reconnect that was overtaken: that of the one opening that failed
meanwhile, or that the session is closed if none did. -/
def Blames (refusals : List Error) (error : Error) : Prop :=
  refusals = [error] ∨ refusals = [] ∧ error = .closedSession

/-- That the session is closed is reported just if no opening failed with another error. -/
theorem Blames.eq_closedSession_iff {refusals : List Error} {error : Error}
    (h : Blames refusals error) :
    error = .closedSession ↔ ∀ refusal ∈ refusals, refusal = .closedSession := by
  obtain rfl | ⟨rfl, rfl⟩ := h
  · simp
  · exact iff_of_true rfl fun _ hmem => by cases hmem

/-- How far a reconnect can have come since the flag was set, after openings that failed with
these errors. -/
def Accounts (refusals : List Error) : Reconnecting → Prop
  | .reopening _ | .opening _ | .checking => refusals = []
  | .closing _ error | .ended (.error error) => Blames refusals error
  | .starting | .ended (.ok ()) => False

theorem accounts_afterLive (role : Role) : (afterLive role).Accounts [] := by
  cases role <;> exact (rfl : ([] : List Error) = [])

end Reconnecting

namespace Caller

variable {network : Network ω} {stage : Reconnecting} {next : Caller}
  {start last : Session × Net ω} {refusals : List Error}

/-- With every turn a reconnect still accounts for its openings. -/
theorem Turned.accounts (h : Turned network (.reconnecting stage) start next last)
    (hflagged : start.1.destroyed = true) (haccounts : stage.Accounts refusals) :
    ∃ stage later, next = .reconnecting stage ∧ last.2.log = later ++ start.2.log ∧
      stage.Accounts (Log.refusals later ++ refusals) := by
  cases h with
  -- these turns are taken before the flag is set
  | reconnectRefused | reconnectStarted => exact haccounts.elim
  | live halive => exact absurd hflagged (by simp [halive])
  | @kept _ _ role =>
    have hnone : refusals = [] := haccounts
    subst hnone
    exact ⟨_, [], rfl, rfl, Reconnecting.accounts_afterLive role⟩
  | missed => exact ⟨_, [], rfl, rfl, haccounts⟩
  | unopened hdial =>
    have hnone : refusals = [] := haccounts
    subst hnone
    exact ⟨_, [_], rfl, (network.opening_error hdial).2, Or.inl rfl⟩
  | @opened _ _ _ role _ _ hdial =>
    have hnone : refusals = [] := haccounts
    subst hnone
    exact ⟨_, [_], rfl, (network.opening_ok hdial).2.2, Reconnecting.accounts_afterLive role⟩
  | overtaken => exact ⟨_, [], rfl, rfl, Or.inr ⟨haccounts, rfl⟩⟩
  | @closedRead session net error =>
    obtain ⟨closings, hlog, hclosings, -⟩ := Session.log_closeSlot network session .read net
    refine ⟨_, closings, rfl, hlog, ?_⟩
    rw [Log.refusals_of_closings hclosings]
    exact haccounts
  | @closedWrite session net error =>
    obtain ⟨closings, hlog, hclosings, -⟩ := Session.log_closeSlot network session .write net
    refine ⟨_, closings, rfl, hlog, ?_⟩
    rw [Log.refusals_of_closings hclosings]
    exact haccounts
  | idle => exact ⟨stage, [], rfl, rfl, haccounts⟩

end Caller

namespace Race

variable {network : Network ω} {race : Race} {net : Net ω} {earlier : List Event}

/-- The flag was set when the log was `earlier`, and the reconnect accounts for what has been
opened since then. -/
def Overtaken (earlier : List Event) (race : Race) (net : Net ω) : Prop :=
  race.session.destroyed = true ∧ ∃ stage later, race.caller = .reconnecting stage ∧
    net.log = later ++ earlier ∧ stage.Accounts (Log.refusals later)

variable (network) in
theorem Overtaken.turn (h : Overtaken earlier race net) (howed : race.owed ≠ none)
    (party : Party) :
    Overtaken earlier (race.turn network.transport party net).1
        (race.turn network.transport party net).2 ∧
      (race.turn network.transport party net).1.owed ≠ none := by
  obtain ⟨hflagged, stage, later, hcaller, hlog, haccounts⟩ := h
  cases party with
  | caller =>
    obtain ⟨hsame, hturned⟩ := race.turned_caller network net
    rw [hcaller] at hturned
    obtain ⟨next, more, hnext, hmore, hnextAccounts⟩ := hturned.accounts hflagged haccounts
    refine ⟨⟨hturned.flagged hflagged, next, more ++ later, hnext, ?_, ?_⟩, by rwa [hsame]⟩
    · rw [List.append_assoc, ← hlog]
      exact hmore
    · rw [Log.refusals_append]
      exact hnextAccounts
  | destroyer =>
    rcases hleft : race.owed with _ | _ | ⟨role, owed⟩
    · exact absurd hleft howed
    · rw [turn_done hleft]
      exact ⟨⟨hflagged, stage, later, hcaller, hlog, haccounts⟩, howed⟩
    by_cases hheld : race.caller.holds = some role
    · rw [turn_waiting hleft hheld]
      exact ⟨⟨hflagged, stage, later, hcaller, hlog, haccounts⟩, howed⟩
    · -- the destroyer closes a slot, which is no opening
      rw [turn_closing hleft hheld]
      obtain ⟨closings, hclosing, hclosings, -⟩ :=
        Session.log_closeSlot network race.session role net
      refine ⟨⟨?_, stage, closings ++ later, hcaller, ?_, ?_⟩, by simp⟩
      · rw [Session.closeSlot_fst, Session.destroyed_setSlot]
        exact hflagged
      · rw [List.append_assoc, ← hlog]
        exact hclosing
      · rw [Log.refusals_append, Log.refusals_of_closings hclosings]
        exact haccounts

theorem Overtaken.play (h : Overtaken earlier race net) (howed : race.owed ≠ none)
    (schedule : List Party) :
    Overtaken earlier (race.play network.transport schedule net).1
      (race.play network.transport schedule net).2 := by
  induction schedule generalizing race net with
  | nil => exact h
  | cons party schedule ih =>
    obtain ⟨hturn, howed⟩ := h.turn network howed party
    exact ih hturn howed

/-- A reconnect in one of whose openings the session is destroyed comes to an end, whichever
way the two take their turns from there, and it fails.  It reports that the session is closed
if neither that opening nor one that comes after it fails; otherwise just one of them does, and
the reconnect reports what that one failed with.  So it hides that the session is closed just
if an opening fails with another error from then on. -/
theorem overtaken_reconnect_blames {network : Network ω} {config : Config} {world : ω}
    {run : List Step} {session : Session} {net : Net ω}
    (hreached : Reached network config world run session net) (lead : Nat) {role : Role}
    (hinside : (Race.play network.transport (List.replicate lead .caller)
      ⟨.reconnecting .starting, session, none⟩ net).1.caller = .reconnecting (.opening role))
    (schedule : List Party) :
    let inside := Race.play network.transport (List.replicate lead .caller)
      ⟨.reconnecting .starting, session, none⟩ net
    let last := Race.play network.transport (.destroyer :: schedule) inside.1 inside.2
    (Race.play network.transport (.destroyer :: schedule ++ finish) inside.1
      inside.2).1.isOver = true ∧
    (last.1.caller.hasEnded = true → ∃ error later,
      last.1.caller = .reconnecting (.ended (.error error)) ∧
      last.2.log = later ++ inside.2.log ∧
      Reconnecting.Blames (Log.refusals later) error ∧
      (error = .closedSession ↔ ∀ refusal ∈ Log.refusals later, refusal = .closedSession)) := by
  intro inside last
  have hstart : Race.Placed ⟨.reconnecting .starting, session, none⟩ net :=
    ⟨Caller.placed_of_isStarting rfl, hreached.holding⟩
  have howed : inside.1.owed = none := play_owed lead
  have hcaller : inside.1.caller = .reconnecting (.opening role) := hinside
  constructor
  · have hlost : inside.1.caller ≠ .reconnecting (.ended (.ok ())) := by simp [hcaller]
    have hflagged := (hstart.play lead).doomed network howed hlost
    have hdoomed : last.1.Doomed last.2 := hflagged.play network schedule
    rw [play_append_apply]
    exact hdoomed.finish
  · intro hended
    -- when the flag is set, no opening has failed as yet
    have hflagged : Overtaken inside.2.log (inside.1.turn network.transport .destroyer inside.2).1
        (inside.1.turn network.transport .destroyer inside.2).2 := by
      rw [turn_flagging howed]
      exact ⟨by rw [Session.noting_true], .opening role, [], hcaller, rfl, rfl⟩
    have hflag : (inside.1.turn network.transport .destroyer inside.2).1.owed ≠ none := by
      simp [turn_flagging howed]
    obtain ⟨-, stage, later, hlast, hlog, haccounts⟩ := hflagged.play hflag schedule
    have hlastCaller : last.1.caller = .reconnecting stage := hlast
    rw [hlastCaller] at hended
    cases stage with
    | ended result =>
      cases result with
      | error error => exact ⟨error, later, hlast, hlog, haccounts, haccounts.eq_closedSession_iff⟩
      | ok => exact haccounts.elim
    | _ => cases hended

/-- A session that is closed and then reconnected, and destroyed while its channel for mutations
is being opened: the opening succeeds, and the reconnect reports that the session is closed. -/
theorem overtaken_reconnect_blames_nothing_else :
    ∃ run session net, Reached scriptedNetwork {} fourChannels run session net ∧
      let inside := Race.play scriptedNetwork.transport (List.replicate 4 .caller)
        ⟨.reconnecting .starting, session, none⟩ net
      let last := Race.play scriptedNetwork.transport (.destroyer :: finish) inside.1 inside.2
      inside.1.caller = .reconnecting (.opening .write) ∧ last.1.isOver = true ∧
        last.1.caller = .reconnecting (.ended (.error .closedSession)) ∧
        ∃ error later, last.1.caller = .reconnecting (.ended (.error error)) ∧
          last.2.log = later ++ inside.2.log ∧
          Reconnecting.Blames (Log.refusals later) error ∧
          (error = .closedSession ↔
            ∀ refusal ∈ Log.refusals later, refusal = .closedSession) := by
  have hconnect : Session.connect scriptedNetwork.transport {} (Net.fresh fourChannels) =
      (.ok ⟨{}, .connected ⟨11001, 0⟩, .connected ⟨11002, 0⟩, false⟩,
        (Session.connect scriptedNetwork.transport {} (Net.fresh fourChannels)).2) :=
    Prod.ext (by decide +kernel) rfl
  have hreached := (Reached.connected hconnect).perform .close
  have hblames := overtaken_reconnect_blames hreached 4
    (show _ = Caller.reconnecting (.opening .write) by rfl) finish
  exact ⟨_, _, _, hreached, by rfl, by decide +kernel, by rfl, hblames.2 (by decide +kernel)⟩

/-- A session is closed and then reconnected, and destroyed while its channel for queries is
being opened.  The other channel is refused after that, and this is what the reconnect reports:
its caller is not told that the session is closed for good. -/
theorem refusal_hides_destroy :
    ∃ run session net, Reached scriptedNetwork {} Session.refusingAgain run session net ∧
      session.destroyed = false ∧
      let inside := Race.play scriptedNetwork.transport (List.replicate 2 .caller)
        ⟨.reconnecting .starting, session, none⟩ net
      let last := Race.play scriptedNetwork.transport (.destroyer :: finish) inside.1 inside.2
      inside.1.caller = .reconnecting (.opening .read) ∧ last.1.isOver = true ∧
        last.1.session.destroyed = true ∧
        last.1.caller =
          .reconnecting (.ended (.error (.connect "127.0.0.1" 11002 "no more"))) := by
  have hconnect : Session.connect scriptedNetwork.transport {}
      (Net.fresh Session.refusingAgain) =
      (.ok ⟨{}, .connected ⟨11001, 0⟩, .connected ⟨11002, 0⟩, false⟩,
        (Session.connect scriptedNetwork.transport {} (Net.fresh Session.refusingAgain)).2) :=
    Prod.ext (by decide +kernel) rfl
  have hreached := (Reached.connected hconnect).perform .close
  exact ⟨_, _, _, hreached, by rfl, by rfl, by decide +kernel, by rfl, by rfl⟩

end Race
end MaskedList
