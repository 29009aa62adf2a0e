import MaskedList.Network.Log

/-!
# Channels in an orderly log

Whoever keeps to the order opens a channel once, closes it at most once, and does
nothing on it afterwards.  So in an orderly log a channel is live as long as it was
not closed, and one that is live no more was closed exactly once.
-/

namespace MaskedList
namespace Log

variable {log : List Event} {channel : ChannelId}

/-- An operation that neither opens nor closes a channel leaves the live ones. -/
theorem live_cons_of_none {event : Event} (hopened : event.opened? = none)
    (hclosed : event.closed? = none) : live (event :: log) = live log := by
  simp [live, opened, closed, hopened, hclosed]

/-- Whoever closes a channel works on it. -/
theorem target_of_closed {event : Event} (h : event.closed? = some channel) :
    event.target? = some channel := by
  cases event <;> simp_all [Event.closed?, Event.target?]

/-- Whoever works on a channel opens none. -/
theorem opened_of_target {event : Event} (h : event.target? = some channel) :
    event.opened? = none := by
  cases event <;> simp_all [Event.opened?, Event.target?]

theorem Orderly.nodup_opened (h : Orderly log) : (opened log).Nodup := by
  induction log with
  | nil => exact List.nodup_nil
  | cons event log ih =>
    obtain ⟨hlog, hfresh, -⟩ := h
    cases hopened : event.opened? with
    | none => simpa [opened, hopened] using ih hlog
    | some channel =>
      have hnodup := List.nodup_cons.mpr ⟨hfresh channel hopened, ih hlog⟩
      simpa [opened, hopened] using hnodup

theorem Orderly.opened_of_closed (h : Orderly log) (hclosed : channel ∈ closed log) :
    channel ∈ opened log := by
  induction log with
  | nil => simp [closed] at hclosed
  | cons event log ih =>
    obtain ⟨hlog, -, hlive⟩ := h
    have hkeep : channel ∈ opened log → channel ∈ opened (event :: log) :=
      mem_opened_cons event log channel
    cases hevent : event.closed? with
    | none => exact hkeep (ih hlog (by simpa [closed, hevent] using hclosed))
    | some other =>
      have hmem : channel = other ∨ channel ∈ closed log := by
        simpa [closed, hevent] using hclosed
      rcases hmem with rfl | hmem
      · exact hkeep ((mem_live log channel).mp (hlive channel (target_of_closed hevent))).1
      · exact hkeep (ih hlog hmem)

theorem Orderly.nodup_closed (h : Orderly log) : (closed log).Nodup := by
  induction log with
  | nil => exact List.nodup_nil
  | cons event log ih =>
    obtain ⟨hlog, -, hlive⟩ := h
    cases hclosed : event.closed? with
    | none => simpa [closed, hclosed] using ih hlog
    | some channel =>
      have hfresh := ((mem_live log channel).mp (hlive channel (target_of_closed hclosed))).2
      have hnodup := List.nodup_cons.mpr ⟨hfresh, ih hlog⟩
      simpa [closed, hclosed] using hnodup

theorem Orderly.nodup_live (h : Orderly log) : (live log).Nodup :=
  h.nodup_opened.filter _

/-- Opening a channel makes it live. -/
theorem Orderly.live_cons_opened {event : Event} (h : Orderly (event :: log))
    (hopened : event.opened? = some channel) :
    live (event :: log) = channel :: live log := by
  obtain ⟨hlog, hfresh, -⟩ := h
  have hclosed : event.closed? = none := by
    cases event <;> simp_all [Event.opened?, Event.closed?]
  have hnew : channel ∉ closed log := fun hmem =>
    hfresh channel hopened (hlog.opened_of_closed hmem)
  have hopenedCons : opened (event :: log) = channel :: opened log := by
    simp [opened, hopened]
  have hclosedCons : closed (event :: log) = closed log := by
    simp [closed, hclosed]
  rw [live, live, hopenedCons, hclosedCons, List.filter_cons_of_pos (by simpa using hnew)]

/-- Closing a channel takes it from the live ones. -/
theorem Orderly.live_cons_closed {event : Event} (h : Orderly (event :: log))
    (hclosed : event.closed? = some channel) :
    live (event :: log) = (live log).erase channel := by
  have hopened := opened_of_target (target_of_closed hclosed)
  -- no channel is live twice, so erasing one is leaving it out
  rw [h.1.nodup_live.erase_eq_filter]
  simp only [live, opened, closed, List.filterMap_cons, hopened, hclosed, List.filter_filter]
  apply List.filter_congr
  intro other _
  by_cases hsame : other = channel <;> simp [hsame]

/-- A channel that is live no more was closed exactly once. -/
theorem Orderly.count_closed (h : Orderly log) (hopened : channel ∈ opened log)
    (hgone : channel ∉ live log) : (closed log).count channel = 1 := by
  have hclosed : channel ∈ closed log :=
    Decidable.byContradiction fun hopen =>
      hgone ((mem_live log channel).mpr ⟨hopened, hopen⟩)
  rw [h.nodup_closed.count, if_pos hclosed]

/-- A channel that is not live stays so for whatever is done later. -/
theorem Orderly.target_ne_of_closed {later earlier : List Event}
    (h : Orderly (later ++ earlier)) (hclosed : channel ∈ closed earlier) :
    ∀ event ∈ later, event.target? ≠ some channel := by
  induction later with
  | nil => simp
  | cons event later ih =>
    obtain ⟨hrest, -, hlive⟩ := h
    -- a channel once closed is live at no later moment
    have hgone : channel ∈ closed (later ++ earlier) := by
      rw [closed, List.filterMap_append]
      exact List.mem_append_right _ hclosed
    intro candidate hmem htarget
    rcases List.mem_cons.mp hmem with rfl | hmem
    · exact ((mem_live _ channel).mp (hlive channel htarget)).2 hgone
    · exact ih hrest candidate hmem htarget

theorem Orderly.noUseAfterClose (h : Orderly log) : NoUseAfterClose log := by
  rintro later channel result earlier rfl
  exact h.target_ne_of_closed (by simp [closed, Event.closed?])

/-- Once no channel is live, every one has been closed exactly once. -/
theorem Orderly.settled (h : Orderly log) (hnone : live log = []) : Settled log :=
  ⟨fun _ hopened => h.count_closed hopened (by simp [hnone]), h.noUseAfterClose⟩

/-- A channel that was never opened has moved no bytes. -/
theorem Orderly.moved_nothing (h : Orderly log) (hunopened : channel ∉ opened log) :
    sent channel log = [] ∧ received channel log = [] := by
  induction log with
  | nil => exact ⟨rfl, rfl⟩
  | cons event log ih =>
    obtain ⟨hlog, -, hlive⟩ := h
    have hearlier : channel ∉ opened log := by
      intro hmem
      apply hunopened
      exact mem_opened_cons event log channel hmem
    -- whatever is done is done on a live channel, and this one is not
    have helsewhere : event.target? ≠ some channel := fun htarget =>
      hearlier ((mem_live log channel).mp (hlive channel htarget)).1
    obtain ⟨hsent, hreceived⟩ := ih hlog hearlier
    simp [hsent, hreceived, Event.accepted_of_target_ne helsewhere,
      Event.given_of_target_ne helsewhere]

end Log
end MaskedList
