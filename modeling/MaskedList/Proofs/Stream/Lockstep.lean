import MaskedList.Proofs.Stream.Transfer
import MaskedList.Stream.Attempt

/-!
# Computations in lockstep

Two computations are matched by a relation between states if, from related states, they
have the same result and end in related states again.  Matched computations stay matched
when others follow them, when they are tried again after interruptions, and when they are
the single reads and writes of streams: then whole messages are matched too.  So whatever
the relation leaves out of the states has no part in what a message comes to.
-/

namespace MaskedList

section States

variable {σ ε α β : Type} {related : σ → σ → Prop}

/-- From related states both have the same result and end in related states. -/
def Matched (related : σ → σ → Prop) (first second : StateM σ α) : Prop :=
  ∀ left right, related left right →
    (first left).1 = (second right).1 ∧ related (first left).2 (second right).2

theorem matched_pure (value : α) :
    Matched related (pure value : StateM σ α) (pure value) :=
  fun _ _ h => ⟨rfl, h⟩

/-- In lockstep with itself, an operation keeps what the states have in common. -/
theorem matched_self {keeps : σ → Prop} {operation : StateM σ α} :
    Matched (fun left right => left = right ∧ keeps left) operation operation ↔
      ∀ state, keeps state → keeps (operation state).2 := by
  constructor
  · intro h state hstate
    exact (h state state ⟨rfl, hstate⟩).2.2
  · rintro h state _ ⟨rfl, hstate⟩
    exact ⟨rfl, rfl, h state hstate⟩

/-- What follows the same result may depend on it. -/
theorem Matched.bind {first second : StateM σ α} {next other : α → StateM σ β}
    (hfirst : Matched related first second)
    (hnext : ∀ value, Matched related (next value) (other value)) :
    Matched related (first >>= next) (second >>= other) := by
  intro left right hrelated
  obtain ⟨hvalue, hafter⟩ := hfirst left right hrelated
  rw [stateM_bind_apply, stateM_bind_apply, ← hvalue]
  exact hnext _ _ _ hafter

theorem Matched.bindExcept {first second : ExceptT ε (StateM σ) α}
    {next other : α → ExceptT ε (StateM σ) β} (hfirst : Matched related first.run second.run)
    (hnext : ∀ value, Matched related (next value).run (other value).run) :
    Matched related (first >>= next).run (second >>= other).run := by
  intro left right hrelated
  obtain ⟨hresult, hafter⟩ := hfirst left right hrelated
  rw [exceptT_bind_run_apply, exceptT_bind_run_apply]
  rcases hrun : first.run left with ⟨error | value, after⟩
  all_goals
    rcases hother : second.run right with ⟨result, last⟩
    rw [hrun, hother] at hresult hafter
    cases hresult
  · exact ⟨rfl, hafter⟩
  · exact hnext value _ _ hafter

theorem matched_liftExcept (result : Except ε α) :
    Matched related (liftM result : ExceptT ε (StateM σ) α).run
      (liftM result : ExceptT ε (StateM σ) α).run := by
  intro left right hrelated
  rw [exceptT_lift_run_apply, exceptT_lift_run_apply]
  exact ⟨rfl, hrelated⟩

theorem Matched.ofStream {first second : StateM σ (Except IoError α)}
    (h : Matched related first second) :
    Matched related (ofStream first).run (ofStream second).run := by
  intro left right hrelated
  obtain ⟨hresult, hafter⟩ := h left right hrelated
  rw [ofStream_run_apply, ofStream_run_apply, hresult]
  exact ⟨rfl, hafter⟩

/-- Operations in lockstep are interrupted together. -/
theorem Matched.persist {first second : Attempt σ α} (h : Matched related first.run second.run) :
    Matched related first.persist second.persist := by
  intro left right hrelated
  -- on the runs of the first one that are interrupted one after the other
  induction left using Attempt.persist.induct first generalizing right with
  | case1 left error after hrun hinterrupted ih =>
    obtain ⟨hresult, hafter⟩ := h left right hrelated
    rcases hother : second.run right with ⟨result, last⟩
    rw [hrun, hother] at hresult hafter
    cases hresult
    rw [Attempt.persist_of_interrupted hrun hinterrupted,
      Attempt.persist_of_interrupted hother hinterrupted]
    exact ih last hafter
  | case2 left error after hrun hfailed =>
    obtain ⟨hresult, hafter⟩ := h left right hrelated
    rcases hother : second.run right with ⟨result, last⟩
    rw [hrun, hother] at hresult hafter
    cases hresult
    rw [Attempt.persist_of_failed hrun hfailed, Attempt.persist_of_failed hother hfailed]
    exact ⟨rfl, hafter⟩
  | case3 left value after hrun =>
    obtain ⟨hresult, hafter⟩ := h left right hrelated
    rcases hother : second.run right with ⟨result, last⟩
    rw [hrun, hother] at hresult hafter
    cases hresult
    rw [Attempt.persist_of_ok hrun, Attempt.persist_of_ok hother]
    exact ⟨rfl, hafter⟩

end States

/-- Every read of the one source is matched by the same read of the other. -/
def Source.InStep {σ : Type} (related : σ → σ → Prop) (first second : Source (StateM σ)) :
    Prop :=
  ∀ limit, Matched related (first.read limit) (second.read limit)

/-- Every operation of the one sink is matched by the same operation of the other. -/
structure Sink.InStep {σ : Type} (related : σ → σ → Prop) (first second : Sink (StateM σ)) :
    Prop where
  write : ∀ bytes, Matched related (first.write bytes) (second.write bytes)
  flush : Matched related first.flush second.flush

namespace Source

variable {σ : Type} {related : σ → σ → Prop} {first second : Source (StateM σ)}

theorem InStep.fill (h : InStep related first second) (need : Nat) (got : Bytes) :
    Matched related (first.fill need got) (second.fill need got) := by
  induction need, got using Source.fill.induct with
  | case1 got =>
    rw [Source.fill, Source.fill, dif_pos rfl, dif_pos rfl]
    exact matched_pure _
  | case2 need got hneed ih =>
    rw [Source.fill, Source.fill, dif_neg hneed, dif_neg hneed]
    apply (h need).bind
    intro result
    rcases result with error | _ | ⟨byte, piece⟩
    · exact matched_pure _
    · exact matched_pure _
    · exact ih byte piece

theorem InStep.readFrame (h : InStep related first second) :
    Matched related first.readFrame.run second.readFrame.run := by
  unfold Source.readFrame
  apply Matched.bindExcept (h.fill frameHeaderSize []).ofStream
  intro header
  apply Matched.bindExcept (matched_liftExcept _)
  intro _
  apply Matched.bindExcept (h.fill (Frame.announced header) []).ofStream
  intro payload
  exact matched_pure _

theorem InStep.readResponse (h : InStep related first second) :
    Matched related first.readResponse.run second.readResponse.run := by
  unfold Source.readResponse
  apply Matched.bindExcept h.readFrame
  intro frame
  exact matched_liftExcept _

end Source

namespace Sink

variable {σ : Type} {related : σ → σ → Prop} {first second : Sink (StateM σ)}

theorem InStep.writeAll (h : InStep related first second) (bytes : Bytes) :
    Matched related (first.writeAll bytes) (second.writeAll bytes) := by
  induction bytes using Sink.writeAll.induct with
  | case1 =>
    rw [Sink.writeAll, Sink.writeAll]
    exact matched_pure _
  | case2 byte rest ih =>
    rw [Sink.writeAll, Sink.writeAll]
    apply (h.write (byte :: rest)).bind
    intro result
    rcases result with error | _ | taken
    · exact matched_pure _
    · exact matched_pure _
    · exact ih taken

theorem InStep.writeCommand (h : InStep related first second) (command : Command) :
    Matched related (first.writeCommand command).run (second.writeCommand command).run := by
  unfold Sink.writeCommand
  apply Matched.bindExcept (matched_liftExcept _)
  intro frame
  unfold Sink.writeFrame
  apply Matched.bindExcept (h.writeAll frame).ofStream
  intro _
  exact h.flush.ofStream

end Sink

/-- A command that goes out in step, and a response that comes in in step. -/
theorem matched_writeRead {σ : Type} {related : σ → σ → Prop} {sink otherSink : Sink (StateM σ)}
    {source otherSource : Source (StateM σ)} (hsink : sink.InStep related otherSink)
    (hsource : source.InStep related otherSource) (command : Command) :
    Matched related (sink.writeCommand command >>= fun _ => source.readResponse).run
      (otherSink.writeCommand command >>= fun _ => otherSource.readResponse).run := by
  apply Matched.bindExcept (hsink.writeCommand command)
  intro _
  exact hsource.readResponse

end MaskedList
