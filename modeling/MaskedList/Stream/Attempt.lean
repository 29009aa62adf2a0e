import MaskedList.Error

/-!
# Trying again after an interruption

An interrupted operation has done nothing and is tried again.  An `Attempt`
comes with a measure that each interruption brings down, so that trying again
ends.
-/

namespace MaskedList

/-- An operation on a state that can be interrupted, but not forever. -/
structure Attempt (σ α : Type) where
  run : σ → Except IoError α × σ
  /-- A bound on how often in a row the operation can be interrupted. -/
  patience : σ → Nat
  patience_lt : ∀ {before after : σ} {error : IoError},
    run before = (.error error, after) → error.isInterruption = true →
      patience after < patience before

/-- Runs the operation until it is not interrupted. -/
def Attempt.persist {σ α : Type} (attempt : Attempt σ α) (state : σ) :
    Except IoError α × σ :=
  match _hrun : attempt.run state with
  | (.error error, after) =>
    if _hinterrupted : error.isInterruption then attempt.persist after
    else (.error error, after)
  | (.ok value, after) => (.ok value, after)
termination_by attempt.patience state
decreasing_by exact attempt.patience_lt _hrun _hinterrupted

namespace Attempt

variable {σ α : Type} {attempt : Attempt σ α} {state after : σ}

theorem persist_of_ok {value : α} (hrun : attempt.run state = (.ok value, after)) :
    attempt.persist state = (.ok value, after) := by
  rw [persist.eq_def]
  split <;> simp_all

theorem persist_of_interrupted {error : IoError}
    (hrun : attempt.run state = (.error error, after)) (h : error.isInterruption = true) :
    attempt.persist state = attempt.persist after := by
  rw [persist.eq_def]
  split <;> simp_all

theorem persist_of_failed {error : IoError} (hrun : attempt.run state = (.error error, after))
    (h : ¬ error.isInterruption = true) : attempt.persist state = (.error error, after) := by
  rw [persist.eq_def]
  split <;> simp_all

/-- What is left of a failure is no interruption. -/
theorem not_isInterruption_of_persist {error : IoError}
    (h : attempt.persist state = (.error error, after)) : ¬ error.isInterruption = true := by
  induction state using persist.induct attempt with
  | case1 state failure next hrun hinterrupted ih =>
    rw [persist_of_interrupted hrun hinterrupted] at h
    exact ih h
  | case2 state failure next hrun hother =>
    rw [persist_of_failed hrun hother] at h
    cases h
    exact hother
  | case3 state value next hrun =>
    rw [persist_of_ok hrun] at h
    cases h

/-- What is tried again until it is not interrupted ends with a run from a state
that can be reached by interruptions alone. -/
theorem exists_run_eq_persist (attempt : Attempt σ α) (reached : σ → Prop)
    (hstate : reached state)
    (hagain : ∀ {before error after}, reached before →
      attempt.run before = (.error error, after) → error.isInterruption = true →
        reached after) :
    ∃ before, reached before ∧ attempt.run before = attempt.persist state := by
  -- on the runs that are interrupted one after the other
  induction state using Attempt.persist.induct attempt with
  | case1 state error after hrun hinterrupted ih =>
    rw [persist_of_interrupted hrun hinterrupted]
    exact ih (hagain hstate hrun hinterrupted)
  | case2 state error after hrun hother =>
    exact ⟨state, hstate, by rw [persist_of_failed hrun hother, hrun]⟩
  | case3 state value after hrun =>
    exact ⟨state, hstate, by rw [persist_of_ok hrun, hrun]⟩

end Attempt
end MaskedList
