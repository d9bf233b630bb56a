import Mathlib.Data.List.Basic

/-!
# Folds that may fail

A fold over a list in `Except` stops at the first failure. Where it does not fail, what holds before
and is kept by the step for the next element holds behind the whole list; the elements that the fold
has passed are at hand at each step.
-/
namespace List

variable {α β ε : Type*}

/-- What a fold keeps along the elements that it has passed. -/
theorem foldlM_passed {xs : List α} {f : β → α → Except ε β} {init final : β}
    (kept : List α → β → Prop) (first : kept [] init)
    (step : ∀ passed x rest state next, xs = passed ++ x :: rest → kept passed state →
      f state x = .ok next → kept (passed ++ [x]) next)
    (folded : xs.foldlM f init = .ok final) : kept xs final := by
  have along : ∀ (rest passed : List α) (state : β), xs = passed ++ rest → kept passed state →
      rest.foldlM f state = .ok final → kept xs final := by
    intro rest
    induction rest with
    | nil =>
      intro passed state split known done
      have same : state = final := by simpa [List.foldlM, pure, Except.pure] using done
      rw [split, List.append_nil, ← same]
      exact known
    | cons x rest ih =>
      intro passed state split known done
      rw [List.foldlM_cons] at done
      cases moved : f state x with
      | error failure => simp [moved, bind, Except.bind] at done
      | ok next =>
        simp only [moved, bind, Except.bind] at done
        exact ih (passed ++ [x]) next (by rw [split, List.append_assoc, List.singleton_append])
          (step passed x rest state next split known moved) done
  exact along xs [] init rfl first folded

end List
