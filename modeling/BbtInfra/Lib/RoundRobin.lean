import Mathlib.Tactic.ByContra
import Mathlib.Tactic.SplitIfs

/-!
# Weighted round robin between two sides

A turn goes to the first side that is ready and has credit, to a ready side without credit when
there is no such side, and to nobody when neither is ready. Both credits are reloaded with the
weights when both are used up, and the credit of a side that is not ready stays. How long a ready
side may be passed over is bounded by a measure of the credits that every turn of the other side
lowers.
-/
namespace BbtInfra.Lib

/-- The two sides of a scheduler. -/
inductive Side
  | first
  | second
  deriving DecidableEq, Repr

/-- The other side. -/
def Side.other : Side → Side
  | .first => .second
  | .second => .first

/-- The turns that each side has left in this round; also the weights of the two sides. -/
structure Credits where
  first : Nat
  second : Nat
  deriving DecidableEq, Repr

namespace Credits

variable {weights credits : Credits}

/-- A new round begins when both credits are used up. -/
def reload (credits weights : Credits) : Credits :=
  if credits.first = 0 ∧ credits.second = 0 then weights else credits

/-- A turn: who gets it, and the credits behind it. -/
def turn (credits weights : Credits) (ready : Side → Bool) : Option Side × Credits :=
  let credits := credits.reload weights
  if credits.first ≠ 0 ∧ ready .first then
    (some .first, { credits with first := credits.first - 1 })
  else if credits.second ≠ 0 ∧ ready .second then
    (some .second, { credits with second := credits.second - 1 })
  else if ready .first then (some .first, credits)
  else if ready .second then (some .second, credits)
  else (none, credits)

/-- Both sides have a share. -/
def Positive (weights : Credits) : Prop := weights.first ≠ 0 ∧ weights.second ≠ 0

/-- The credits are what is left of the weights. -/
def Within (credits weights : Credits) : Prop :=
  credits.first ≤ weights.first ∧ credits.second ≤ weights.second

/-- The turns that the other side can still get while a side is ready. -/
def ahead (credits weights : Credits) : Side → Nat
  | .first => if credits.first = 0 then credits.second else 0
  | .second => credits.first + if credits.second = 0 then weights.first else 0

/-- No side waits for more than this. -/
def longest (weights : Credits) : Side → Nat
  | .first => weights.second
  | .second => 2 * weights.first

/-- A side waits longest when its credit is used up and the other has a whole round before it. -/
theorem ahead_le (within : credits.Within weights) (side : Side) :
    credits.ahead weights side ≤ weights.longest side := by
  obtain ⟨first, second⟩ := within
  cases side with
  | first =>
    simp only [ahead, longest]
    split_ifs
    · exact second
    · exact Nat.zero_le _
  | second =>
    simp only [ahead, longest]
    split_ifs
    all_goals omega

/-- A reload is done once. -/
theorem reload_reload (credits weights : Credits) :
    (credits.reload weights).reload weights = credits.reload weights := by
  unfold reload
  split_ifs
  all_goals rfl

/-- A reload stays within the weights. -/
theorem Within.reload (within : credits.Within weights) :
    (credits.reload weights).Within weights := by
  unfold Credits.reload
  split_ifs
  · exact ⟨Nat.le_refl _, Nat.le_refl _⟩
  · exact within

/-- A reload makes nobody wait longer. -/
theorem reload_ahead (positive : weights.Positive) (credits : Credits) (side : Side) :
    (credits.reload weights).ahead weights side ≤ credits.ahead weights side := by
  unfold reload
  split_ifs with spent
  · obtain ⟨first, second⟩ := spent
    cases side with
    | first => simp [ahead, positive.1]
    | second =>
      simp [ahead, first, second, positive.2]
  · exact Nat.le_refl _

/-- After a reload not both credits are used up. -/
theorem reload_left (positive : weights.Positive) (credits : Credits) :
    (credits.reload weights).first ≠ 0 ∨ (credits.reload weights).second ≠ 0 := by
  unfold reload
  split_ifs with spent
  · exact .inl positive.1
  · by_cases first : credits.first = 0
    · exact .inr fun second => spent ⟨first, second⟩
    · exact .inl first

/-- A turn keeps the credits within the weights. -/
theorem Within.turn (within : credits.Within weights) (ready : Side → Bool) :
    (credits.turn weights ready).2.Within weights := by
  obtain ⟨first, second⟩ := within.reload
  unfold Credits.turn
  dsimp only
  split_ifs
  · exact ⟨Nat.le_trans (Nat.sub_le _ _) first, second⟩
  · exact ⟨first, Nat.le_trans (Nat.sub_le _ _) second⟩
  all_goals exact ⟨first, second⟩

/-- Nobody gets the turn only when nobody is ready. -/
theorem turn_none {ready : Side → Bool} (idle : (credits.turn weights ready).1 = none)
    (side : Side) : ready side = false := by
  unfold turn at idle
  dsimp only at idle
  split_ifs at idle with _ _ first second
  cases side with
  | first => exact Bool.eq_false_iff.mpr first
  | second => exact Bool.eq_false_iff.mpr second

/-- A side that is ready gets the turn, or the other side does and has one turn less before it. -/
theorem turn_ahead (positive : weights.Positive) (credits : Credits) {ready : Side → Bool} {side : Side}
    (waits : ready side = true) :
    (credits.turn weights ready).1 = some side ∨
      (credits.turn weights ready).1 = some side.other ∧
        (credits.turn weights ready).2.ahead weights side < credits.ahead weights side := by
  have shorter := reload_ahead positive credits side
  have left := reload_left positive credits
  unfold turn
  dsimp only
  generalize credits.reload weights = now at shorter left
  split_ifs with first second spare last
  · cases side with
    | first => exact .inl rfl
    | second =>
      refine .inr ⟨rfl, Nat.lt_of_lt_of_le ?_ shorter⟩
      simp only [ahead]
      split_ifs
      all_goals omega
  · cases side with
    | first =>
      have spent : now.first = 0 := by
        by_contra credit
        exact first ⟨credit, waits⟩
      refine .inr ⟨rfl, Nat.lt_of_lt_of_le ?_ shorter⟩
      simp only [ahead, spent, if_true]
      omega
    | second => exact .inl rfl
  · cases side with
    | first => exact .inl rfl
    | second =>
      exfalso
      obtain credit | credit := left
      · exact first ⟨credit, spare⟩
      · exact second ⟨credit, waits⟩
  · cases side with
    | first => exact absurd waits spare
    | second => exact .inl rfl
  · cases side with
    | first => exact absurd waits spare
    | second => exact absurd waits last

end Credits

end BbtInfra.Lib
