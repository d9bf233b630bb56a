import Mathlib.Data.List.Infix
import BbtInfra.Lib.Machine

/-!
# Two ends of a reliable byte stream

Two parties exchange bytes over two queues, one for each direction. An event of a party takes
the bytes it receives from the front of its queue, in whatever portion, and puts the bytes it
sends at the end of the other's. Which events a party goes through is its own affair: a run is
any interleaving, and all it guarantees is that neither direction loses, adds or reorders
bytes.
-/
namespace BbtInfra.Lib

/-- The two ends. -/
inductive End
  | left
  | right
  deriving DecidableEq, Repr

/-- The opposite end. -/
def End.other : End → End
  | .left => .right
  | .right => .left

/-- What each end has been through, oldest event first, and the bytes in flight to it. -/
structure Duplex (Event Byte : Type*) where
  log : End → List Event := fun _ => []
  queue : End → List Byte := fun _ => []

namespace Duplex

variable {Event Byte : Type*} [DecidableEq Byte] {received sent : Event → List Byte}
  {state next : Duplex Event Byte}

/-- One event at one end; the bytes it receives have to be there. -/
def step (received sent : Event → List Byte) (state : Duplex Event Byte) (label : End × Event) :
    Option (Duplex Event Byte) :=
  if received label.2 <+: state.queue label.1 then
    some {
      log := fun side =>
        if side = label.1 then state.log side ++ [label.2] else state.log side
      queue := fun side =>
        if side = label.1 then (state.queue side).drop (received label.2).length
        else state.queue side ++ sent label.2 }
  else none

/-- The machine of the two ends. -/
def machine (received sent : Event → List Byte) : Machine (Duplex Event Byte) (End × Event) where
  start state := state = {}
  step := step received sent

/-- Each end has received the first bytes that the other sent, and the rest is in flight. -/
def Carried (received sent : Event → List Byte) (state : Duplex Event Byte) : Prop :=
  ∀ side, (state.log side).flatMap received ++ state.queue side =
    (state.log side.other).flatMap sent

/-- An event keeps what is carried. -/
theorem step_carried {label : End × Event} (carried : Carried received sent state)
    (stepped : step received sent state label = some next) : Carried received sent next := by
  obtain ⟨actor, event⟩ := label
  obtain ⟨front, rfl⟩ := guarded_some stepped
  intro side
  by_cases own : side = actor
  · -- the actor takes from its queue
    subst own
    have apart : side.other ≠ side := by cases side <;> decide
    simp only [if_true, if_neg apart, List.flatMap_append, List.flatMap_singleton,
      List.append_assoc, List.prefix_iff_eq_append.mp front, carried side]
  · -- the other end is sent something
    have same : side.other = actor := by cases side <;> cases actor <;> simp_all [End.other]
    simp only [if_neg own, if_pos same, List.flatMap_append, List.flatMap_singleton,
      ← List.append_assoc, carried side]

/-- In every reachable state nothing is lost, added or reordered. -/
theorem carried_of_reachable (reachable : (machine received sent).Reachable state) :
    Carried received sent state := by
  refine reachable.invariant (Carried received sent) ?_
    fun _ _ _ carried stepped => step_carried carried stepped
  rintro _ rfl side
  rfl

/-- What an end has received is the start of what the other has sent. -/
theorem received_prefix (reachable : (machine received sent).Reachable state) (side : End) :
    (state.log side).flatMap received <+: (state.log side.other).flatMap sent :=
  ⟨_, carried_of_reachable reachable side⟩

/-- An end goes through events whose bytes are there. -/
theorem exec_events (actor : End) (events : List Event) {rest : List Byte}
    (there : state.queue actor = events.flatMap received ++ rest) :
    (machine received sent).exec state (events.map fun event => (actor, event)) =
      some {
        log := fun side => if side = actor then state.log side ++ events else state.log side
        queue := fun side =>
          if side = actor then rest else state.queue side ++ events.flatMap sent } := by
  induction events generalizing state with
  | nil =>
    obtain ⟨log, queue⟩ := state
    subst there
    simp only [List.map_nil, Machine.exec, List.append_nil, List.flatMap_nil, ite_self,
      Option.some.injEq, Duplex.mk.injEq, true_and]
    funext side
    split_ifs with own
    · rw [own]
    · rfl
  | cons event events ih =>
    rw [List.flatMap_cons, List.append_assoc] at there
    have front : received event <+: state.queue actor := there ▸ List.prefix_append _ _
    change (step received sent state (actor, event)).bind _ = _
    rw [step, if_pos front, Option.bind_some, ih (by simp [there])]
    congr 2
    · funext side
      by_cases own : side = actor <;> simp [own]
    · funext side
      by_cases own : side = actor <;> simp [own]

/-- A state from what each end has been through and what is in flight to it. -/
def between (left right : List Event) (toLeft toRight : List Byte) : Duplex Event Byte where
  log
    | .left => left
    | .right => right
  queue
    | .left => toLeft
    | .right => toRight

section Between

variable {left right : List Event} {toLeft toRight rest : List Byte}

/-- Nothing has happened yet. -/
theorem reachable_nothing :
    (machine received sent).Reachable (between [] [] [] [] : Duplex Event Byte) := by
  refine ⟨[], .start ?_⟩
  simp only [machine, between, Duplex.mk.injEq]
  exact ⟨funext fun side => by cases side <;> rfl, funext fun side => by cases side <;> rfl⟩

section

variable (reachable : (machine received sent).Reachable (between left right toLeft toRight))
  (events : List Event)

include reachable

/-- The left end goes on when the bytes it receives are there. -/
theorem reachable_left (there : toLeft = events.flatMap received ++ rest) :
    (machine received sent).Reachable
      (between (left ++ events) right rest (toRight ++ events.flatMap sent)) := by
  obtain ⟨labels, run⟩ := reachable
  refine ⟨_, run.append_exec ((exec_events .left events there).trans ?_)⟩
  simp only [between, Option.some.injEq, Duplex.mk.injEq]
  exact ⟨funext fun side => by cases side <;> rfl, funext fun side => by cases side <;> rfl⟩

/-- The right end goes on when the bytes it receives are there. -/
theorem reachable_right (there : toRight = events.flatMap received ++ rest) :
    (machine received sent).Reachable
      (between left (right ++ events) (toLeft ++ events.flatMap sent) rest) := by
  obtain ⟨labels, run⟩ := reachable
  refine ⟨_, run.append_exec ((exec_events .right events there).trans ?_)⟩
  simp only [between, Option.some.injEq, Duplex.mk.injEq]
  exact ⟨funext fun side => by cases side <;> rfl, funext fun side => by cases side <;> rfl⟩

end

end Between

end Duplex

end BbtInfra.Lib
