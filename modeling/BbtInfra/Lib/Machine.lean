import Mathlib.Data.List.Basic

/-!
# Labelled machines and their guarded runs

A machine takes a step for a label or refuses it. Concurrency is expressed by the labels:
one label is one critical section or one atomic operation of one thread, together with
every choice the environment makes in it, so a run is one interleaving. A run is guarded
when each of its steps meets a condition on the state before it; an unguarded run meets the
trivial condition. The invariant rule is stated once, for guarded runs.
-/
namespace BbtInfra.Lib

open Option

/-- A guarded step that was taken met its guard. -/
theorem guarded_some {α : Type*} {guard : Prop} [Decidable guard] {result next : α}
    (stepped : (if guard then some result else none) = some next) : guard ∧ result = next := by
  simpa only [ite_none_right_eq_some, Option.some.injEq] using stepped

/-- A step that was taken met no guard against it. -/
theorem guarded_none {α : Type*} {guard : Prop} [Decidable guard] {result next : α}
    (stepped : (if guard then none else some result) = some next) : ¬guard ∧ result = next := by
  simpa only [ite_none_left_eq_some, Option.some.injEq] using stepped

/-- A transition system whose step is a partial function of the state and the label. -/
structure Machine (σ ε : Type*) where
  /-- States in which a run may begin. -/
  start : σ → Prop
  /-- The state after one label, or none when the label is not enabled. -/
  step : σ → ε → Option σ

namespace Machine

variable {σ ε : Type*} {m : Machine σ ε} {guard : σ → ε → Prop}

/-- Runs from a start state, oldest label first, in which every step meets the guard. -/
inductive GuardedRun (m : Machine σ ε) (guard : σ → ε → Prop) : List ε → σ → Prop
  | start {state} : m.start state → GuardedRun m guard [] state
  | step {labels state label next} : GuardedRun m guard labels state → guard state label →
      m.step state label = some next → GuardedRun m guard (labels ++ [label]) next

/-- A run with no condition on its steps. -/
abbrev Run (m : Machine σ ε) : List ε → σ → Prop := m.GuardedRun fun _ _ => True

/-- A state at the end of some run. -/
def Reachable (m : Machine σ ε) (state : σ) : Prop := ∃ labels, m.Run labels state

variable {state next : σ} {labels : List ε}

/-- A property that start states have and guarded steps keep holds at the end of every
guarded run. -/
theorem GuardedRun.invariant (property : σ → Prop)
    (initial : ∀ state, m.start state → property state)
    (preserved : ∀ state label next, property state → guard state label →
      m.step state label = some next → property next)
    (run : m.GuardedRun guard labels state) : property state := by
  induction run with
  | start begun => exact initial _ begun
  | step _ met stepped ih => exact preserved _ _ _ ih met stepped

/-- Forgetting the guard of a run. -/
theorem GuardedRun.run (run : m.GuardedRun guard labels state) : m.Run labels state := by
  induction run with
  | start begun => exact .start begun
  | step _ _ stepped ih => exact .step ih trivial stepped

/-- A run under a condition is one under every weaker condition. -/
theorem GuardedRun.mono {weaker : σ → ε → Prop} (implies : ∀ s e, guard s e → weaker s e)
    (run : m.GuardedRun guard labels state) :
    m.GuardedRun weaker labels state := by
  induction run with
  | start begun => exact .start begun
  | step _ met stepped ih => exact .step ih (implies _ _ met) stepped

/-- The end of a guarded run is reachable. -/
theorem GuardedRun.reachable
    (run : m.GuardedRun guard labels state) : m.Reachable state := ⟨labels, run.run⟩

/-- A run under a condition is one under every condition that is weaker on reachable states. -/
theorem GuardedRun.mono_reachable {weaker : σ → ε → Prop}
    (implies : ∀ s e, m.Reachable s → guard s e → weaker s e)
    (run : m.GuardedRun guard labels state) : m.GuardedRun weaker labels state := by
  induction run with
  | start begun => exact .start begun
  | step before met stepped ih => exact .step ih (implies _ _ before.reachable met) stepped

section

variable (property : σ → Prop) (initial : ∀ state, m.start state → property state)

include initial

/-- The invariant rule with what is known of every reachable state at hand. -/
theorem GuardedRun.reachableInvariant
    (preserved : ∀ state label next, m.Reachable state → property state → guard state label →
      m.step state label = some next → property next)
    (run : m.GuardedRun guard labels state) : property state := by
  induction run with
  | start begun => exact initial _ begun
  | step before met stepped ih => exact preserved _ _ _ before.reachable ih met stepped

/-- The unguarded invariant rule, for reachable states. -/
theorem Reachable.invariant
    (preserved : ∀ state label next, property state → m.step state label = some next →
      property next)
    (reachable : m.Reachable state) : property state := by
  obtain ⟨labels, run⟩ := reachable
  exact run.invariant property initial fun _ _ _ kept _ stepped => preserved _ _ _ kept stepped

end

/-- The state after a list of labels, when each of them is enabled. -/
def exec (m : Machine σ ε) (state : σ) : List ε → Option σ
  | [] => some state
  | label :: labels => (m.step state label).bind fun next => m.exec next labels

/-- Executing more labels extends a run. -/
theorem GuardedRun.append_exec {before : List ε} (run : m.Run before state)
    (executed : m.exec state labels = some next) : m.Run (before ++ labels) next := by
  induction labels generalizing before state with
  | nil =>
    simp only [Machine.exec, Option.some.injEq] at executed
    simpa [← executed] using run
  | cons label labels ih =>
    obtain ⟨middle, stepped, rest⟩ := bind_eq_some_iff.mp executed
    simpa using ih (run.step trivial stepped) rest

/-- Executions follow one another. -/
theorem exec_append {first second : List ε} {middle : σ}
    (before : m.exec state first = some middle) (behind : m.exec middle second = some next) :
    m.exec state (first ++ second) = some next := by
  induction first generalizing state with
  | nil =>
    simp only [Machine.exec, Option.some.injEq] at before
    simpa [before] using behind
  | cons label rest ih =>
    obtain ⟨reached, stepped, later⟩ := bind_eq_some_iff.mp before
    simp only [List.cons_append, Machine.exec, stepped, bind_some]
    exact ih later

/-- What reachable states keep step by step, they keep along every execution. -/
theorem Reachable.exec (reachable : m.Reachable state)
    (property : σ → Prop) (begun : property state)
    (preserved : ∀ state label next, m.Reachable state → property state →
      m.step state label = some next → property next)
    (executed : m.exec state labels = some next) : property next := by
  induction labels generalizing state with
  | nil =>
    simp only [Machine.exec, Option.some.injEq] at executed
    exact executed ▸ begun
  | cons label labels ih =>
    obtain ⟨middle, stepped, rest⟩ := bind_eq_some_iff.mp executed
    obtain ⟨before, run⟩ := reachable
    exact ih ⟨_, run.step trivial stepped⟩ (preserved _ _ _ ⟨before, run⟩ begun stepped) rest

/-- A state that a start state executes to is reachable. -/
theorem reachable_of_exec (begun : m.start state)
    (executed : m.exec state labels = some next) : m.Reachable next :=
  ⟨labels, by simpa using (GuardedRun.start begun : m.Run [] state).append_exec executed⟩

/-- Executing labels up to a state that passes a test reaches such a state. -/
theorem exists_reachable (labels : List ε) (test : σ → Bool) (begun : m.start state)
    (executed : (m.exec state labels).any test = true) :
    ∃ next, m.Reachable next ∧ test next = true := by
  cases ended : m.exec state labels with
  | none => simp [ended] at executed
  | some next =>
    rw [ended] at executed
    exact ⟨next, reachable_of_exec begun ended, executed⟩

/-- Executing labels as long as each step meets a decidable condition. -/
def execGuarded (m : Machine σ ε) (test : σ → ε → Bool) (state : σ) : List ε → Option σ
  | [] => some state
  | label :: labels =>
    if test state label then
      (m.step state label).bind fun next => m.execGuarded test next labels
    else none

/-- Such an execution extends a guarded run. -/
theorem GuardedRun.append_execGuarded {test : σ → ε → Bool} {before : List ε}
    (run : m.GuardedRun (fun s e => test s e = true) before state)
    (executed : m.execGuarded test state labels = some next) :
    m.GuardedRun (fun s e => test s e = true) (before ++ labels) next := by
  induction labels generalizing before state with
  | nil =>
    simp only [Machine.execGuarded, Option.some.injEq] at executed
    simpa [← executed] using run
  | cons label labels ih =>
    simp only [Machine.execGuarded, ite_none_right_eq_some,
      bind_eq_some_iff] at executed
    obtain ⟨met, middle, stepped, rest⟩ := executed
    simpa using ih (run.step met stepped) rest

/-- Executing labels under a condition, up to a state that passes a test. -/
theorem exists_guardedRun (labels : List ε) (guard : σ → ε → Bool) (test : σ → Bool)
    (begun : m.start state) (executed : (m.execGuarded guard state labels).any test = true) :
    ∃ next, m.GuardedRun (fun s e => guard s e = true) labels next ∧ test next = true := by
  cases ended : m.execGuarded guard state labels with
  | none => simp [ended] at executed
  | some next =>
    rw [ended] at executed
    have run : m.GuardedRun (fun s e => guard s e = true) ([] ++ labels) next :=
      GuardedRun.append_execGuarded (.start begun) ended
    exact ⟨next, run, executed⟩

end Machine

end BbtInfra.Lib
