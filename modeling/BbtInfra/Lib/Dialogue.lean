import Mathlib.Tactic.SplitIfs

/-!
# Programs that ask their environment

A program asks, is told an answer, and goes on. Its meaning is what it does with a list of
answers: it finishes and leaves some unused, it waits for the answer to its next question, or
it is told something it did not ask. A finished call is described by the answers it used, its
log. `Ensures` are the rules for what every log of a result looks like, `Runs` the rules for
showing that a log gives a result.
-/
namespace BbtInfra.Lib

/-- How far a program gets with the answers it is given. -/
inductive Progress (Ask Event Err α : Type*)
  | done (value : α) (unused : List Event)
  | failed (error : Err) (unused : List Event)
  | waits (ask : Ask)
  | strays
  deriving DecidableEq

/-- A program, by what it does with every list of answers. -/
def Dialogue (Ask Event Err α : Type*) := List Event → Progress Ask Event Err α

namespace Dialogue

universe u

variable {Ask Event Err : Type*} {α β : Type u}

/-- Finish without asking. -/
protected def pure (value : α) : Dialogue Ask Event Err α := fun events => .done value events

/-- Finish with an error. -/
def fail (error : Err) : Dialogue Ask Event Err α := fun events => .failed error events

/-- The second program goes on with what the first leaves. -/
protected def bind (first : Dialogue Ask Event Err α) (second : α → Dialogue Ask Event Err β) :
    Dialogue Ask Event Err β := fun events =>
  match first events with
  | .done value unused => second value unused
  | .failed error unused => .failed error unused
  | .waits ask => .waits ask
  | .strays => .strays

instance : Monad (Dialogue Ask Event Err) where
  pure := Dialogue.pure
  bind := Dialogue.bind

/-- Ask one question; `read` takes the answer out of an event that is one. -/
def perform (ask : Ask) (read : Event → Option α) : Dialogue Ask Event Err α
  | [] => .waits ask
  | event :: events =>
    match read event with
    | some value => .done value events
    | none => .strays

/-- A computation that asks nothing. -/
def lift : Except Err α → Dialogue Ask Event Err α
  | .ok value => Dialogue.pure value
  | .error error => fail error

/-- Every log of a result meets the condition. -/
def Ensures (program : Dialogue Ask Event Err α) (post : List Event → α → Prop) : Prop :=
  ∀ events value unused, program events = .done value unused →
    ∃ used, events = used ++ unused ∧ post used value

/-- The log gives the result, whatever follows. -/
def Runs (program : Dialogue Ask Event Err α) (used : List Event) (value : α) : Prop :=
  ∀ later, program (used ++ later) = .done value later

variable {value : α} {post : List Event → α → Prop} {used : List Event}
  {program first left right : Dialogue Ask Event Err α} {second : α → Dialogue Ask Event Err β}
  {computed : Except Err α} {condition : Prop}

/-- A whole call that returned is described by its log. -/
theorem Ensures.of_done (ensures : program.Ensures post) {log : List Event}
    (returned : program log = .done value []) : post log value := by
  obtain ⟨used, split, holds⟩ := ensures log value [] returned
  rw [List.append_nil] at split
  rwa [split]

/-- A log that runs is a whole call. -/
theorem Runs.done (runs : program.Runs used value) : program used = .done value [] := by
  simpa using runs []

/-- A result that asks nothing. -/
theorem ensures_pure (holds : post [] value) :
    (pure value : Dialogue Ask Event Err α).Ensures post := by
  rintro events other unused returned
  cases returned
  exact ⟨[], rfl, holds⟩

/-- A failure has no result. -/
theorem ensures_fail {error : Err} : (fail error : Dialogue Ask Event Err α).Ensures post := by
  rintro events value unused returned
  cases returned

/-- The logs of a sequence are logs of its parts, one behind the other. -/
theorem Ensures.bind
    {middle : List Event → α → Prop} {post : List Event → β → Prop} (left : first.Ensures middle)
    (right : ∀ used value, middle used value →
      (second value).Ensures fun later result => post (used ++ later) result) :
    (first >>= second).Ensures post := by
  intro events result unused returned
  change Dialogue.bind first second events = _ at returned
  unfold Dialogue.bind at returned
  cases begun : first events with
  | done value between =>
    rw [begun] at returned
    obtain ⟨used, split, holds⟩ := left events value between begun
    obtain ⟨later, rest, ends⟩ := right used value holds between result unused returned
    exact ⟨used ++ later, by rw [split, rest, List.append_assoc], ends⟩
  | failed | waits | strays => simp [begun] at returned

/-- A condition may be weakened. -/
theorem Ensures.mono {weaker : List Event → α → Prop}
    (ensures : program.Ensures post) (implies : ∀ used value, post used value → weaker used value) :
    program.Ensures weaker := by
  intro events value unused returned
  obtain ⟨used, split, holds⟩ := ensures events value unused returned
  exact ⟨used, split, implies used value holds⟩

/-- One ask, and one answer in the log. -/
theorem ensures_perform {ask : Ask} {read : Event → Option α}
    (holds : ∀ event value, read event = some value → post [event] value) :
    (perform ask read : Dialogue Ask Event Err α).Ensures post := by
  intro events value unused returned
  cases events with
  | nil => simp [perform] at returned
  | cons event events =>
    simp only [perform] at returned
    cases answer : read event with
    | none => simp [answer] at returned
    | some told =>
      simp only [answer, Progress.done.injEq] at returned
      obtain ⟨rfl, rfl⟩ := returned
      exact ⟨[event], rfl, holds event told answer⟩

/-- A computation that asks nothing. -/
theorem ensures_lift (holds : ∀ value, computed = .ok value → post [] value) :
    (lift computed : Dialogue Ask Event Err α).Ensures post := by
  cases computed with
  | ok value => exact ensures_pure (holds value rfl)
  | error error => exact ensures_fail

/-- A computation has its own result and an empty log. -/
theorem ensures_computed : (lift computed : Dialogue Ask Event Err α).Ensures fun used value =>
      used = [] ∧ computed = .ok value :=
  ensures_lift fun _ made => ⟨rfl, made⟩

/-- A choice, each branch under its condition. -/
theorem ensures_ite [Decidable condition]
    (yes : condition → left.Ensures post) (no : ¬condition → right.Ensures post) :
    (if condition then left else right : Dialogue Ask Event Err α).Ensures post := by
  split_ifs with holds
  · exact yes holds
  · exact no holds

/-- A result that asks nothing needs no log. -/
theorem runs_pure (value : α) : (pure value : Dialogue Ask Event Err α).Runs [] value :=
  fun _ => rfl

/-- The log of a sequence is the logs of its parts, one behind the other. -/
theorem Runs.bind {later : List Event} {result : β} (left : first.Runs used value)
    (right : (second value).Runs later result) :
    (first >>= second).Runs (used ++ later) result := by
  intro rest
  change Dialogue.bind first second _ = _
  rw [Dialogue.bind, List.append_assoc, left (later ++ rest)]
  exact right rest

/-- A part that asks nothing adds nothing to the log. -/
theorem Runs.pass {later : List Event} {result : β} (left : first.Runs [] value)
    (right : (second value).Runs later result) : (first >>= second).Runs later result :=
  left.bind right

/-- The log of the branch that is taken. -/
theorem runs_ite_pos [Decidable condition]
    (holds : condition) (runs : left.Runs used value) :
    (if condition then left else right : Dialogue Ask Event Err α).Runs used value := by
  rwa [if_pos holds]

/-- The log of the other branch. -/
theorem runs_ite_neg [Decidable condition]
    (fails : ¬condition) (runs : right.Runs used value) :
    (if condition then left else right : Dialogue Ask Event Err α).Runs used value := by
  rwa [if_neg fails]

/-- One ask needs one answer. -/
theorem runs_perform {ask : Ask} {read : Event → Option α} {event : Event}
    (answer : read event = some value) :
    (perform ask read : Dialogue Ask Event Err α).Runs [event] value := by
  intro later
  simp [perform, answer]

/-- A computation that succeeds needs no log. -/
theorem runs_lift (made : computed = .ok value) :
    (lift computed : Dialogue Ask Event Err α).Runs [] value := by
  subst made
  exact runs_pure value

end Dialogue

end BbtInfra.Lib
