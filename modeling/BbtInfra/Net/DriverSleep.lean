import BbtInfra.Net.DirtyList

/-!
# The sleep of a driver

A connection in the chain is on the way to the owner: its call is still before the latch, the latch
is set, or the owner is about to run the pump. Two steps break this, a tick that takes the latch over
a connection in the chain and a pump that runs out of its budget. The owner sleeps on such a
connection if it goes to its blocking wait from there.
-/
namespace BbtInfra.Net

open Lib

/-- The owner runs the pump before it waits again. -/
def DriverPc.ahead : DriverPc → Bool
  | .before | .pump .. | .popped .. | .pumping .. | .pumped .. => true
  | _ => false

namespace Reactor

/-- The call that has linked this connection has not completed its `Wake`. -/
def Waking (s : Reactor) (core : Nat) : Prop :=
  ∃ (j : Nat) (mark : Mark), s.inserter core = some j ∧ s.marks[j]? = some mark ∧
    (mark.pc = .wake ∨ mark.pc = .stop)

/-- The context is stopped, or the call that has set the latch is about to stop it. -/
def Ending (s : Reactor) : Prop :=
  s.stopped = true ∨ s.latch = true ∧
    ∃ (j : Nat) (mark : Mark), s.marks[j]? = some mark ∧ mark.pc = .stop

/-- When the owner waits with time left, the wait ends at once or every connection in the chain has
a call whose `Wake` is to come. -/
def Awake (s : Reactor) : Prop :=
  ∀ ran remaining, s.owner = .run true ran remaining → 0 < remaining →
    s.Ending ∨ ∀ core, s.links.linked core = true → s.Waking core

/-- The owner does not go to sleep with a connection in the chain, its call returned, that a tick
has left there when it took the latch or a pump when it ran out of its budget. -/
def Attentive (tickBudget : Nat) (s : Reactor) (label : ReactorLabel) : Prop :=
  ∀ ran choice, label = .own false choice → s.owner = .loop true ran → ran < tickBudget →
    0 < choice → s.latch = false → s.stopped = false →
      ∀ core, s.links.linked core = true → s.missed core = true → s.Waking core

/-- The call that has linked this connection is before the latch. -/
def Calling (s : Reactor) (core : Nat) : Prop :=
  ∃ (j : Nat) (mark : Mark), s.inserter core = some j ∧ s.marks[j]? = some mark ∧
    mark.pc = .wake

/-- A connection in the chain is on the way to the owner, or it was missed. -/
def Carried (s : Reactor) : Prop :=
  s.bound = true → ∀ core, s.links.linked core = true →
    s.Calling core ∨ s.latch = true ∨ s.missed core = true ∨ s.owner.ahead = true

variable {tickBudget : Nat} {s s' : Reactor} {label : ReactorLabel} {nodes : List Nat} {j : Nat}
  {mark : Mark}

/-- An unfinished call is still unfinished when another call goes on, or it goes on itself. -/
theorem Waking.turn {core : Nat} {pc : MarkPc} (waking : s.Waking core)
    (found : s.marks[j]? = some mark)
    (keeps : mark.pc = .wake ∨ mark.pc = .stop → pc = .wake ∨ pc = .stop) :
    (s.setMark j mark pc).Waking core := by
  obtain ⟨k, other, inserter, stored, place⟩ := waking
  by_cases here : j = k
  · subst here
    rw [found] at stored
    cases stored
    exact ⟨j, _, inserter, List.getElem?_set_found found, keeps place⟩
  · exact ⟨k, other, inserter, (List.getElem?_set_ne here).trans stored, place⟩

/-- A call before the latch is still there when another call goes on. -/
theorem Calling.turn {core : Nat} {pc : MarkPc} (calling : s.Calling core)
    (found : s.marks[j]? = some mark) (before : mark.pc ≠ .wake) :
    (s.setMark j mark pc).Calling core := by
  obtain ⟨k, other, inserter, stored, place⟩ := calling
  have apart : j ≠ k := by
    rintro rfl
    rw [found] at stored
    cases stored
    exact before place
  exact ⟨k, other, inserter, (List.getElem?_set_ne apart).trans stored, place⟩

/-- A wait that ends does so when a call goes on that was not about to stop the context. -/
theorem Ending.turn {pc : MarkPc} (ending : s.Ending) (found : s.marks[j]? = some mark)
    (before : mark.pc ≠ .stop) : (s.setMark j mark pc).Ending := by
  apply ending.imp_right
  rintro ⟨latch, k, other, stored, place⟩
  refine ⟨latch, k, other, ?_, place⟩
  have apart : j ≠ k := by
    rintro rfl
    rw [found] at stored
    cases stored
    exact before place
  exact (List.getElem?_set_ne apart).trans stored

/-- A step that takes nothing away from the ways to the owner. -/
theorem Carried.same (carried : s.Carried) (bound : s'.bound = true → s.bound = true)
    (fewer : ∀ core, s'.links.linked core = true → s.links.linked core = true)
    (calling : ∀ core, s.Calling core → s'.Calling core)
    (latch : s.latch = true → s'.latch = true)
    (missed : ∀ core, s.missed core = true → s'.missed core = true)
    (owner : s.owner.ahead = true → s'.owner.ahead = true) : s'.Carried := by
  intro bound' core still
  rcases carried (bound bound') core (fewer core still) with calls | latched | left | ahead
  · exact .inl (calling core calls)
  · exact .inr (.inl (latch latched))
  · exact .inr (.inr (.inl (missed core left)))
  · exact .inr (.inr (.inr (owner ahead)))

/-- The owner that is about to pump stays so until the pump has returned. -/
theorem Moves.ahead {old new : DriverPc} (moves : Moves tickBudget s old new)
    (ahead : old.ahead = true) : new.ahead = true := by
  cases moves with
  | ticks | finds | misses | pumps | again | skips => rfl
  | _ => cases ahead

/-- The connections in the chain stay on the way to the owner, or they are missed. -/
theorem Steps.carried (steps : Steps tickBudget s label s') (ordered : s.Ordered)
    (linked : s.Linked nodes) (carried : s.Carried) : s'.Carried := by
  have unbound (off : s'.bound = false) : s'.Carried := by
    intro on
    rw [off] at on
    cases on
  cases steps with
  | called core =>
    refine carried.same id (fun _ => id) ?_ id (fun _ => id) id
    rintro other ⟨k, mark, inserter, stored, place⟩
    exact ⟨k, mark, inserter, List.getElem?_push_old stored, place⟩
  | checked j mark pc found checks =>
    have before : mark.pc ≠ .wake := by
      generalize mark.pc = old at checks
      cases checks <;> decide
    exact carried.same id (fun _ => id) (fun _ calling => calling.turn found before) id
      (fun _ => id) id
  | coalesced j mark found place | claimed j mark found place | refused j mark found place
  | stops j mark found place =>
    have before : mark.pc ≠ .wake := by
      rw [place]
      decide
    exact carried.same id (fun _ => id) (fun _ calling => Calling.turn (s := s) calling found before)
      id (fun _ => id) id
  | linked j mark found place unsealed present =>
    intro bound core still
    have kept := linked.link found place present
    by_cases same : core = mark.core
    · exact .inl ⟨j, _, same ▸ Function.update_self .., List.getElem?_set_found found, rfl⟩
    · have member := (kept.holds.linked core).mp still
      have old := (List.mem_append.mp member).resolve_right (same ∘ List.mem_singleton.mp)
      rcases carried bound core ((linked.holds.linked core).mpr old) with calls | rest
      · have still : (s.setMark j mark .wake).Calling core :=
          calls.turn found (by rw [place]; decide)
        obtain ⟨k, other, inserter, stored⟩ := still
        exact .inl ⟨k, other, (Function.update_of_ne same ..).trans inserter, stored⟩
      · exact .inr (rest.imp_right (.imp_left (Function.update_of_ne same ..).trans))
  | passed j mark found place why =>
    intro bound core _
    have running : s.control ≠ .released := by
      intro released
      have off := ordered.off (by rw [released]; decide)
      rw [show s.bound = true from bound] at off
      cases off
    exact .inr (.inl (why.resolve_left running))
  | latched => exact fun _ _ _ => .inr (.inl rfl)
  | moved yes choice pc bound moves =>
    exact carried.same id (fun _ => id) (fun _ => id) id (fun _ => id) moves.ahead
  | enters choice canBlock ran bound place | restarts yes choice canBlock bound place
  | sealed' yes choice canBlock ran bound place
  | erases yes choice canBlock ran core bound place =>
    refine carried.same id (fun _ => id) (fun _ => id) id (fun _ => id) ?_
    rw [place]
    exact fun wrong => by cases wrong
  | drained yes choice via pumped bound place empty =>
    intro _ core still
    have head := linked.holds.pop
    rw [empty] at head
    cases head ▸ (linked.holds.linked core).mp still
  | pops | reaps => exact fun _ _ _ => .inr (.inr (.inr rfl))
  | leaves yes choice via pumped bound place =>
    intro _ core still
    replace still : s.links.linked core = true := still
    cases latch : s.latch with
    | true => exact .inr (.inl latch)
    | false =>
      refine .inr (.inr (.inl ?_))
      unfold leavePump
      dsimp only
      rw [still, latch]
      exact Bool.or_true _
  | takes yes choice canBlock ran bound place latch =>
    intro _ core still
    cases canBlock with
    | true => exact .inr (.inr (.inr rfl))
    | false =>
      replace still : s.links.linked core = true := still
      refine .inr (.inr (.inl ?_))
      dsimp only
      rw [still]
      exact Bool.or_true _
  | registers | implSeals => exact carried.same id (fun _ => id) (fun _ => id) id (fun _ => id) id
  | removes canBlock ran core next bound place known removed =>
    have kept := linked.remove known removed
    obtain ⟨links, -, rfl⟩ := Option.map_eq_some_iff.mp removed
    refine carried.same id ?_ (fun _ => id) id (fun _ => id) id
    intro other still
    have member := (kept.holds.linked other).mp still
    exact (linked.holds.linked other).mpr (List.mem_of_mem_erase member)
  | clears canBlock ran next bound place cleared =>
    intro _ core still
    cases ((linked.clear cleared).unlinked core).symm.trans still
  | unbinds => exact unbound rfl
  | finalizes next off running cleared =>
    exact unbound ((clearDirty_places cleared).2.2.2.1.trans off)
  | controlSeals off | empties off | releases off => exact unbound off

/-- What the owner has while it waits. -/
structure Attended (s : Reactor) : Prop where
  ends : ∀ ran remaining, s.owner = .run true ran remaining → s.latch = true → s.Ending
  awake : s.Awake

/-- The owner has just gone to its wait, or it was there before. -/
theorem Steps.entered {ran remaining : Nat} (steps : Steps tickBudget s label s')
    (ordered : s.Ordered) (place : s'.owner = .run true ran remaining) :
    (label = .own false remaining ∧ s.owner = .loop true ran ∧ ran < tickBudget ∧
      s.latch = false ∧ s' = s.go (.run true ran remaining)) ∨
    (s.owner = .run true ran remaining ∧ (∃ core, label = .mark core) ∨
      s.owner = .run true ran remaining ∧ (∃ j, label = .act j) ∨
      s.owner = .run true ran remaining ∧ s' = { s with implSealed := true }) := by
  have finish' (canBlock : Bool) : finish canBlock ≠ .run true ran remaining := by
    cases canBlock <;> exact fun wrong => by cases wrong
  have next' (via : HookVia) : via.next ≠ .run true ran remaining := by
    cases via <;> exact fun wrong => by cases wrong
  have bound' (unbound : s.bound = false) : s.owner ≠ .run true ran remaining := by
    intro at'
    have rests := ordered.rests unbound
    unfold resting at rests
    rw [at'] at rests
    cases rests
  cases steps with
  | called core => exact .inr (.inl ⟨place, core, rfl⟩)
  | checked j | coalesced j | claimed j | refused j | linked j | passed j | latched j | stops j =>
    exact .inr (.inr (.inl ⟨place, j, rfl⟩))
  | moved yes choice pc bound moves =>
    replace place : pc = .run true ran remaining := place
    generalize s.owner = old at moves
    cases moves with
    | tired | spent | nothing | throws => exact absurd place (finish' _)
    | _ => cases place
  | enters choice canBlock ran' bound at' within latch =>
    cases place
    exact .inl ⟨rfl, at', within, latch, rfl⟩
  | drained yes choice via | leaves yes choice via => exact absurd place (next' via)
  | takes yes choice canBlock => exact absurd place (finish' canBlock)
  | pops | reaps | restarts | sealed' | erases | clears => cases place
  | registers canBlock ran' core bound at' =>
    cases at'.symm.trans place
  | removes canBlock ran' core next bound at' known removed =>
    rw [(removeConn_places removed).2.1, at'] at place
    cases place
  | implSeals => exact .inr (.inr (.inr ⟨place, rfl⟩))
  | unbinds at' =>
    rw [show s.owner = .run true ran remaining from place] at at'
    rcases at' with at' | at' | at' <;> cases at'
  | finalizes next unbound running cleared =>
    have owner := (clearDirty_places cleared).2.1
    exact absurd (owner.symm.trans place) (bound' unbound)
  | controlSeals unbound | empties unbound | releases unbound =>
    exact absurd place (bound' unbound)

/-- A call that goes on while the owner waits. -/
theorem Steps.attends (steps : Steps tickBudget s (.act j) s') (ordered : s.Ordered)
    (linked : s.Linked nodes) {ran remaining : Nat} (place : s.owner = .run true ran remaining)
    (attended : s.Attended) : s'.Attended := by
  have bound : s.bound = true := by
    by_contra off
    have rests := ordered.rests (by simpa using off)
    unfold resting at rests
    rw [place] at rests
    cases rests
  -- A call that is neither before the latch nor about to stop the context.
  have turns {mark : Mark} (pc : MarkPc) (found : s.marks[j]? = some mark)
      (before : mark.pc ≠ .wake) (before' : mark.pc ≠ .stop) : (s.setMark j mark pc).Attended := by
    constructor
    · intro ran remaining place latch
      exact (attended.ends ran remaining place latch).turn found before'
    · intro ran remaining place time
      apply (attended.awake ran remaining place time).imp (·.turn found before')
      intro waking core member
      exact (waking core member).turn found fun either => (either.elim before before').elim
  have ends (ending : s'.Ending) : s'.Attended :=
    ⟨fun _ _ _ _ => ending, fun _ _ _ _ => .inl ending⟩
  cases steps with
  | checked _ mark pc found checks =>
    apply turns pc found
    · generalize mark.pc = old at checks
      cases checks <;> decide
    · generalize mark.pc = old at checks
      cases checks <;> decide
  | coalesced _ mark found at' => exact turns _ found (by rw [at']; decide) (by rw [at']; decide)
  | claimed _ mark found at' =>
    have same := turns .link found (by rw [at']; decide) (by rw [at']; decide)
    exact ⟨same.ends, same.awake⟩
  | refused _ mark found at' =>
    have same := turns (.returned .refused) found (by rw [at']; decide) (by rw [at']; decide)
    exact ⟨same.ends, same.awake⟩
  | linked _ mark found at' unsealed present =>
    have same := turns .wake found (by rw [at']; decide) (by rw [at']; decide)
    refine ⟨same.ends, ?_⟩
    intro ran remaining place time
    apply (same.awake ran remaining place time).imp_right
    intro waking core member
    by_cases new : core = mark.core
    · exact ⟨j, _, new ▸ Function.update_self .., List.getElem?_set_found found, .inl rfl⟩
    · have kept := linked.link found at' present
      have still := (kept.holds.linked core).mp member
      have old := (List.mem_append.mp still).resolve_right (new ∘ List.mem_singleton.mp)
      obtain ⟨k, other, inserter, stored⟩ := waking core ((linked.holds.linked core).mpr old)
      exact ⟨k, other, (Function.update_of_ne new ..).trans inserter, stored⟩
  | passed _ mark found at' why =>
    have running : s.control ≠ .released := by
      intro released
      have off := ordered.off (by rw [released]; decide)
      rw [bound] at off
      cases off
    have latch := why.resolve_left running
    apply ends
    exact (attended.ends ran remaining place latch).turn found (by rw [at']; decide)
  | latched _ mark found at' =>
    exact ends (.inr ⟨rfl, j, _, List.getElem?_set_found found, rfl⟩)
  | stops => exact ends (.inl rfl)

/-- While it waits, the owner is attended. -/
theorem Steps.attended (steps : Steps tickBudget s label s') (ordered : s.Ordered)
    (linked : s.Linked nodes) (carried : s.Carried) (attentive : Attentive tickBudget s label)
    (attended : s.Attended) : s'.Attended := by
  by_cases waits : ∃ ran remaining, s'.owner = .run true ran remaining
  · obtain ⟨ran, remaining, place⟩ := waits
    rcases steps.entered ordered place with ⟨rfl, at', within, latch, rfl⟩ | ⟨_, core, rfl⟩ |
      ⟨at', j, rfl⟩ | ⟨_, rfl⟩
    · constructor
      · intro _ _ _ latched
        cases latch.symm.trans latched
      · intro ran' remaining' same time
        cases same
        cases stopped : s.stopped with
        | true => exact .inl (.inl stopped)
        | false =>
          right
          intro core member
          have missed := attentive ran remaining rfl at' within time latch stopped core member
          have bound : s.bound = true := by
            by_contra off
            have rests := ordered.rests (by simpa using off)
            unfold resting at rests
            rw [at'] at rests
            cases rests
          rcases carried bound core member with calls | latched | left | ahead
          · obtain ⟨j, mark, inserter, stored, early⟩ := calls
            exact ⟨j, mark, inserter, stored, .inl early⟩
          · cases latch.symm.trans latched
          · exact missed left
          · rw [at'] at ahead
            cases ahead
    · cases steps
      have old {k : Nat} {mark : Mark} (stored : s.marks[k]? = some mark) :
          (s.marks ++ [({ core } : Mark)])[k]? = some mark := List.getElem?_push_old stored
      have ends (ending : s.Ending) : Ending { s with marks := s.marks ++ [{ core }] } := by
        apply ending.imp_right
        rintro ⟨latch, k, mark, stored, early⟩
        exact ⟨latch, k, mark, old stored, early⟩
      refine ⟨fun _ _ place latch => ends (attended.ends _ _ place latch), ?_⟩
      intro _ _ place time
      apply (attended.awake _ _ place time).imp ends
      intro waking other member
      obtain ⟨k, mark, inserter, stored, early⟩ := waking other member
      exact ⟨k, mark, inserter, old stored, early⟩
    · exact steps.attends ordered linked at' attended
    · exact ⟨attended.ends, attended.awake⟩
  · constructor
    · exact fun ran remaining place => absurd ⟨ran, remaining, place⟩ waits
    · exact fun ran remaining place => absurd ⟨ran, remaining, place⟩ waits

/-- In a run in which the owner does not go to sleep on a connection that was missed, it never
sleeps on a connection in the chain; where it does, the connections in the chain wait for it. -/
theorem driver_sleep {labels : List ReactorLabel}
    (run : (reactorMachine tickBudget).GuardedRun (Attentive tickBudget) labels s) :
    s.Awake ∧ ∀ label next, s.step tickBudget label = some next →
      (next.Awake ↔ Attentive tickBudget s label) := by
  have kept : s.Carried ∧ s.Attended := by
    apply run.reachableInvariant fun s => s.Carried ∧ s.Attended
    · rintro _ rfl
      refine ⟨?_, ?_, ?_⟩
      · exact fun _ _ wrong => by cases wrong
      · exact fun _ _ place => by cases place
      · exact fun _ _ place => by cases place
    · rintro s label next reachable ⟨carried, attended⟩ attentive stepped
      obtain ⟨ordered, nodes, linked⟩ := reachable_linked reachable
      have steps := step_steps stepped
      exact ⟨steps.carried ordered linked carried,
        steps.attended ordered linked carried attentive attended⟩
  obtain ⟨ordered, nodes, linked⟩ := reachable_linked run.reachable
  refine ⟨kept.2.awake, ?_⟩
  intro label next stepped
  constructor
  · rintro awake ran choice rfl place within time latch stopped core member _
    have entered : next = s.go (.run true ran choice) := by
      simp only [step, actOwner, place, runBounded, within, latch] at stepped
      split at stepped
      · exact (Option.some.inj stepped).symm
      · cases stepped
    subst entered
    rcases awake ran choice rfl time with (stops | ⟨latched, _⟩) | waking
    · cases stopped.symm.trans stops
    · cases latch.symm.trans latched
    · exact waking core member
  · intro attentive
    exact ((step_steps stepped).attended ordered linked kept.1 attentive kept.2).awake

/-- A test for the condition, which asks for more than it does. -/
def attentiveTest (s : Reactor) (label : ReactorLabel) : Bool :=
  match label with
  | .own false _ => s.latch || s.links.head.isNone
  | _ => true

/-- A step that passes the test meets the condition. -/
theorem attentive_of_test (reachable : (reactorMachine tickBudget).Reachable s)
    (passed : s.attentiveTest label = true) : Attentive tickBudget s label := by
  rintro ran choice rfl _ _ _ latch _ core member _
  obtain ⟨_, nodes, linked⟩ := reachable_linked reachable
  rcases Bool.or_eq_true_iff.mp passed with latched | empty
  · cases latch.symm.trans latched
  · have leads := linked.holds.leads
    rw [Option.isNone_iff_eq_none.mp empty] at leads
    have there := (linked.holds.linked core).mp member
    cases nodes with
    | nil => cases there
    | cons node rest => cases leads.1

/-- The labels from the first handler, in which a connection is registered, to the loop behind
it. -/
def behindHandler : List ReactorLabel :=
  intoHandler ++ [.register 7, .own true 0, .own true 0, .own false 0]

/-- A connection is linked while the owner waits, and its call is before the latch. -/
theorem driver_sleep_linked : ∃ s labels,
    (reactorMachine 32).GuardedRun (Attentive 32) labels s ∧
      s.owner = .run true 0 5 ∧ s.links.linked 7 = true ∧ s.Awake := by
  obtain ⟨s, run, waits⟩ := Machine.exists_guardedRun (m := reactorMachine 32)
    (behindHandler ++ [.own false 0, .own false 0, .own true 0, .own true 0, .own true 0,
      .own false 5, .mark 7, .act 0, .act 0, .act 0, .act 0]) attentiveTest
    (fun s : Reactor => decide (s.owner = .run true 0 5) && s.links.linked 7)
    (rfl : (reactorMachine 32).start {}) (by decide +kernel)
  have attentive : (reactorMachine 32).GuardedRun (Attentive 32) _ s :=
    run.mono_reachable fun _ _ => attentive_of_test
  obtain ⟨place, linked⟩ := Bool.and_eq_true_iff.mp waits
  exact ⟨s, _, attentive, of_decide_eq_true place, linked, (driver_sleep attentive).1⟩

/-- A connection is linked behind the hook of a tick and its call returns, the tick takes the
latch, and the owner goes to its wait. -/
theorem driver_sleep_fails : ∃ s, (reactorMachine 32).Reachable s ∧ ¬s.Awake := by
  have begun : (reactorMachine 32).start {} := rfl
  obtain ⟨s, reachable, asleep⟩ := Machine.exists_reachable
    (behindHandler ++ [.mark 7, .act 0, .act 0, .act 0, .act 0, .act 0, .act 0, .own true 0,
      .own true 0, .own true 0, .own true 0, .own false 5])
    (fun s : Reactor => decide (s.owner = .run true 0 5 ∧
      s.marks = [{ core := 7, pc := .returned .woken }]) &&
        (!s.latch && !s.stopped && s.links.linked 7)) begun (by decide +kernel)
  refine ⟨s, reachable, fun awake => ?_⟩
  obtain ⟨facts, flags⟩ := Bool.and_eq_true_iff.mp asleep
  obtain ⟨place, marks⟩ := of_decide_eq_true facts
  obtain ⟨clear, linked⟩ := Bool.and_eq_true_iff.mp flags
  obtain ⟨unset, runs⟩ := Bool.and_eq_true_iff.mp clear
  rcases awake 0 5 place (by decide) with (stops | ⟨latched, _⟩) | waking
  · rw [stops] at runs
    cases runs
  · rw [latched] at unset
    cases unset
  · obtain ⟨j, mark, _, found, early⟩ := waking 7 linked
    rw [marks] at found
    have same := List.mem_singleton.mp (List.mem_of_getElem? found)
    rw [same] at early
    rcases early with early | early <;> cases early

end Reactor

end BbtInfra.Net
