import BbtInfra.Net.Reactor

/-!
# The steps of a reactor, said once

Most steps of the owner change its place only. The inversion of the step function says what every
other step does to the chain, the registry, the latch and the calls of `MarkDirty`.
-/
namespace BbtInfra.Net

open Lib

namespace Reactor

/-- The loads of `MarkDirty` in front of its claim. -/
inductive Checks (s : Reactor) : MarkPc → MarkPc → Prop
  | sealed' : s.sealed' = true → Checks s .check (.returned .refused)
  | unsealed : s.sealed' = false → Checks s .check .checkImpl
  | implSealed : s.implSealed = true → Checks s .checkImpl (.returned .refused)
  | implUnsealed : s.implSealed = false → Checks s .checkImpl .claim

/-- The steps of the owner that change its place only. -/
inductive Moves (tickBudget : Nat) (s : Reactor) : DriverPc → DriverPc → Prop
  | ticks : Moves tickBudget s .before (.pump .tick 0)
  | finds (via : HookVia) (pumped core : Nat) : core ∈ s.conns →
    Moves tickBudget s (.popped via pumped core) (.pumping via pumped core)
  | misses (via : HookVia) (pumped core : Nat) : core ∉ s.conns →
    Moves tickBudget s (.popped via pumped core) (.pump via pumped)
  | pumps (via : HookVia) (pumped core : Nat) :
    Moves tickBudget s (.pumping via pumped core) (.pumped via (pumped + 1))
  | again (via : HookVia) (pumped : Nat) : Moves tickBudget s (.pumped via pumped) (.pump via pumped)
  | tired (canBlock : Bool) (ran : Nat) : Moves tickBudget s (.hooked canBlock ran) (finish canBlock)
  | onward (canBlock : Bool) (ran : Nat) :
    Moves tickBudget s (.hooked canBlock ran) (.loop canBlock ran)
  | spent (canBlock : Bool) (ran : Nat) : Moves tickBudget s (.loop canBlock ran) (finish canBlock)
  | handles (canBlock : Bool) (ran remaining : Nat) : s.stopped = false →
    Moves tickBudget s (.run canBlock ran remaining) (.handling canBlock ran)
  | nothing (canBlock : Bool) (ran remaining : Nat) :
    Moves tickBudget s (.run canBlock ran remaining) (finish canBlock)
  | returns (canBlock : Bool) (ran : Nat) :
    Moves tickBudget s (.handling canBlock ran) (.pump (.bounded canBlock (ran + 1)) 0)
  | throws (canBlock : Bool) (ran : Nat) :
    Moves tickBudget s (.handling canBlock ran) (finish canBlock)
  | seals (canBlock : Bool) (ran : Nat) :
    Moves tickBudget s (.sealing canBlock ran .closing) (.handling canBlock ran)
  | shuts (canBlock : Bool) (ran core : Nat) : core ∈ s.conns →
    Moves tickBudget s (.sealing canBlock ran .closing) (.sealing canBlock ran (.shut core))
  | counts : Moves tickBudget s .after .idle
  | waits : Moves tickBudget s .idle (.restart true)
  | skips : Moves tickBudget s .idle .before

/-- The steps of a reactor, with what each of them does to it. -/
inductive Steps (tickBudget : Nat) (s : Reactor) : ReactorLabel → Reactor → Prop
  | called (core : Nat) :
    Steps tickBudget s (.mark core) { s with marks := s.marks ++ [{ core }] }
  | checked (j : Nat) (mark : Mark) (pc : MarkPc) : s.marks[j]? = some mark →
    Checks s mark.pc pc → Steps tickBudget s (.act j) (s.setMark j mark pc)
  | coalesced (j : Nat) (mark : Mark) : s.marks[j]? = some mark → mark.pc = .claim →
    s.queued mark.core = true →
    Steps tickBudget s (.act j) (s.setMark j mark (.returned .coalesced))
  | claimed (j : Nat) (mark : Mark) : s.marks[j]? = some mark → mark.pc = .claim →
    s.queued mark.core = false →
    Steps tickBudget s (.act j) ((s.setQueued mark.core true).setMark j mark .link)
  | refused (j : Nat) (mark : Mark) : s.marks[j]? = some mark → mark.pc = .link →
    (s.sealed' = true ∨ mark.core ∉ s.conns) →
    Steps tickBudget s (.act j)
      ((s.setQueued mark.core false).setMark j mark (.returned .refused))
  | linked (j : Nat) (mark : Mark) : s.marks[j]? = some mark → mark.pc = .link →
    s.sealed' = false → mark.core ∈ s.conns →
    Steps tickBudget s (.act j)
      { s.setMark j mark .wake with
        links := s.links.push mark.core
        inserter := Function.update s.inserter mark.core (some j)
        missed := Function.update s.missed mark.core false }
  | passed (j : Nat) (mark : Mark) : s.marks[j]? = some mark → mark.pc = .wake →
    (s.control = .released ∨ s.latch = true) →
    Steps tickBudget s (.act j) (s.setMark j mark (.returned .woken))
  | latched (j : Nat) (mark : Mark) : s.marks[j]? = some mark → mark.pc = .wake →
    Steps tickBudget s (.act j) { s.setMark j mark .stop with latch := true }
  | stops (j : Nat) (mark : Mark) : s.marks[j]? = some mark → mark.pc = .stop →
    Steps tickBudget s (.act j) { s.setMark j mark (.returned .woken) with stopped := true }
  | moved (yes : Bool) (choice : Nat) (pc : DriverPc) : s.bound = true →
    Moves tickBudget s s.owner pc → Steps tickBudget s (.own yes choice) (s.go pc)
  | enters (choice : Nat) (canBlock : Bool) (ran : Nat) : s.bound = true →
    s.owner = .loop canBlock ran → ran < tickBudget → s.latch = false →
    Steps tickBudget s (.own false choice) (s.go (.run canBlock ran choice))
  | drained (yes : Bool) (choice : Nat) (via : HookVia) (pumped : Nat) : s.bound = true →
    s.owner = .pump via pumped → s.links.pop = none →
    Steps tickBudget s (.own yes choice) (s.go via.next)
  | pops (yes : Bool) (choice : Nat) (via : HookVia) (pumped core : Nat) (links : Links Nat) :
    s.bound = true → s.owner = .pump via pumped → s.links.pop = some (core, links) →
    Steps tickBudget s (.own yes choice)
      { (s.setQueued core false).go (.popped via pumped core) with links }
  | leaves (yes : Bool) (choice : Nat) (via : HookVia) (pumped : Nat) : s.bound = true →
    (s.owner = .pump via pumped ∨ s.owner = .pumped via pumped) →
    Steps tickBudget s (.own yes choice) (s.leavePump via)
  | reaps (yes : Bool) (choice : Nat) (via : HookVia) (pumped core : Nat) (next : Reactor) :
    s.bound = true → s.owner = .pumping via pumped core → s.removeConn core = some next →
    Steps tickBudget s (.own yes choice) (next.go (.pumped via (pumped + 1)))
  | restarts (yes : Bool) (choice : Nat) (canBlock : Bool) : s.bound = true →
    s.owner = .restart canBlock →
    Steps tickBudget s (.own yes choice) { s.go (.loop canBlock 0) with stopped := false }
  | takes (yes : Bool) (choice : Nat) (canBlock : Bool) (ran : Nat) : s.bound = true →
    s.owner = .loop canBlock ran → s.latch = true →
    Steps tickBudget s (.own yes choice)
      { s.go (finish canBlock) with
        latch := false
        missed := fun core => s.missed core || (!canBlock && s.links.linked core) }
  | sealed' (yes : Bool) (choice : Nat) (canBlock : Bool) (ran : Nat) : s.bound = true →
    s.owner = .sealing canBlock ran .cleared →
    Steps tickBudget s (.own yes choice)
      { s.go (.sealing canBlock ran .closing) with sealed' := true }
  | erases (yes : Bool) (choice : Nat) (canBlock : Bool) (ran core : Nat) : s.bound = true →
    s.owner = .sealing canBlock ran (.shut core) →
    Steps tickBudget s (.own yes choice)
      { s.go (.sealing canBlock ran .closing) with
        conns := s.conns.erase core, gone := core :: s.gone }
  | registers (canBlock : Bool) (ran core : Nat) : s.bound = true →
    s.owner = .handling canBlock ran → core ∉ s.conns → core ∉ s.gone →
    Steps tickBudget s (.register core) { s with conns := s.conns ++ [core] }
  | removes (canBlock : Bool) (ran core : Nat) (next : Reactor) : s.bound = true →
    s.owner = .handling canBlock ran → (core ∈ s.conns ∨ core ∈ s.gone) →
    s.removeConn core = some next → Steps tickBudget s (.remove core) next
  | clears (canBlock : Bool) (ran : Nat) (next : Reactor) : s.bound = true →
    s.owner = .handling canBlock ran → s.clearDirty = some next →
    Steps tickBudget s .sealService (next.go (.sealing canBlock ran .cleared))
  | implSeals : Steps tickBudget s .sealImpl { s with implSealed := true }
  | unbinds : (s.owner = .before ∨ s.owner = .after ∨ s.owner = .idle) →
    Steps tickBudget s .unbind { s with bound := false }
  | finalizes (next : Reactor) : s.bound = false → s.control = .running →
    s.clearDirty = some next → Steps tickBudget s .control { next with control := .cleared }
  | controlSeals : s.bound = false → s.control = .cleared →
    Steps tickBudget s .control { s with sealed' := true, control := .sealed' }
  | empties : s.bound = false → s.control = .sealed' →
    Steps tickBudget s .control
      { s with conns := [], gone := s.conns ++ s.gone, control := .finalized }
  | releases : s.bound = false → s.control = .finalized →
    Steps tickBudget s .control { s with control := .released }

variable {tickBudget : Nat} {s s' : Reactor}

/-- A step of a `MarkDirty` is one of the list. -/
theorem actMark_steps {j : Nat} {mark : Mark} (found : s.marks[j]? = some mark)
    (stepped : s.actMark j mark = some s') : Steps tickBudget s (.act j) s' := by
  unfold actMark at stepped
  split at stepped
  next place =>
    cases stepped
    apply Steps.checked j mark _ found
    rw [place]
    split
    next sealed' => exact .sealed' sealed'
    next unsealed => exact .unsealed (by simpa using unsealed)
  next place =>
    cases stepped
    apply Steps.checked j mark _ found
    rw [place]
    split
    next sealed' => exact .implSealed sealed'
    next unsealed => exact .implUnsealed (by simpa using unsealed)
  next place =>
    split at stepped
    next queued =>
      cases stepped
      exact .coalesced j mark found place queued
    next unqueued =>
      cases stepped
      exact .claimed j mark found place (by simpa using unqueued)
  next place =>
    cases stepped
    unfold linkDirty
    split
    next sealed' => exact .refused j mark found place (.inl sealed')
    next unsealed =>
      split
      next absent => exact .refused j mark found place (.inr (by simpa using absent))
      next present =>
        exact .linked j mark found place (by simpa using unsealed) (by simpa using present)
  next place =>
    split at stepped
    next over' =>
      cases stepped
      exact .passed j mark found place (by simpa using over')
    · cases stepped
      exact .latched j mark found place
  next place =>
    cases stepped
    exact .stops j mark found place
  · cases stepped

/-- A step of the owner is one of the list. -/
theorem actOwner_steps {yes : Bool} {choice : Nat} (bound : s.bound = true)
    (stepped : s.actOwner tickBudget yes choice = some s') :
    Steps tickBudget s (.own yes choice) s' := by
  have move {pc : DriverPc} (moves : Moves tickBudget s s.owner pc) :
      Steps tickBudget s (.own yes choice) (s.go pc) := .moved yes choice pc bound moves
  unfold actOwner at stepped
  split at stepped
  next place => cases stepped; exact move (place ▸ .ticks)
  next via pumped place =>
    cases stepped
    unfold pumpOwner
    split
    · split
      next empty => exact .drained yes choice via pumped bound place empty
      next core links popped => exact .pops yes choice via pumped core links bound place popped
    · exact .leaves yes choice via pumped bound (.inl place)
  next via pumped core place =>
    split at stepped
    next there => cases stepped; exact move (place ▸ .finds via pumped core (by simpa using there))
    next absent =>
      cases stepped
      exact move (place ▸ .misses via pumped core (by simpa using absent))
  next via pumped core place =>
    split at stepped
    · obtain ⟨next, removed, rfl⟩ := Option.map_eq_some_iff.mp stepped
      exact .reaps yes choice via pumped core next bound place removed
    · cases stepped
      exact move (place ▸ .pumps via pumped core)
  next via pumped place =>
    split at stepped
    · cases stepped
      exact .leaves yes choice via pumped bound (.inr place)
    · cases stepped
      exact move (place ▸ .again via pumped)
  next canBlock ran place =>
    cases stepped
    split
    · exact move (place ▸ .tired canBlock ran)
    · exact move (place ▸ .onward canBlock ran)
  next canBlock place =>
    cases stepped
    exact .restarts yes choice canBlock bound place
  next canBlock ran place =>
    cases stepped
    unfold runBounded
    split
    next within =>
      split
      next latch => exact .takes yes choice canBlock ran bound place latch
      next unset =>
        cases yes with
        | true => exact move (place ▸ .spent canBlock ran)
        | false => exact .enters choice canBlock ran bound place within (by simpa using unset)
    · exact move (place ▸ .spent canBlock ran)
  next canBlock ran remaining place =>
    split at stepped
    · split at stepped
      · cases stepped
      next unstopped =>
        cases stepped
        exact move (place ▸ .handles canBlock ran remaining (by simpa using unstopped))
    · cases stepped
      exact move (place ▸ .nothing canBlock ran remaining)
  next canBlock ran place =>
    cases stepped
    split
    · exact move (place ▸ .returns canBlock ran)
    · exact move (place ▸ .throws canBlock ran)
  next canBlock ran place =>
    cases stepped
    exact .sealed' yes choice canBlock ran bound place
  next canBlock ran place =>
    split at stepped
    · cases stepped
      exact move (place ▸ .seals canBlock ran)
    · split at stepped
      next there =>
        cases stepped
        split
        · exact move (place ▸ .shuts canBlock ran choice (by simpa using there))
        · exact move (place ▸ .seals canBlock ran)
      · cases stepped
  next canBlock ran core place =>
    cases stepped
    exact .erases yes choice canBlock ran core bound place
  next place => cases stepped; exact move (place ▸ .counts)
  next place =>
    cases stepped
    split
    · exact move (place ▸ .waits)
    · exact move (place ▸ .skips)

/-- A step of the control domain is one of the list. -/
theorem actControl_steps (unbound : s.bound = false) (stepped : s.actControl = some s') :
    Steps tickBudget s .control s' := by
  unfold actControl at stepped
  split at stepped
  next place =>
    obtain ⟨next, cleared, rfl⟩ := Option.map_eq_some_iff.mp stepped
    exact .finalizes next unbound place cleared
  next place => cases stepped; exact .controlSeals unbound place
  next place => cases stepped; exact .empties unbound place
  next place =>
    split at stepped <;> cases stepped
    exact .releases unbound place
  · cases stepped

/-- A handler runs. -/
theorem of_handler {canBlock : Bool} {ran : Nat} (runs : s.handler = some (canBlock, ran)) :
    s.owner = .handling canBlock ran := by
  unfold handler at runs
  split at runs
  next place =>
    cases runs
    exact place
  · cases runs

/-- Every step of a reactor is one of the list. -/
theorem step_steps {label : ReactorLabel} (stepped : step tickBudget s label = some s') :
    Steps tickBudget s label s' := by
  cases label with
  | mark core => cases stepped; exact .called core
  | act j =>
    obtain ⟨mark, found, acted⟩ := Option.bind_eq_some_iff.mp stepped
    exact actMark_steps found acted
  | own yes choice =>
    simp only [step] at stepped
    split at stepped
    next bound => exact actOwner_steps bound stepped
    · cases stepped
  | register core =>
    simp only [step] at stepped
    split at stepped
    next fits =>
      cases stepped
      simp only [Bool.and_eq_true, Option.isSome_iff_exists, Bool.not_eq_true',
        List.contains_eq_mem, decide_eq_false_iff_not] at fits
      obtain ⟨⟨⟨bound, ⟨canBlock, ran⟩, runs⟩, absent⟩, new⟩ := fits
      exact .registers canBlock ran core bound (of_handler runs) absent new
    · cases stepped
  | remove core =>
    simp only [step] at stepped
    split at stepped
    next fits =>
      simp only [Bool.and_eq_true, Option.isSome_iff_exists, Bool.or_eq_true,
        List.contains_eq_mem, decide_eq_true_eq] at fits
      obtain ⟨⟨bound, ⟨canBlock, ran⟩, runs⟩, known⟩ := fits
      exact .removes canBlock ran core s' bound (of_handler runs) known stepped
    · cases stepped
  | sealService =>
    simp only [step] at stepped
    split at stepped
    next bound =>
      obtain ⟨⟨canBlock, ran⟩, runs, cleared⟩ := Option.bind_eq_some_iff.mp stepped
      obtain ⟨next, clears, rfl⟩ := Option.map_eq_some_iff.mp cleared
      exact .clears canBlock ran next bound (of_handler runs) clears
    · cases stepped
  | sealImpl => cases stepped; exact .implSeals
  | unbind =>
    simp only [step] at stepped
    split at stepped
    next rests =>
      cases stepped
      apply Steps.unbinds
      unfold resting at rests
      split at rests
      next place => exact .inl place
      next place => exact .inr (.inl place)
      next place => exact .inr (.inr place)
      · cases rests
    · cases stepped
  | control =>
    simp only [step] at stepped
    split at stepped
    · cases stepped
    next unbound => exact actControl_steps (by simpa using unbound) stepped

end Reactor

end BbtInfra.Net
