import BbtInfra.Lib.Census
import BbtInfra.Rpc.OwnerClosing

/-!
# The lifecycle of an owner: open, draining, closed

`SessionOwnerBeginOperation`, `SessionOwnerEndOperation`, `SessionOwnerShutdown` and
`SessionOwnerSeal` around the owner of `OwnerSystem`, in any interleaving with each other and
with every other critical section of the owner. `draining` and `active_ops` are the fields of
`SessionOwnerState` that only these functions use. Each call leaves an entry behind, so what
it returned, or what it collected, can be read off the state.
-/
namespace BbtInfra.Rpc

open Lib SessionOwnerState OwnerSystem List Option

/-- One `Call` or `Send`, from `BeginOperation` to the end of its `OwnerOperationGuard`. -/
inductive OwnerOperation
  | active
  | ended
  | refused (error : Error)
  deriving DecidableEq

/-- `BeginOperation` returned true. -/
def OwnerOperation.admitted : OwnerOperation → Bool
  | .active | .ended => true
  | .refused _ => false

/-- `EndOperation` is still to come. -/
def OwnerOperation.isActive : OwnerOperation → Bool
  | .active => true
  | .ended | .refused _ => false

/-- One call of `SessionOwnerShutdown`: in its loop, or back. -/
inductive ShutdownPc
  | waiting
  | returned (result : Except Error Unit)
  deriving DecidableEq

/-- One call of `SessionOwnerSeal` and what its critical section collected. -/
structure SealCall where
  reason : Error
  sessions : List Nat
  conns : List Nat
  deriving DecidableEq

/-- The owner with its lifecycle. -/
structure Lifecycle where
  system : OwnerSystem
  draining : Bool := false
  activeOps : Nat := 0
  operations : List OwnerOperation := []
  shutdowns : List ShutdownPc := []
  seals : List SealCall := []
  deriving DecidableEq

/-- One critical section. -/
inductive LifecycleLabel
  /-- A critical section of the owner other than the one of a seal. -/
  | owner (event : OwnerEvent)
  | beginOperation
  | endOperation (operation : Nat)
  /-- `SessionOwnerShutdown` up to its first unlock. -/
  | shutdown (native : Bool)
  /-- One round of its loop; `late` when the deadline has passed. -/
  | check (shutdown : Nat) (late : Bool)
  | sealOwner (reason : Error)
  deriving DecidableEq

/-- The event is the critical section of a seal. -/
def OwnerEvent.isSeal : OwnerEvent → Bool
  | .seal _ => true
  | _ => false

namespace Lifecycle

/-- `SessionOwnerClosed`: the owner is not open any more. -/
def refusing (s : Lifecycle) : Bool := s.system.owner.closed || s.draining

/-- What a call on such an owner returns: the published reason, or the general one. -/
def refusal (s : Lifecycle) : Error :=
  s.system.owner.closeReason.getD (err .closed "rpc client: closed")

/-- `SessionOwnerBeginOperation`. -/
def beginOperation (s : Lifecycle) : Lifecycle :=
  if s.refusing then { s with operations := s.operations ++ [.refused s.refusal] }
  else { s with activeOps := s.activeOps + 1, operations := s.operations ++ [.active] }

/-- `SessionOwnerEndOperation`, for an operation that was admitted. -/
def endOperation (s : Lifecycle) (operation : Nat) : Lifecycle :=
  { s with
    activeOps := if s.activeOps ≠ 0 then s.activeOps - 1 else s.activeOps
    operations := s.operations.set operation .ended }

/-- A new call of `SessionOwnerShutdown`. -/
def addShutdown (s : Lifecycle) (pc : ShutdownPc) : Lifecycle :=
  { s with shutdowns := s.shutdowns ++ [pc] }

/-- `SessionOwnerShutdown` up to the end of its first critical section. -/
def enterShutdown (s : Lifecycle) (native : Bool) : Lifecycle :=
  if native = false then
    s.addShutdown (.returned (.error
      (err .invalidContext "Shutdown requires native host context")))
  else if s.system.owner.closed then s.addShutdown (.returned (.error s.refusal))
  else if s.draining then
    if s.activeOps = 0 then s.addShutdown (.returned (.ok ()))
    else s.addShutdown (.returned (.error (err .overloaded "shutdown already in progress")))
  else { s with draining := true }.addShutdown .waiting

/-- One round of the loop of `SessionOwnerShutdown`. -/
def checkShutdown (s : Lifecycle) (shutdown : Nat) (late : Bool) : Lifecycle :=
  if s.activeOps = 0 then { s with shutdowns := s.shutdowns.set shutdown (.returned (.ok ())) }
  else
    match s.system.owner.closeReason with
    | some reason => { s with shutdowns := s.shutdowns.set shutdown (.returned (.error reason)) }
    | none =>
      if late then
        { s with shutdowns := s.shutdowns.set shutdown (.returned (.error
            (err .timedOut "shutdown deadline exceeded; owner remains sealed"))) }
      else s

/-- The critical section of `SessionOwnerSeal`; its kills and close requests are events of the
owner. -/
def sealOwner (s : Lifecycle) (reason : Error) : Lifecycle :=
  let system := s.system.sealStep reason
  { s with
    system
    seals := s.seals ++ [
      { reason
        sessions := system.sealedSessions.drop s.system.sealedSessions.length
        conns := system.sealedConns.drop s.system.sealedConns.length }] }

/-- One step of the lifecycle. -/
def step (s : Lifecycle) : LifecycleLabel → Option Lifecycle
  | .owner event =>
    if event.isSeal then none else (s.system.step event).map fun system => { s with system }
  | .beginOperation => some s.beginOperation
  | .endOperation operation =>
    if s.operations[operation]? = some .active then some (s.endOperation operation) else none
  | .shutdown native => some (s.enterShutdown native)
  | .check shutdown late =>
    if s.shutdowns[shutdown]? = some .waiting then some (s.checkShutdown shutdown late) else none
  | .sealOwner reason => some (s.sealOwner reason)

/-- The lifecycle of a fresh owner, under any interleaving. -/
def machine : Machine Lifecycle LifecycleLabel where
  start := fun s => OwnerSystem.IsStart s.system ∧ s = { system := s.system }
  step := step

/-- An operation that `BeginOperation` admitted. -/
def admittedAt (s : Lifecycle) (operation : Nat) : Bool :=
  (s.operations[operation]?.map OwnerOperation.admitted).getD false

/-- The seal that closed the owner: everything that is installed or being established was
collected by it, and what it collected is closed or still to be closed by it. -/
structure FirstSeal (system : OwnerSystem) (first : SealCall) : Prop where
  closed : system.owner.closed = true
  /-- The published reason is the one of this call. -/
  reason : system.owner.closeReason = some first.reason
  installed : ∀ id ∈ system.owner.byIdentity.values, id ∈ first.sessions
  establishing : ∀ key record conn, system.owner.establishing.lookup key = some record →
    system.owner.recordConn record = some conn →
    system.owner.closeAsked conn = true ∨ conn ∈ first.conns
  sessions : ∀ id ∈ first.sessions, id < system.owner.heap.length ∧
    (system.owner.isDead id = true ∨ id ∈ system.sealedSessions)
  conns : ∀ conn ∈ first.conns, conn < system.owner.conns.length ∧
    (system.owner.closeAsked conn = true ∨ conn ∈ system.sealedConns)

/-- The calls of `SessionOwnerSeal` up to here: none on an owner that is not closed, else a
first one that did all the work. -/
inductive SealHistory (system : OwnerSystem) : List SealCall → Prop
  | unsealed (opened : system.owner.closed = false) (unpublished : system.owner.closeReason = none)
      (sessions : system.sealedSessions = []) (conns : system.sealedConns = []) : SealHistory system []
  | sealed {first : SealCall} {later : List SealCall} (did : FirstSeal system first)
      (nothing : ∀ call ∈ later, call.sessions = [] ∧ call.conns = []) :
      SealHistory system (first :: later)

variable {s s' : Lifecycle} {system : OwnerSystem} {event : OwnerEvent}

/-- The work of the first seal survives every other step of the owner. -/
theorem FirstSeal.step {first : SealCall} (did : FirstSeal s.system first)
    (latched : Latched s.system.owner system.owner) (progress : OwnerSystem.Progress s.system system) :
    FirstSeal system first where
  closed := latched.closed.trans did.closed
  reason := latched.closeReason.trans did.reason
  installed := fun id member => did.installed id (latched.installed did.closed id member)
  establishing := by
    intro key record conn found known
    rcases latched.recorded record conn known with before | ⟨_, asked⟩
    · rcases did.establishing key record conn (latched.registered did.closed key record found) before
        with asked | member
      · exact .inl (latched.asked conn asked)
      · exact .inr member
    · exact .inl (asked did.closed)
  sessions := by
    intro id member
    obtain ⟨present, killed⟩ := did.sessions id member
    refine ⟨Nat.lt_of_lt_of_le present latched.heap, ?_⟩
    rcases killed with dead | pending
    · exact .inl (latched.dead id dead)
    · exact progress.kills id pending present
  conns := by
    intro conn member
    obtain ⟨present, closed⟩ := did.conns conn member
    refine ⟨Nat.lt_of_lt_of_le present latched.conns, ?_⟩
    rcases closed with asked | pending
    · exact .inl (latched.asked conn asked)
    · exact progress.closes conn pending present

/-- A step that is no seal keeps the history. -/
theorem SealHistory.step {calls : List SealCall} (history : SealHistory s.system calls)
    (inv : s.system.Inv) (other : ∀ reason, event ≠ .seal reason)
    (stepped : s.system.step event = some system) : SealHistory system calls := by
  have latched := latched_step inv other stepped
  have progress := progress_step other stepped
  cases history with
  | unsealed opened unpublished sessions conns =>
    refine .unsealed (latched.closed.trans opened) (latched.closeReason.trans unpublished) ?_ ?_
    · exact subset_nil.mp (sessions ▸ progress.sessions)
    · exact subset_nil.mp (conns ▸ progress.conns)
  | sealed did nothing => exact .sealed (did.step latched progress) nothing

/-- A seal of a closed owner collects nothing and publishes no second reason. -/
theorem sealStep_closed {reason : Error} (closed : system.owner.closed = true)
    (published : system.owner.closeReason.isSome = true) : system.sealStep reason = system := by
  unfold sealStep
  cases first : system.owner.closeReason with
  | none => simp [first] at published
  | some _ =>
    cases system with
    | mk owner callers sessions conns =>
      cases owner
      simp_all

/-- The seal of an open owner collects everything that is installed or being established. -/
theorem sealStep_opened (opened : system.owner.closed = false) (reason : Error) :
    (system.sealStep reason).sealedSessions =
        system.sealedSessions ++ system.owner.byIdentity.values ∧
      (system.sealStep reason).sealedConns =
        system.sealedConns ++ system.owner.establishing.values.filterMap system.owner.recordConn := by
  unfold sealStep
  rw [if_neg (by simp [opened])]
  exact ⟨rfl, rfl⟩

/-- The first seal did its work when its critical section ends. -/
theorem FirstSeal.make (opened : system.owner.closed = false)
    (unpublished : system.owner.closeReason = none) (sessions : system.sealedSessions = [])
    (conns : system.sealedConns = []) (inv : system.Inv)
    (known : ∀ {record conn : Nat}, system.owner.recordConn record = some conn →
      conn < system.owner.conns.length) (reason : Error) :
    FirstSeal (system.sealStep reason)
      { reason
        sessions := (system.sealStep reason).sealedSessions
        conns := (system.sealStep reason).sealedConns } := by
  have collected := sealStep_opened opened reason
  rw [sessions, conns, nil_append, nil_append] at collected
  have owner := sealStep_owner system reason
  rw [unpublished, none_or] at owner
  refine
    { closed := by rw [owner]
      reason := by rw [owner]
      installed := ?_
      establishing := ?_
      sessions := fun id member => ⟨?_, .inr member⟩
      conns := fun conn member => ⟨?_, .inr member⟩ }
  · intro id member
    rw [owner] at member
    exact collected.1 ▸ member
  · intro key record conn found learnt
    rw [owner] at found learnt
    refine .inr ?_
    rw [collected.2, mem_filterMap]
    exact ⟨record, AList.mem_values_of_lookup found, learnt⟩
  · rw [owner]
    exact inv.installed id (collected.1 ▸ member)
  · rw [owner]
    have member : conn ∈ (system.sealStep reason).sealedConns := member
    rw [collected.2, mem_filterMap] at member
    obtain ⟨record, _, learnt⟩ := member
    exact known learnt

/-- A seal extends the history. -/
theorem SealHistory.sealOwner (history : SealHistory s.system s.seals) (inv : s.system.Inv)
    (known : ∀ {record conn : Nat}, s.system.owner.recordConn record = some conn →
      conn < s.system.owner.conns.length) (reason : Error) :
    SealHistory (s.sealOwner reason).system (s.sealOwner reason).seals := by
  unfold Lifecycle.sealOwner
  generalize s.seals = calls at history ⊢
  cases history with
  | unsealed opened unpublished sessions conns =>
    have did := FirstSeal.make opened unpublished sessions conns inv known reason
    rw [sessions, conns]
    exact .sealed did nofun
  | sealed did nothing =>
    have same : s.system.sealStep reason = s.system :=
      sealStep_closed did.closed (by simp [did.reason])
    rw [same]
    refine .sealed did ?_
    intro call member
    rcases mem_append.mp member with earlier | this
    · exact nothing call earlier
    · rw [mem_singleton.mp this]
      simp

/-- What every critical section keeps. -/
structure Ledger (s : Lifecycle) : Prop where
  counted : s.activeOps = s.operations.countP OwnerOperation.isActive
  waiting : ShutdownPc.waiting ∈ s.shutdowns → s.draining = true
  /-- A shutdown that returned ok leaves nothing active and lets nothing in. -/
  drained : ShutdownPc.returned (.ok ()) ∈ s.shutdowns → s.refusing = true ∧ s.activeOps = 0
  seals : SealHistory s.system s.seals

section

variable (ledger : s.Ledger)

include ledger

/-- `BeginOperation` keeps the ledger. -/
theorem Ledger.beginOperation : s.beginOperation.Ledger := by
  unfold Lifecycle.beginOperation
  split
  · refine { ledger with counted := ?_ }
    have counted := ledger.counted
    simp [OwnerOperation.isActive, counted]
  · rename_i accepting
    refine { ledger with counted := ?_, drained := ?_ }
    · have counted := ledger.counted
      simp [OwnerOperation.isActive, counted]
    · intro returned
      exact absurd (ledger.drained returned).1 accepting

/-- `EndOperation` keeps the ledger. -/
theorem Ledger.endOperation {operation : Nat}
    (found : s.operations[operation]? = some .active) : (s.endOperation operation).Ledger := by
  have fewer : (s.operations.modify operation fun _ => .ended).countP OwnerOperation.isActive + 1 =
      s.operations.countP OwnerOperation.isActive := countP_modify_loss found rfl rfl
  have counted := ledger.counted
  have positive : s.activeOps ≠ 0 := by omega
  refine { ledger with counted := ?_, drained := ?_ }
  · change (if s.activeOps ≠ 0 then s.activeOps - 1 else s.activeOps) =
      (s.operations.set operation .ended).countP _
    rw [if_pos positive, set_eq_modify]
    omega
  · intro returned
    exact absurd (ledger.drained returned).2 positive

/-- A shutdown that does not wait and does not return ok changes nothing that counts. -/
theorem Ledger.addShutdown {pc : ShutdownPc} (waiting : pc = .waiting → s.draining = true)
    (drained : pc = .returned (.ok ()) → s.refusing = true ∧ s.activeOps = 0) :
    (s.addShutdown pc).Ledger where
  counted := ledger.counted
  waiting := by
    intro member
    rcases mem_append.mp member with earlier | this
    · exact ledger.waiting earlier
    · exact waiting (mem_singleton.mp this).symm
  drained := by
    intro member
    rcases mem_append.mp member with earlier | this
    · exact ledger.drained earlier
    · exact drained (mem_singleton.mp this).symm
  seals := ledger.seals

/-- The first critical section of `Shutdown` keeps the ledger. -/
theorem Ledger.enterShutdown (native : Bool) : (s.enterShutdown native).Ledger := by
  unfold Lifecycle.enterShutdown
  split
  · exact ledger.addShutdown nofun nofun
  split
  · exact ledger.addShutdown nofun nofun
  split
  · rename_i draining
    split
    · rename_i idle
      exact ledger.addShutdown nofun fun _ => ⟨by simp [refusing, draining], idle⟩
    · exact ledger.addShutdown nofun nofun
  · have draining : ({ s with draining := true } : Lifecycle).Ledger :=
      { ledger with
        waiting := fun _ => rfl
        drained := fun returned => ⟨by simp [refusing], (ledger.drained returned).2⟩ }
    exact draining.addShutdown (fun _ => rfl) nofun

/-- A shutdown that comes back keeps the ledger. -/
theorem Ledger.setShutdown (shutdown : Nat) {result : Except Error Unit}
    (drained : result = .ok () → s.refusing = true ∧ s.activeOps = 0) :
    ({ s with shutdowns := s.shutdowns.set shutdown (.returned result) } : Lifecycle).Ledger where
  counted := ledger.counted
  waiting := by
    intro member
    rcases mem_or_eq_of_mem_set member with earlier | this
    · exact ledger.waiting earlier
    · cases this
  drained := by
    intro member
    rcases mem_or_eq_of_mem_set member with earlier | this
    · exact ledger.drained earlier
    · exact drained (ShutdownPc.returned.inj this).symm
  seals := ledger.seals

/-- A round of the loop of `Shutdown` keeps the ledger. -/
theorem Ledger.checkShutdown {shutdown : Nat} (late : Bool)
    (found : s.shutdowns[shutdown]? = some .waiting) : (s.checkShutdown shutdown late).Ledger := by
  have draining := ledger.waiting (mem_of_getElem? found)
  unfold Lifecycle.checkShutdown
  split
  · rename_i idle
    exact ledger.setShutdown shutdown fun _ => ⟨by simp [refusing, draining], idle⟩
  · split
    · exact ledger.setShutdown shutdown nofun
    · split
      · exact ledger.setShutdown shutdown nofun
      · exact ledger

end

/-- The system of a reachable lifecycle is reachable by the events of its owner. -/
theorem reachable_system (reachable : machine.Reachable s) :
    OwnerSystem.machine.Reachable s.system := by
  refine reachable.invariant (fun s => OwnerSystem.machine.Reachable s.system) ?_ ?_
  · exact fun s begun => ⟨[], .start begun.1⟩
  · intro s label s' before stepped
    have extend : ∀ {event : OwnerEvent} {system : OwnerSystem},
        s.system.step event = some system → OwnerSystem.machine.Reachable system := by
      intro event system stepped
      obtain ⟨labels, run⟩ := before
      exact ⟨_, run.step trivial stepped⟩
    cases label with
    | owner event =>
      simp only [machine, step, ite_none_left_eq_some, map_eq_some_iff] at stepped
      obtain ⟨_, system, stepped, rfl⟩ := stepped
      exact extend stepped
    | beginOperation =>
      cases stepped
      unfold beginOperation
      split <;> exact before
    | endOperation operation =>
      simp only [machine, step, ite_none_right_eq_some, Option.some.injEq] at stepped
      exact stepped.2 ▸ before
    | shutdown native =>
      cases stepped
      have kept : (s.enterShutdown native).system = s.system := by
        unfold enterShutdown
        split_ifs <;> rfl
      exact kept ▸ before
    | check shutdown late =>
      simp only [machine, step, ite_none_right_eq_some, Option.some.injEq] at stepped
      have kept : s'.system = s.system := by
        rw [← stepped.2]
        unfold checkShutdown
        split
        · rfl
        · split
          · rfl
          · split <;> rfl
      exact kept ▸ before
    | sealOwner reason =>
      cases stepped
      have sealing : s.system.step (.seal reason) = some (s.system.sealStep reason) := rfl
      exact extend sealing

/-- Every step keeps the ledger. -/
theorem Ledger.step {label : LifecycleLabel} (ledger : s.Ledger) (reachable : machine.Reachable s)
    (stepped : s.step label = some s') : s'.Ledger := by
  have system := reachable_system reachable
  have inv := inv_reachable system
  cases label with
  | owner event =>
    simp only [Lifecycle.step, ite_none_left_eq_some, map_eq_some_iff] at stepped
    obtain ⟨plain, system, stepped, rfl⟩ := stepped
    have other : ∀ reason, event ≠ .seal reason := by
      rintro reason rfl
      exact plain rfl
    have closed := (latched_step inv other stepped).closed
    refine { ledger with drained := ?_, seals := ledger.seals.step inv other stepped }
    intro returned
    have drained := ledger.drained returned
    simpa only [refusing, closed] using drained
  | beginOperation =>
    cases stepped
    exact ledger.beginOperation
  | endOperation operation =>
    obtain ⟨found, rfl⟩ := guarded_some stepped
    exact ledger.endOperation found
  | shutdown native =>
    cases stepped
    exact ledger.enterShutdown native
  | check shutdown late =>
    obtain ⟨found, rfl⟩ := guarded_some stepped
    exact ledger.checkShutdown late found
  | sealOwner reason =>
    cases stepped
    have owner := sealStep_owner s.system reason
    have history := ledger.seals.sealOwner inv (recordConn_lt system) reason
    refine { ledger with drained := ?_, seals := history }
    intro returned
    refine ⟨?_, (ledger.drained returned).2⟩
    change ((s.system.sealStep reason).owner.closed || s.draining) = true
    simp [owner]

/-- Every reachable lifecycle has its ledger. -/
theorem ledger_reachable (reachable : machine.Reachable s) : s.Ledger := by
  obtain ⟨labels, run⟩ := reachable
  refine run.reachableInvariant Ledger ?_ fun _ _ _ before ledger _ stepped =>
    ledger.step before stepped
  intro s begun
  obtain ⟨⟨options, _, fresh⟩, same⟩ := begun
  rw [same, fresh]
  exact
    { counted := rfl
      waiting := nofun
      drained := nofun
      seals := .unsealed rfl rfl rfl rfl }

/-- What a step may do to the gate and to the operations behind it. -/
structure Advances (s s' : Lifecycle) : Prop where
  /-- An owner that refuses goes on refusing. -/
  refusing : s.refusing = true → s'.refusing = true
  /-- The first published reason stays. -/
  reason : ∀ reason, s.system.owner.closeReason = some reason →
    s'.system.owner.closeReason = some reason
  /-- Operations that are admitted later on were let in through an open gate. -/
  admitted : s.refusing = true → ∀ operation, s'.admittedAt operation = true →
    s.admittedAt operation = true

/-- A step that lets nothing in and touches no close bit. -/
theorem Advances.of_same (owner : s'.system.owner.published = s.system.owner.published)
    (draining : s.draining = true → s'.draining = true)
    (operations : s'.operations = s.operations) : Advances s s' where
  refusing := by
    have closed : s'.system.owner.closed = s.system.owner.closed := congrArg Prod.fst owner
    simp only [Lifecycle.refusing, closed, Bool.or_eq_true]
    exact Or.imp_right draining
  reason := by
    have kept : s'.system.owner.closeReason = s.system.owner.closeReason := congrArg Prod.snd owner
    intro reason published
    exact kept.trans published
  admitted := by
    intro _ operation admitted
    rw [admittedAt, operations] at admitted
    exact admitted

/-- Ending an operation admits none. -/
theorem admittedAt_endOperation {operation other : Nat}
    (found : s.operations[operation]? = some .active)
    (admitted : (s.endOperation operation).admittedAt other = true) : s.admittedAt other = true := by
  by_cases same : operation = other
  · rw [admittedAt, ← same, found]
    rfl
  · simpa [admittedAt, Lifecycle.endOperation, getElem?_set_ne same] using admitted

/-- A refused operation is not admitted. -/
theorem admittedAt_beginOperation {other : Nat} (refusing : s.refusing = true)
    (admitted : s.beginOperation.admittedAt other = true) : s.admittedAt other = true := by
  unfold Lifecycle.beginOperation at admitted
  rw [if_pos refusing] at admitted
  by_cases inside : other < s.operations.length
  · simpa [admittedAt, getElem?_append_left inside] using admitted
  · exfalso
    rw [admittedAt, getElem?_append_right (Nat.le_of_not_lt inside)] at admitted
    cases last : other - s.operations.length <;> simp [last, OwnerOperation.admitted] at admitted

/-- Every step advances. -/
theorem advances_step {label : LifecycleLabel} (reachable : machine.Reachable s)
    (stepped : s.step label = some s') : Advances s s' := by
  have inv := inv_reachable (reachable_system reachable)
  cases label with
  | owner event =>
    simp only [step, ite_none_left_eq_some, map_eq_some_iff] at stepped
    obtain ⟨plain, system, stepped, rfl⟩ := stepped
    have other : ∀ reason, event ≠ .seal reason := by
      rintro reason rfl
      exact plain rfl
    exact .of_same (latched_step inv other stepped).published id rfl
  | beginOperation =>
    cases stepped
    have owner : s.beginOperation.system.owner = s.system.owner ∧
        s.beginOperation.draining = s.draining := by
      unfold beginOperation
      split <;> exact ⟨rfl, rfl⟩
    exact
      { refusing := fun refusing => by simpa [Lifecycle.refusing, owner] using refusing
        reason := fun reason published => owner.1 ▸ published
        admitted := fun refusing operation => admittedAt_beginOperation refusing }
  | endOperation operation =>
    obtain ⟨found, rfl⟩ := guarded_some stepped
    exact
      { refusing := id
        reason := fun _ published => published
        admitted := fun _ other => admittedAt_endOperation found }
  | shutdown native =>
    cases stepped
    have kept : (s.enterShutdown native).system = s.system ∧
        (s.draining = true → (s.enterShutdown native).draining = true) ∧
        (s.enterShutdown native).operations = s.operations := by
      unfold enterShutdown addShutdown
      split_ifs <;> simp
    exact .of_same (by rw [kept.1]) kept.2.1 kept.2.2
  | check shutdown late =>
    simp only [step, ite_none_right_eq_some, Option.some.injEq] at stepped
    have kept : s'.system = s.system ∧ s'.draining = s.draining ∧ s'.operations = s.operations := by
      rw [← stepped.2]
      unfold checkShutdown
      split
      · exact ⟨rfl, rfl, rfl⟩
      · split
        · exact ⟨rfl, rfl, rfl⟩
        · split <;> exact ⟨rfl, rfl, rfl⟩
    exact .of_same (by rw [kept.1]) (fun draining => kept.2.1.trans draining) kept.2.2
  | sealOwner reason =>
    cases stepped
    have owner := sealStep_owner s.system reason
    refine
      { refusing := fun _ => ?_
        reason := fun first published => ?_
        admitted := fun _ _ admitted => admitted }
    · change ((s.system.sealStep reason).owner.closed || s.draining) = true
      simp [owner]
    · change (s.system.sealStep reason).owner.closeReason = some first
      simp [owner, published]

/-- The lifecycle of an owner in any interleaving: the counter is exact, a shutdown that
returned ok left nothing active, the first seal and no other one closes what is installed or
being established, and along every further execution a gate that is shut stays shut, the
published reason stays and no operation is admitted any more. -/
theorem lifecycle (reachable : machine.Reachable s) :
    s.activeOps = s.operations.countP OwnerOperation.isActive ∧
    (ShutdownPc.returned (.ok ()) ∈ s.shutdowns → s.activeOps = 0) ∧
    SealHistory s.system s.seals ∧
    ∀ labels later, machine.exec s labels = some later →
      (∀ reason, s.system.owner.closeReason = some reason →
        later.system.owner.closeReason = some reason) ∧
      (s.refusing = true → later.refusing = true ∧
        ∀ operation, later.admittedAt operation = true → s.admittedAt operation = true) := by
  have ledger := ledger_reachable reachable
  refine ⟨ledger.counted, fun returned => (ledger.drained returned).2, ledger.seals, ?_⟩
  intro labels later executed
  constructor
  · intro reason published
    refine reachable.exec (fun s => s.system.owner.closeReason = some reason) published ?_ executed
    exact fun _ _ _ before kept stepped => (advances_step before stepped).reason reason kept
  · intro refusing
    refine reachable.exec (fun later => later.refusing = true ∧
      ∀ operation, later.admittedAt operation = true → s.admittedAt operation = true)
      ⟨refusing, fun _ admitted => admitted⟩ ?_ executed
    intro middle label next before kept stepped
    have advances := advances_step before stepped
    exact ⟨advances.refusing kept.1,
      fun operation admitted => kept.2 operation (advances.admitted kept.1 operation admitted)⟩

/-- A link is installed and a call admitted; a shutdown waits for it and a close interrupts
both: the seal still collects the session, and the shutdown returns once the call is over. -/
def closedWhileDraining : List LifecycleLabel :=
  [.owner .accept, .owner (.handshake 0 (.ok [0x61])), .owner (.install 0), .beginOperation,
    .shutdown true, .beginOperation, .check 0 false, .sealOwner (err .closed "first"),
    .sealOwner (err .closed "second"), .owner .sealKill, .endOperation 0, .check 0 false]

/-- At its end the shutdown returned ok with nothing active. -/
theorem lifecycle_closedWhileDraining : ∃ s, machine.Reachable s ∧
    s.seals.map SealCall.sessions = [[0], []] ∧ s.system.owner.isDead 0 = true ∧
    ShutdownPc.returned (.ok ()) ∈ s.shutdowns ∧
    s.operations = [.ended, .refused (err .closed "rpc client: closed")] ∧ s.activeOps = 0 := by
  have begun : machine.start { system := fresh [0x62] 1 } :=
    ⟨fresh_start 0x62 1 (by decide) (by decide) (by decide), rfl⟩
  obtain ⟨s, reachable, collected, dead, returned, operations⟩ : ∃ s, machine.Reachable s ∧
      s.seals.map SealCall.sessions = [[0], []] ∧ s.system.owner.isDead 0 = true ∧
      ShutdownPc.returned (.ok ()) ∈ s.shutdowns ∧
      s.operations = [.ended, .refused (err .closed "rpc client: closed")] :=
    ⟨_, Machine.reachable_of_exec begun (rfl : machine.exec _ closedWhileDraining = some _),
      rfl, rfl, mem_singleton.mpr rfl, rfl⟩
  exact ⟨s, reachable, collected, dead, returned, operations, (lifecycle reachable).2.1 returned⟩

end Lifecycle

end BbtInfra.Rpc
