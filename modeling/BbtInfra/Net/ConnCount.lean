import BbtInfra.Lib.Machine
import Mathlib.Algebra.BigOperators.Fin
import Mathlib.Algebra.Order.BigOperators.Group.Finset

/-!
# The count of connections

`Engine::CountConnections` reads one counter for all reactors. Each owner runs its operations one
after the other; an operation is cut where it touches the counter, so owners interleave there.
Adoptions and removals change the counter by one. A seal and the final cleanup overwrite it with
what is left in their own registry, which is right as long as no other reactor counts a connection.
-/
namespace BbtInfra.Net

open Lib (Machine guarded_some)

/-- The operation of an owner and where it stands. What a seal has erased and what a cleanup has
cleared is kept for the ledger. -/
inductive OwnerOp
  | idle
  /-- Behind the registration of `AdoptFdOnOwner`. -/
  | adopting
  /-- Behind the erasure of `RemoveConn`. -/
  | removing
  /-- Behind a load of `RemoveConn` that was not zero. -/
  | subtracting
  /-- In the loop of `SealServiceOnOwner`. -/
  | sealing (erased : Nat)
  /-- Behind the clear of `FinalizeControl`. -/
  | finalizing (cleared : Nat)
  deriving DecidableEq, Repr

/-- `m_conns` of a reactor by the ids of the connections, and its owner. -/
structure ConnRegistry where
  conns : Finset Nat := ∅
  owner : OwnerOp := .idle
  deriving DecidableEq

/-- An engine with its reactors, `conn_count` and `next_conn_id`. -/
structure ConnCounter (n : Nat) where
  reactors : Fin n → ConnRegistry := fun _ => {}
  connCount : Nat := 0
  nextConnId : Nat := 1

/-- One step of an owner or, for the cleanup, of the control thread. -/
inductive CountLabel (n : Nat)
  /-- `m_conns.emplace` of `AdoptFdOnOwner`. -/
  | adopt (i : Fin n)
  | fetchAdd (i : Fin n)
  /-- `m_conns.erase` of `RemoveConn`. -/
  | erase (i : Fin n) (id : Nat)
  | load (i : Fin n)
  | fetchSub (i : Fin n)
  | sealBegin (i : Fin n)
  /-- A connection whose responsibilities are met is erased by the seal. -/
  | sealErase (i : Fin n) (id : Nat)
  /-- The loop of the seal is over, or left at a connection that is not closed. -/
  | sealStore (i : Fin n)
  /-- `ShutdownOwner` throws out of the seal. -/
  | sealThrow (i : Fin n)
  /-- `m_conns.clear` of `FinalizeControl`. -/
  | finalize (i : Fin n)
  | finalizeStore (i : Fin n)

/-- `fetch_sub` of a `std::size_t`. -/
def fetchSub : Nat → Nat
  | 0 => 2 ^ 64 - 1
  | count + 1 => count

namespace ConnCounter

variable {n : Nat} (s : ConnCounter n)

/-- A registry and the counter are written. -/
def write (i : Fin n) (registry : ConnRegistry) (connCount : Nat) : ConnCounter n :=
  { s with reactors := Function.update s.reactors i registry, connCount }

/-- One step, when the owner stands there. Counting up does not wrap: every connection takes
memory. -/
def step : CountLabel n → Option (ConnCounter n)
  | .adopt i =>
    let registry := s.reactors i
    if registry.owner = .idle then
      some { s.write i { conns := insert s.nextConnId registry.conns, owner := .adopting }
          s.connCount with nextConnId := s.nextConnId + 1 }
    else none
  | .fetchAdd i =>
    let registry := s.reactors i
    if registry.owner = .adopting then
      some (s.write i { registry with owner := .idle } (s.connCount + 1))
    else none
  | .erase i id =>
    let registry := s.reactors i
    if registry.owner = .idle then
      if id ∈ registry.conns then
        some (s.write i { conns := registry.conns.erase id, owner := .removing } s.connCount)
      else some s
    else none
  | .load i =>
    let registry := s.reactors i
    if registry.owner = .removing then
      if 0 < s.connCount then
        some (s.write i { registry with owner := .subtracting } s.connCount)
      else some (s.write i { registry with owner := .idle } s.connCount)
    else none
  | .fetchSub i =>
    let registry := s.reactors i
    if registry.owner = .subtracting then
      some (s.write i { registry with owner := .idle } (Net.fetchSub s.connCount))
    else none
  | .sealBegin i =>
    let registry := s.reactors i
    if registry.owner = .idle then
      some (s.write i { registry with owner := .sealing 0 } s.connCount)
    else none
  | .sealErase i id =>
    let registry := s.reactors i
    match registry.owner with
    | .sealing erased =>
      if id ∈ registry.conns then
        some (s.write i { conns := registry.conns.erase id, owner := .sealing (erased + 1) }
          s.connCount)
      else none
    | _ => none
  | .sealStore i =>
    let registry := s.reactors i
    match registry.owner with
    | .sealing _ => some (s.write i { registry with owner := .idle } registry.conns.card)
    | _ => none
  | .sealThrow i =>
    let registry := s.reactors i
    match registry.owner with
    | .sealing _ => some (s.write i { registry with owner := .idle } s.connCount)
    | _ => none
  | .finalize i =>
    let registry := s.reactors i
    if registry.owner = .idle then
      some (s.write i { conns := ∅, owner := .finalizing registry.conns.card } s.connCount)
    else none
  | .finalizeStore i =>
    let registry := s.reactors i
    match registry.owner with
    | .finalizing _ => some (s.write i { registry with owner := .idle } 0)
    | _ => none

/-- No operation is in progress. -/
def Quiet : Prop := ∀ i, (s.reactors i).owner = .idle

/-- The connections in all registries. -/
def total : Nat := ∑ i, (s.reactors i).conns.card

end ConnCounter

/-- An engine from its start on. -/
def connCounter (n : Nat) : Machine (ConnCounter n) (CountLabel n) where
  start s := s = {}
  step s label := s.step label

/-- What the counter owes to a reactor: its connections, less one that is not counted yet, and those
that are erased but not counted down. -/
def ConnRegistry.counted (registry : ConnRegistry) : Nat :=
  match registry.owner with
  | .idle => registry.conns.card
  | .adopting => registry.conns.card - 1
  | .removing | .subtracting => registry.conns.card + 1
  | .sealing erased => registry.conns.card + erased
  | .finalizing cleared => registry.conns.card + cleared

/-- Between its operations a reactor is owed its connections. -/
@[simp]
theorem counted_idle (conns : Finset Nat) :
    ({ conns, owner := .idle } : ConnRegistry).counted = conns.card := rfl

/-- The counter is what it owes to all reactors. -/
def ConnCounter.Exact {n : Nat} (s : ConnCounter n) : Prop :=
  s.connCount = ∑ i, (s.reactors i).counted

/-- A store of the counter finds no connection counted for another reactor; a seal that is left by
an exception has erased nothing. -/
def StoresWhole {n : Nat} (s : ConnCounter n) : CountLabel n → Prop
  | .sealStore i | .finalizeStore i => ∀ j, j ≠ i → (s.reactors j).counted = 0
  | .sealThrow i => (s.reactors i).owner = .sealing 0
  | .adopt _ | .fetchAdd _ | .erase _ _ | .load _ | .fetchSub _ | .sealBegin _ | .sealErase _ _
  | .finalize _ => True

instance {n : Nat} (s : ConnCounter n) (label : CountLabel n) :
    Decidable (StoresWhole s label) :=
  match label with
  | .sealStore i | .finalizeStore i =>
    inferInstanceAs (Decidable (∀ j, j ≠ i → (s.reactors j).counted = 0))
  | .sealThrow i => inferInstanceAs (Decidable ((s.reactors i).owner = .sealing 0))
  | .adopt _ | .fetchAdd _ | .erase _ _ | .load _ | .fetchSub _ | .sealBegin _ | .sealErase _ _
  | .finalize _ => inferInstanceAs (Decidable True)

/-- What holds of the registries in every run. -/
structure ConnCounter.Tidy {n : Nat} (s : ConnCounter n) : Prop where
  issued : ∀ i, ∀ id ∈ (s.reactors i).conns, id < s.nextConnId
  adopting : ∀ i, (s.reactors i).owner = .adopting → 0 < (s.reactors i).conns.card
  finalizing : ∀ i cleared, (s.reactors i).owner = .finalizing cleared → (s.reactors i).conns = ∅

section Ledger

variable {n : Nat} {s next : ConnCounter n}

/-- Writing one registry changes one part of the sum. -/
theorem sum_counted_write (i : Fin n) (registry : ConnRegistry) (connCount : Nat) :
    ∑ j, ((s.write i registry connCount).reactors j).counted =
      registry.counted + ∑ j ∈ Finset.univ.erase i, (s.reactors j).counted := by
  rw [← Finset.add_sum_erase _ _ (Finset.mem_univ i)]
  have here : (s.write i registry connCount).reactors i = registry := by
    simp [ConnCounter.write]
  have elsewhere : ∀ j ∈ Finset.univ.erase i,
      ((s.write i registry connCount).reactors j).counted = (s.reactors j).counted := by
    intro j member
    have other : j ≠ i := Finset.ne_of_mem_erase member
    simp [ConnCounter.write, Function.update_of_ne other]
  rw [here, Finset.sum_congr rfl elsewhere]

/-- The sum before a write. -/
theorem sum_counted_split (i : Fin n) :
    ∑ j, (s.reactors j).counted =
      (s.reactors i).counted + ∑ j ∈ Finset.univ.erase i, (s.reactors j).counted :=
  (Finset.add_sum_erase _ _ (Finset.mem_univ i)).symm

/-- A write that changes the counter as it changes its registry's part keeps the counter exact, and
no other one does. -/
theorem exact_write_iff (exact : s.Exact) (i : Fin n) (registry : ConnRegistry)
    (connCount : Nat) :
    (s.write i registry connCount).Exact ↔
      connCount + (s.reactors i).counted = registry.counted + s.connCount := by
  have before := sum_counted_split (s := s) i
  have behind := sum_counted_write (s := s) i registry connCount
  rw [ConnCounter.Exact] at exact
  rw [ConnCounter.Exact, behind]
  have stored : (s.write i registry connCount).connCount = connCount := rfl
  omega

/-- A store is exact when the others count nothing. -/
theorem exact_store_iff (exact : s.Exact) (i : Fin n) (registry : ConnRegistry) :
    (s.write i registry registry.counted).Exact ↔ ∀ j, j ≠ i → (s.reactors j).counted = 0 := by
  have whole : s.connCount = ∑ j, (s.reactors j).counted := exact
  rw [exact_write_iff exact, whole, sum_counted_split i]
  have zero : (∑ j ∈ Finset.univ.erase i, (s.reactors j).counted = 0) ↔
      ∀ j ∈ Finset.univ.erase i, (s.reactors j).counted = 0 := Finset.sum_eq_zero_iff
  constructor
  · intro same j other
    have nothing := zero.mp (by omega)
    exact nothing j (Finset.mem_erase.mpr ⟨other, Finset.mem_univ j⟩)
  · intro others
    have nothing := zero.mpr fun j member => others j (Finset.ne_of_mem_erase member)
    omega

/-- An exact counter is no less than what it owes to one reactor. -/
theorem counted_le (exact : s.Exact) (i : Fin n) : (s.reactors i).counted ≤ s.connCount := by
  have whole : s.connCount = ∑ j, (s.reactors j).counted := exact
  rw [whole]
  exact Finset.single_le_sum (f := fun j => (s.reactors j).counted) (fun _ _ => Nat.zero_le _)
    (Finset.mem_univ i)

/-- A step keeps the counter exact when it stores the whole, and only then. -/
theorem exact_step_iff (exact : s.Exact) (tidy : s.Tidy) {label : CountLabel n}
    (stepped : s.step label = some next) : next.Exact ↔ StoresWhole s label := by
  cases label with
  | adopt i =>
    obtain ⟨idle, rfl⟩ := guarded_some stepped
    have fresh : s.nextConnId ∉ (s.reactors i).conns := by
      intro member
      have issued := tidy.issued i _ member
      omega
    have same := exact_write_iff exact i
      { conns := insert s.nextConnId (s.reactors i).conns, owner := .adopting } s.connCount
    refine (iff_of_eq ?_).trans (same.trans ?_)
    · rfl
    · simp [ConnRegistry.counted, idle, Finset.card_insert_of_notMem fresh, StoresWhole,
        Nat.add_comm]
  | fetchAdd i =>
    obtain ⟨adopting, rfl⟩ := guarded_some stepped
    have registered := tidy.adopting i adopting
    rw [exact_write_iff exact]
    simp only [ConnRegistry.counted, adopting, StoresWhole, iff_true]
    omega
  | erase i id =>
    simp only [ConnCounter.step, Option.ite_none_right_eq_some] at stepped
    obtain ⟨idle, stepped⟩ := stepped
    split at stepped
    case isTrue member =>
      simp only [Option.some.injEq] at stepped
      have smaller := Finset.card_erase_add_one member
      rw [← stepped, exact_write_iff exact]
      simp only [ConnRegistry.counted, idle, StoresWhole, iff_true]
      omega
    case isFalse =>
      cases stepped
      simp [exact, StoresWhole]
  | load i =>
    simp only [ConnCounter.step, Option.ite_none_right_eq_some] at stepped
    obtain ⟨removing, stepped⟩ := stepped
    have counted := counted_le exact i
    simp only [ConnRegistry.counted, removing] at counted
    have positive : 0 < s.connCount := by omega
    simp only [positive, if_true, Option.some.injEq] at stepped
    rw [← stepped, exact_write_iff exact]
    simp only [ConnRegistry.counted, removing, StoresWhole, iff_true]
    omega
  | fetchSub i =>
    obtain ⟨subtracting, rfl⟩ := guarded_some stepped
    have counted := counted_le exact i
    simp only [ConnRegistry.counted, subtracting] at counted
    obtain ⟨less, split⟩ : ∃ less, s.connCount = less + 1 := ⟨s.connCount - 1, by omega⟩
    rw [exact_write_iff exact, split]
    simp only [ConnRegistry.counted, subtracting, Net.fetchSub, StoresWhole, iff_true]
    omega
  | sealBegin i =>
    obtain ⟨idle, rfl⟩ := guarded_some stepped
    rw [exact_write_iff exact]
    simp only [ConnRegistry.counted, idle, StoresWhole, iff_true]
    omega
  | sealErase i id =>
    simp only [ConnCounter.step] at stepped
    split at stepped
    case h_2 => simp at stepped
    case h_1 erased sealing =>
      obtain ⟨member, rfl⟩ := guarded_some stepped
      have smaller := Finset.card_erase_add_one member
      rw [exact_write_iff exact]
      simp only [ConnRegistry.counted, sealing, StoresWhole, iff_true]
      omega
  | sealStore i =>
    simp only [ConnCounter.step] at stepped
    split at stepped
    case h_2 => simp at stepped
    case h_1 erased _ =>
      cases stepped
      exact exact_store_iff exact i { s.reactors i with owner := .idle }
  | sealThrow i =>
    simp only [ConnCounter.step] at stepped
    split at stepped
    case h_2 => simp at stepped
    case h_1 erased sealing =>
      cases stepped
      rw [exact_write_iff exact]
      simp only [ConnRegistry.counted, sealing, StoresWhole, OwnerOp.sealing.injEq]
      omega
  | finalize i =>
    obtain ⟨idle, rfl⟩ := guarded_some stepped
    rw [exact_write_iff exact]
    simp only [ConnRegistry.counted, idle, StoresWhole, iff_true, Finset.card_empty]
    omega
  | finalizeStore i =>
    simp only [ConnCounter.step] at stepped
    split at stepped
    case h_2 => simp at stepped
    case h_1 cleared finalizing =>
      simp only [Option.some.injEq] at stepped
      have nothing : (s.reactors i).conns.card = 0 :=
        Finset.card_eq_zero.mpr (tidy.finalizing i cleared finalizing)
      have store := exact_store_iff exact i { s.reactors i with owner := .idle }
      rw [counted_idle, nothing] at store
      rw [← stepped]
      exact store

end Ledger

section Runs

variable {n : Nat} {s next : ConnCounter n}

/-- A written registry that is in order keeps the others in order. -/
theorem tidy_write (tidy : s.Tidy) (i : Fin n) {registry : ConnRegistry} (connCount : Nat)
    {nextConnId : Nat} (later : s.nextConnId ≤ nextConnId)
    (issued : ∀ id ∈ registry.conns, id < nextConnId)
    (adopting : registry.owner = .adopting → 0 < registry.conns.card)
    (finalizing : ∀ cleared, registry.owner = .finalizing cleared → registry.conns = ∅) :
    ({ s.write i registry connCount with nextConnId } : ConnCounter n).Tidy := by
  refine ⟨?_, ?_, ?_⟩ <;> intro j <;> by_cases here : j = i
  · rw [here]
    simpa [ConnCounter.write] using issued
  · intro id member
    have old : id ∈ (s.reactors j).conns := by
      simpa [ConnCounter.write, Function.update_of_ne here] using member
    exact (tidy.issued j id old).trans_le later
  · rw [here]
    simpa [ConnCounter.write] using adopting
  · simpa [ConnCounter.write, Function.update_of_ne here] using tidy.adopting j
  · rw [here]
    simpa [ConnCounter.write] using finalizing
  · simpa [ConnCounter.write, Function.update_of_ne here] using tidy.finalizing j

/-- The registries stay in order when an owner goes on with its connections or fewer. -/
theorem tidy_owner (tidy : s.Tidy) (i : Fin n) {conns : Finset Nat}
    (fewer : conns ⊆ (s.reactors i).conns) {owner : OwnerOp} (connCount : Nat)
    (adopting : owner ≠ .adopting) (finalizing : ∀ cleared, owner = .finalizing cleared → conns = ∅) :
    (s.write i { conns, owner } connCount).Tidy :=
  tidy_write tidy i connCount (Nat.le_refl _) (fun id member => tidy.issued i id (fewer member))
    (fun same => absurd same adopting) finalizing

/-- Every step keeps the registries in order. -/
theorem tidy_step (tidy : s.Tidy) {label : CountLabel n} (stepped : s.step label = some next) :
    next.Tidy := by
  cases label with
  | adopt i =>
    obtain ⟨_, rfl⟩ := guarded_some stepped
    refine tidy_write tidy i s.connCount (Nat.le_succ _) ?_ ?_ (by simp)
    · intro id member
      rcases Finset.mem_insert.mp member with new | old
      · omega
      · have issued := tidy.issued i id old
        omega
    · intro _
      exact Finset.card_pos.mpr ⟨_, Finset.mem_insert_self _ _⟩
  | fetchAdd i | fetchSub i | sealBegin i =>
    obtain ⟨_, rfl⟩ := guarded_some stepped
    exact tidy_owner tidy i subset_rfl _ (by simp) (by simp)
  | erase i id =>
    simp only [ConnCounter.step, Option.ite_none_right_eq_some] at stepped
    obtain ⟨_, stepped⟩ := stepped
    split at stepped
    · cases stepped
      exact tidy_owner tidy i (Finset.erase_subset _ _) _ (by simp) (by simp)
    · cases stepped
      exact tidy
  | load i =>
    simp only [ConnCounter.step, Option.ite_none_right_eq_some] at stepped
    obtain ⟨_, stepped⟩ := stepped
    split at stepped <;> cases stepped <;>
      exact tidy_owner tidy i subset_rfl _ (by simp) (by simp)
  | sealErase i id =>
    simp only [ConnCounter.step] at stepped
    split at stepped
    case h_2 => simp at stepped
    case h_1 =>
      obtain ⟨_, rfl⟩ := guarded_some stepped
      exact tidy_owner tidy i (Finset.erase_subset _ _) _ (by simp) (by simp)
  | sealStore i | sealThrow i | finalizeStore i =>
    simp only [ConnCounter.step] at stepped
    split at stepped <;> cases stepped
    exact tidy_owner tidy i subset_rfl _ (by simp) (by simp)
  | finalize i =>
    obtain ⟨_, rfl⟩ := guarded_some stepped
    exact tidy_owner tidy i (Finset.empty_subset _) _ (by simp) (by simp)

/-- Between all operations an exact counter is the number of connections. -/
theorem exact_quiet_iff (quiet : s.Quiet) : s.Exact ↔ s.connCount = s.total := by
  have parts : ∀ i, (s.reactors i).counted = (s.reactors i).conns.card := by
    intro i
    simp [ConnRegistry.counted, quiet i]
  rw [ConnCounter.Exact, ConnCounter.total, Finset.sum_congr rfl fun i _ => parts i]

/-- The registries and the counter along a run whose stores find nothing else counted. -/
theorem exact_of_guardedRun {labels : List (CountLabel n)}
    (run : (connCounter n).GuardedRun StoresWhole labels s) : s.Exact ∧ s.Tidy := by
  refine run.invariant (fun s => s.Exact ∧ s.Tidy) ?_ ?_
  · rintro s rfl
    refine ⟨?_, ⟨by simp, by simp, by simp⟩⟩
    simp [ConnCounter.Exact]
  · intro s label next kept whole stepped
    exact ⟨(exact_step_iff kept.1 kept.2 stepped).mpr whole, tidy_step kept.2 stepped⟩

/-- The count of connections: along every run in which a store of the counter finds no connection
counted for another reactor, the counter is the number of connections whenever no operation is in
progress, and no subtraction finds it at zero. A step keeps the counter exact only so. -/
theorem conn_count_exact {labels : List (CountLabel n)}
    (run : (connCounter n).GuardedRun StoresWhole labels s) :
    (s.Quiet → s.connCount = s.total) ∧
    (∀ i, (s.reactors i).owner = .subtracting → 0 < s.connCount) ∧
    ∀ label next, s.step label = some next → (StoresWhole s label ↔ next.Exact) := by
  obtain ⟨exact, tidy⟩ := exact_of_guardedRun run
  refine ⟨fun quiet => (exact_quiet_iff quiet).mp exact, ?_, ?_⟩
  · intro i subtracting
    have counted := counted_le exact i
    simp only [ConnRegistry.counted, subtracting] at counted
    omega
  · intro label next stepped
    exact (exact_step_iff exact tidy stepped).symm

/-- A reactor is sealed before the other adopts its connection. -/
theorem conn_count_exact_two :
    ∃ s : ConnCounter 2, s.Quiet ∧ s.total = 1 ∧ s.connCount = s.total := by
  obtain ⟨s, run, tested⟩ := Machine.exists_guardedRun
    [.adopt 0, .fetchAdd 0, .sealBegin 0, .sealErase 0 1, .sealStore 0, .adopt 1, .fetchAdd 1]
    (m := connCounter 2) (fun s label => decide (StoresWhole s label))
    (fun s => decide (s.total = 1) && decide (∀ i, (s.reactors i).owner = .idle)) rfl
    (by decide +kernel)
  have whole := run.mono fun s label met => of_decide_eq_true met
  simp only [Bool.and_eq_true, decide_eq_true_eq] at tested
  exact ⟨s, tested.2, tested.1, (conn_count_exact whole).1 tested.2⟩

/-- A seal forgets the connection of the other reactor, and a seal during a removal of the other
reactor makes the counter wrap. -/
theorem seal_forgets_others :
    (∃ s, (connCounter 2).Reachable s ∧ s.Quiet ∧ s.total = 1 ∧ s.connCount = 0) ∧
    ∃ s, (connCounter 2).Reachable s ∧ s.Quiet ∧ s.total = 0 ∧ s.connCount = 2 ^ 64 - 1 := by
  have forgets := Machine.exists_reachable
    [.adopt 0, .fetchAdd 0, .adopt 1, .fetchAdd 1, .sealBegin 0, .sealErase 0 1, .sealStore 0]
    (m := connCounter 2) (fun s => decide (∀ i, (s.reactors i).owner = .idle) &&
      decide (s.total = 1) && decide (s.connCount = 0)) rfl (by decide +kernel)
  have wraps := Machine.exists_reachable
    [.adopt 0, .fetchAdd 0, .erase 0 1, .load 0, .sealBegin 1, .sealStore 1, .fetchSub 0]
    (m := connCounter 2) (fun s => decide (∀ i, (s.reactors i).owner = .idle) &&
      decide (s.total = 0) && decide (s.connCount = 2 ^ 64 - 1)) rfl (by decide +kernel)
  simp only [Bool.and_eq_true, decide_eq_true_eq] at forgets wraps
  obtain ⟨first, reached, ⟨quiet, total⟩, count⟩ := forgets
  obtain ⟨second, reached', ⟨quiet', total'⟩, count'⟩ := wraps
  exact ⟨⟨first, reached, quiet, total, count⟩, second, reached', quiet', total', count'⟩

end Runs

end BbtInfra.Net
