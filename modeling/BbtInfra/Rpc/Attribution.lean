import BbtInfra.Rpc.OperationHistory
import BbtInfra.Rpc.PendingLedger

/-!
# Whose frame was committed

The writer finds the pending object of an item by its key, in `calls` first and then in `sends`.
An item can outlive the entry of the operation that enqueued it, and a call and a send may share
an id, so the entry under the key need not be the one of that operation.
-/
namespace BbtInfra.Rpc

open Lib

namespace SessionCore

/-- `committed` and write failures go to the operation whose frame it is. -/
structure Attributed (s : SessionCore) : Prop where
  /-- A pending entry is marked exactly when its own frame was handed to `conn.Write`. -/
  committed : ∀ table key i, (s.pending table).lookup key = some i →
    ∃ op, s.ops[i]? = some op ∧ (op.committed = true ↔ op.handed = true)
  /-- A failed item settles the operation that enqueued it. -/
  failed : ∀ (i : Nat) (op : Operation) (origin : Option Nat), s.ops[i]? = some op →
    .writeFailure origin ∈ op.removals → origin = some i

/-- The entry that the key of an item finds, if any, is the one of the operation that enqueued
the item. -/
def findsOwn (s : SessionCore) (item : OutItem) : Bool :=
  item.key = [] || (s.findPending item.key).all fun found => item.origin = some found.2

/-- The writer looks an item up only when its key finds no other operation. -/
def ownKeys (s : SessionCore) (label : SessionLabel) : Bool :=
  match label, s.writer with
  | .commit, .holding item => s.findsOwn item
  | .failItem, .failing item _ => s.findsOwn item
  | _, _ => true

variable {s next : SessionCore} {protobuf : Protobuf} {label : SessionLabel}

/-- An item that finds its own entry comes from the operation there. -/
theorem findsOwn_found {item : OutItem} (own : s.findsOwn item = true) (named : item.key ≠ [])
    {table : PendingTable} {i : Nat} (found : s.findPending item.key = some (table, i)) :
    item.origin = some i := by
  simpa [findsOwn, named, found] using own

/-- What the attribution of marks rests on. -/
structure Marks (s : SessionCore) : Prop where
  /-- An operation that has not enqueued has handed nothing over. -/
  fresh : ∀ (i : Nat) (op : Operation), s.ops[i]? = some op → op.pc.unsent = true →
    op.handed = false
  marked : ∀ (i : Nat) (op : Operation), s.ops[i]? = some op → op.registered = true →
    op.removals = [] → (op.committed = true ↔ op.handed = true)
  failed : ∀ (i : Nat) (op : Operation) (origin : Option Nat), s.ops[i]? = some op →
    .writeFailure origin ∈ op.removals → origin = some i

/-- The mark of a commit: the entry under the key, and no other operation. -/
theorem markCommitted_ops (s : SessionCore) (item : OutItem) (i : Nat) :
    (s.markCommitted item).ops[i]? =
      if item.key ≠ [] ∧ (s.findPending item.key).map Prod.snd = some i then
        (s.ops[i]?).map fun op => { op with committed := true }
      else s.ops[i]? := by
  unfold markCommitted
  by_cases unnamed : item.key = []
  · simp [unnamed]
  · cases found : s.findPending item.key with
    | none => simp [unnamed]
    | some entry =>
      by_cases same : entry.2 = i
      · simp [unnamed, modifyOp, same]
      · simp [unnamed, modifyOp, same]

/-- The hand-over: the operation that enqueued the item, and no other. -/
theorem commitItem_ops (s : SessionCore) (item : OutItem) (i : Nat) :
    (s.commitItem item).ops[i]? =
      if item.origin = some i then
        ((s.markCommitted item).ops[i]?).map fun op => { op with handed := true }
      else (s.markCommitted item).ops[i]? := by
  unfold commitItem
  cases item.origin with
  | none => simp
  | some origin =>
    by_cases same : origin = i
    · simp [modifyOp, same]
    · simp [modifyOp, same]

section

variable (marks : s.Marks) (ledger : s.PendingLedger)

include marks ledger

/-- A commit that finds its own entry, or none, marks what it hands over. -/
theorem Marks.commit (origins : s.Origins)
    {item : OutItem} (writer : s.writer = .holding item) (own : s.findsOwn item = true) {i : Nat} {op : Operation}
    (found : (s.commitItem item).ops[i]? = some op) :
    (op.pc.unsent = true → op.handed = false) ∧
      (op.registered = true → op.removals = [] → (op.committed = true ↔ op.handed = true)) := by
  have unsent : s.Unsent item := .inr writer
  rw [commitItem_ops] at found
  split_ifs at found with mine
  · obtain ⟨marked, present, rfl⟩ := Option.map_eq_some_iff.mp found
    obtain ⟨was, stood, keyed, sent⟩ := origins.items item i unsent mine
    rw [markCommitted_ops, stood] at present
    split_ifs at present with here
    · cases present
      refine ⟨fun early => ?_, fun _ _ => Iff.rfl⟩
      exact absurd (early.symm.trans sent) (by decide)
    · obtain rfl : was = marked := Option.some.inj present
      refine ⟨fun early => ?_, fun registered untaken => ?_⟩
      · exact absurd (early.symm.trans sent) (by decide)
      · -- The operation stands in a table, so its key finds an entry, and the entry is its own.
        exfalso
        have named := ((ledger.sound i was stood).named registered).1
        rw [keyed] at named
        obtain ⟨table, -, looked⟩ := ledger.listed i was stood registered untaken
        rw [keyed] at looked
        apply here
        refine ⟨named, ?_⟩
        cases search : s.findPending item.key with
        | none =>
          unfold findPending at search
          cases table with
          | calls =>
            rw [looked] at search
            cases search
          | sends =>
            cases call : (s.pending .calls).lookup item.key with
            | some j =>
              rw [call] at search
              cases search
            | none =>
              rw [call, looked] at search
              cases search
        | some entry =>
          have same := findsOwn_found own named (show _ = some (entry.1, entry.2) from search)
          rw [mine] at same
          exact same.symm
  · rw [markCommitted_ops] at found
    split_ifs at found with here
    · -- The entry that was marked is the one of another operation.
      exfalso
      obtain ⟨entry, search, same⟩ := Option.map_eq_some_iff.mp here.2
      have origin := findsOwn_found own here.1 (show _ = some (entry.1, entry.2) from search)
      rw [same] at origin
      exact mine origin
    · exact ⟨marks.fresh i op found, marks.marked i op found⟩

/-- Steps other than the commit neither mark nor hand over. -/
theorem Marks.continue
    (move : Move protobuf s label next) (other : label ≠ .commit) {i : Nat} {before op : Operation}
    (found : s.ops[i]? = some before) (continues : Continues s label i before op) :
    (op.pc.unsent = true → op.handed = false) ∧
      (op.registered = true → op.removals = [] → (op.committed = true ↔ op.handed = true)) := by
  have committed := continues.committed.resolve_right other
  have handed := continues.handed.resolve_right other
  constructor
  · intro early
    rw [handed]
    exact marks.fresh i before found (continues.unsent early)
  · intro registered untaken
    rw [committed, handed]
    cases was : before.registered with
    | true =>
      apply marks.marked i before found was
      apply List.eq_nil_iff_forall_not_mem.mpr
      intro remover member
      have kept := continues.kept remover member
      rw [untaken] at kept
      cases kept
    | false =>
      -- It registers in this step, so it has not enqueued.
      have now : label = .register i := by
        rcases continues.registered registered with earlier | now
        · exact absurd (earlier.symm.trans was) (by decide)
        · exact now
      subst now
      cases move with
      | @register _ same present pc =>
        cases found.symm.trans present
        have unmarked := ((ledger.sound i before found).unregistered was).2
        have unhanded := marks.fresh i before found (by rw [pc]; rfl)
        rw [unmarked, unhanded]

/-- A step that meets the condition keeps the marks. -/
theorem Marks.step (origins : s.Origins)
    (own : s.ownKeys label = true) (move : Move protobuf s label next) : next.Marks := by
  have both : ∀ (i : Nat) (op : Operation), next.ops[i]? = some op →
      (op.pc.unsent = true → op.handed = false) ∧
        (op.registered = true → op.removals = [] → (op.committed = true ↔ op.handed = true)) := by
    intro i op found
    by_cases commit : label = .commit
    · subst commit
      cases move with
      | @commit item writer =>
        have met : s.findsOwn item = true := by
          simpa only [ownKeys, writer] using own
        exact marks.commit ledger origins writer met found
    · rcases move.earlier found with ⟨before, present, continues⟩ | ⟨-, fresh⟩
      · exact marks.continue ledger move commit present continues
      · refine ⟨fun _ => fresh.handed, fun registered => ?_⟩
        exact absurd (registered.symm.trans fresh.registered) (by decide)
  refine ⟨fun i op found => (both i op found).1, fun i op found => (both i op found).2, ?_⟩
  · intro i op origin found member
    rcases move.earlier found with ⟨before, present, continues⟩ | ⟨-, fresh⟩
    · rcases continues.removed _ member with earlier | cause
      · exact marks.failed i before origin present earlier
      · cases cause with
        | @writeFailure item _ _ _ writer named search =>
          have met : s.findsOwn item = true := by
            simpa only [ownKeys, writer] using own
          exact findsOwn_found met named search
    · rw [fresh.removals] at member
      cases member

/-- The marks attribute. -/
theorem Marks.attributed : s.Attributed := by
  refine ⟨fun table key i looked => ?_, marks.failed⟩
  obtain ⟨op, found, -, -, registered, untaken⟩ := ledger.entry table key i looked
  exact ⟨op, found, marks.marked i op found registered untaken⟩

end

/-- In every run in which the writer commits and fails items only when their key finds no entry
of another operation, marks and write failures go to the operation whose frame it is, in every
state reached. -/
theorem commit_attributed {options : ClientOptions} {epoch : UInt64} {labels : List SessionLabel}
    (run : (machine protobuf options epoch).GuardedRun (fun s label => s.ownKeys label = true)
      labels s) : s.Attributed := by
  have reached := run.reachable
  suffices marks : s.Marks from marks.attributed (reachable_pendingLedger reached).1
  apply run.reachableInvariant Marks
  · rintro state rfl
    refine ⟨?_, ?_, ?_⟩
    · intro i op found
      cases found
    · intro i op found
      cases found
    · intro i op origin found
      cases found
  · intro state label next reachable marks own stepped
    exact marks.step (reachable_pendingLedger reachable).1 (reachable_origins reachable) own
      (step_move stepped)

/-- Two calls in turn: the first is committed, times out and returns; the second reuses its id. -/
def reusedAnswered : List SessionLabel :=
  [.submit .call (plainCall (text "x")) 1000, .register 0, .count 0, .enqueue 0, .dequeue, .commit,
    .written (.ok ()), .settle, .countSettled, .expire 0 false, .leave 0,
    .submit .call (plainCall (text "x")) 1000, .register 1, .count 1, .enqueue 1, .dequeue, .commit]

/-- An id reused after its frame has left is attributed to its new owner. -/
theorem commit_attributed_reused_id :
    ∃ s : SessionCore, ((s.pending .calls).lookup (text "x") == some 1 &&
      (s.ops[1]?.any fun op => op.committed)) = true ∧ s.Attributed := by
  obtain ⟨s, run, ended⟩ := Machine.exists_guardedRun
    (m := machine Pb.runtime { localIdentity := text "a" } 1) reusedAnswered ownKeys
    (fun s => (s.pending .calls).lookup (text "x") == some 1 && (s.ops[1]?.any fun op => op.committed))
    rfl (by decide +kernel)
  exact ⟨s, ended, commit_attributed run⟩

/-- A call that times out in the queue and returns, and another that reuses its id before the queue
moves. -/
def reusedQueued : List SessionLabel :=
  [.submit .call (plainCall (text "x")) 1000, .register 0, .count 0, .enqueue 0, .expire 0 false,
    .leave 0, .submit .call (plainCall (text "x")) 1000, .register 1, .count 1, .enqueue 1, .dequeue, .commit]

/-- The entry of the second call is marked by the frame of the first. -/
theorem reused_id_not_attributed :
    ¬∀ s, (machine Pb.runtime { localIdentity := text "a" } 1).Reachable s → s.Attributed := by
  intro attributed
  obtain ⟨s, reachable, ended⟩ := Machine.exists_reachable
    (m := machine Pb.runtime { localIdentity := text "a" } 1) reusedQueued
    (fun s => (s.pending .calls).lookup (text "x") == some 1 &&
      (s.ops[1]?.any fun op => op.committed && !op.handed)) rfl (by decide +kernel)
  rw [Bool.and_eq_true, beq_iff_eq] at ended
  obtain ⟨looked, marked⟩ := ended
  obtain ⟨op, found, same⟩ := (attributed s reachable).committed _ _ _ looked
  rw [found] at marked
  simp [same] at marked

end SessionCore

end BbtInfra.Rpc
