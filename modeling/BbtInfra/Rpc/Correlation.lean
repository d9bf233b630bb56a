import BbtInfra.Rpc.OperationHistory
import BbtInfra.Rpc.PendingLedger

/-!
# Whose reply completes a call

A Response frame is matched by `request_id`. The duplicate check of the registration covers the
entries in the table only, and the frame of a call outlives its entry: it may be queued, or its
reply may be on the way, when the caller has gone and another call takes the id.
-/
namespace BbtInfra.Rpc

open Lib Operation

namespace SessionCore

/-- An item of this operation is queued, or the writer holds one at the checkpoint. -/
def queuedFrom (s : SessionCore) (i : Nat) : Bool :=
  ([TrafficClass.system, .service, .actor].any fun lane =>
    (s.outQ lane).any fun item => item.origin = some i) ||
  match s.writer with
  | .holding item => item.origin = some i
  | _ => false

/-- The frame of a registered operation may still be answered: it is to be enqueued, on its way to
the peer, or handed over with its answer unread. -/
def answerable (s : SessionCore) (i : Nat) (op : Operation) : Bool :=
  op.pc = .registered || op.pc = .counted || s.queuedFrom i || s.unanswered.contains i

/-- The peer answers a Call frame that it got, once, with the correlation fields of the frame. -/
def honestPeer (s : SessionCore) (label : SessionLabel) : Bool :=
  match label with
  | .dispatch frame answered => frame.kind ≠ .response || answered.any fun i =>
      s.unanswered.contains i && s.ops[i]?.any fun op =>
        op.kind = .call && frame.requestId = op.request.requestId &&
          frame.service = op.request.service && frame.method = op.request.method &&
          frame.requestSchema = op.request.requestSchema &&
          frame.responseSchema = op.request.responseSchema
  | _ => true

/-- No other call with this id may still be answered. -/
def idFree (s : SessionCore) (i : Nat) (op : Operation) : Bool :=
  (List.range s.ops.length).all fun j => j = i || s.ops[j]?.all fun other =>
    !(other.kind = .call && other.key = op.key && s.answerable j other)

/-- A call takes an id only when no other call with this id may still be answered. -/
def freshIds (s : SessionCore) (label : SessionLabel) : Bool :=
  match label with
  | .register i => s.ops[i]?.all fun op =>
      op.kind ≠ .call || s.dead || ((s.pending .calls).lookup op.key).isSome || s.idFree i op
  | _ => true

/-- What a call completes with is the answer to its own frame. -/
structure Correlated (s : SessionCore) : Prop where
  /-- A reply takes the entry of the call whose frame it answers. -/
  replies : ∀ (i : Nat) (op : Operation) (answered : Option Nat), s.ops[i]? = some op →
    op.kind = .call → .reply answered ∈ op.removals → answered = some i
  /-- A response that a call returns came with such a reply. -/
  returned : ∀ (i : Nat) (op : Operation) (response : Response), s.ops[i]? = some op →
    op.kind = .call → op.pc = .completed (.ok (some response)) →
    .reply (some i) ∈ op.removals

/-- What the correlation rests on. -/
structure IdOwners (s : SessionCore) : Prop where
  /-- An entry of `calls` belongs to the one call with its id that may still be answered. -/
  owner : ∀ key i, (s.pending .calls).lookup key = some i → ∀ (j : Nat) (op : Operation),
    s.ops[j]? = some op → op.kind = .call → op.key = key → s.answerable j op = true → j = i
  replies : ∀ (i : Nat) (op : Operation) (answered : Option Nat), s.ops[i]? = some op →
    op.kind = .call → .reply answered ∈ op.removals → answered = some i
  held : ∀ (i : Nat) (op : Operation) (response : Response), s.ops[i]? = some op →
    op.Holds response → ∃ answered, .reply answered ∈ op.removals

variable {s next : SessionCore} {protobuf : Protobuf} {label : SessionLabel} {i : Nat}
  {op : Operation}

/-- A queued item of an operation is unsent. -/
theorem queuedFrom_iff : s.queuedFrom i = true ↔ ∃ item, s.Unsent item ∧ item.origin = some i := by
  unfold queuedFrom Unsent
  constructor
  · intro queued
    rcases Bool.or_eq_true_iff.mp queued with lane | held
    · obtain ⟨lane, -, found⟩ := List.any_eq_true.mp lane
      obtain ⟨item, member, origin⟩ := List.any_eq_true.mp found
      exact ⟨item, .inl ⟨lane, member⟩, of_decide_eq_true origin⟩
    · cases writer : s.writer with
      | holding item =>
        rw [writer] at held
        exact ⟨item, .inr rfl, of_decide_eq_true held⟩
      | _ => simp [writer] at held
  · rintro ⟨item, ⟨lane, member⟩ | writer, origin⟩
    · apply Bool.or_eq_true_iff.mpr
      refine .inl (List.any_eq_true.mpr ⟨lane, by cases lane <;> simp, ?_⟩)
      exact List.any_eq_true.mpr ⟨item, member, decide_eq_true origin⟩
    · simp [writer, origin]

/-- Where an operation is that an answer can still reach. -/
theorem answerable_iff : s.answerable i op = true ↔ op.pc = .registered ∨ op.pc = .counted ∨
    (∃ item, s.Unsent item ∧ item.origin = some i) ∨ i ∈ s.unanswered := by
  simp only [answerable, Bool.or_eq_true, decide_eq_true_eq, queuedFrom_iff, List.contains_iff_mem,
    or_assoc]

/-- A call that may be answered was answerable before the step, or has just registered. -/
theorem Move.answerable (move : Move protobuf s label next) (origins : s.Origins)
    (found : next.ops[i]? = some op) (later : next.answerable i op = true) :
    ∃ before, s.ops[i]? = some before ∧ before.kind = op.kind ∧ before.key = op.key ∧
      (s.answerable i before = true ∨
        label = .register i ∧ before.pc = .begun ∧ op.pc ≠ .begun ∧ op.pc.unsent = true) := by
  -- Whatever is on its way comes from an operation that was there.
  have known : op.pc = .registered ∨ op.pc = .counted ∨ ∃ before, s.ops[i]? = some before ∧
      s.answerable i before = true := by
    rcases answerable_iff.mp later with pc | pc | ⟨item, unsent, origin⟩ | due
    · exact .inl pc
    · exact .inr (.inl pc)
    · apply Or.inr
      apply Or.inr
      rcases move.unsent unsent with old | stranger | ⟨j, before, rfl, present, pc, rfl⟩
      · obtain ⟨before, present, -, -⟩ := origins.items item i old origin
        exact ⟨before, present, answerable_iff.mpr (.inr (.inr (.inl ⟨item, old, origin⟩)))⟩
      · rw [stranger] at origin
        cases origin
      · cases origin
        exact ⟨before, present, answerable_iff.mpr (.inr (.inl pc))⟩
    · apply Or.inr
      apply Or.inr
      rcases move.unanswered due with old | ⟨item, writer, origin⟩
      · obtain ⟨before, present, -⟩ := origins.unanswered i old
        exact ⟨before, present, answerable_iff.mpr (.inr (.inr (.inr old)))⟩
      · obtain ⟨before, present, -, -⟩ := origins.items item i (.inr writer) origin
        exact ⟨before, present,
          answerable_iff.mpr (.inr (.inr (.inl ⟨item, .inr writer, origin⟩)))⟩
  rcases move.earlier found with ⟨before, present, continues⟩ | ⟨last, fresh⟩
  · refine ⟨before, present, continues.kind.symm, continues.key.symm, ?_⟩
    have early : op.pc = .registered ∨ op.pc = .counted → s.answerable i before = true ∨
        label = .register i ∧ before.pc = .begun ∧ op.pc ≠ .begun ∧ op.pc.unsent = true := by
      intro pc
      have unsent : op.pc.unsent = true := by
        rcases pc with pc | pc <;> rw [pc] <;> rfl
      have begun : op.pc ≠ .begun := by
        rcases pc with pc | pc <;> rw [pc] <;> decide
      have was := continues.unsent unsent
      cases early : before.pc with
      | begun => exact .inr ⟨(continues.begun unsent early).resolve_left begun, rfl, begun, unsent⟩
      | registered => exact .inl (answerable_iff.mpr (.inl early))
      | counted => exact .inl (answerable_iff.mpr (.inr (.inl early)))
      | _ => simp [early, OperationPc.unsent] at was
    rcases known with pc | pc | ⟨other, stood, answerable⟩
    · exact early (.inl pc)
    · exact early (.inr pc)
    · cases present.symm.trans stood
      exact .inl answerable
  · -- A new operation has nothing on its way.
    exfalso
    rcases known with pc | pc | ⟨other, stood, -⟩
    · rcases fresh.pc with begun | ⟨error, failed⟩
      · cases pc.symm.trans begun
      · cases pc.symm.trans failed
    · rcases fresh.pc with begun | ⟨error, failed⟩
      · cases pc.symm.trans begun
      · cases pc.symm.trans failed
    · have bound := (List.getElem?_eq_some_iff.mp stood).1
      omega

/-- An entry that a step put there. -/
theorem PendingLedger.new_entry (ledger : s.PendingLedger) (later : next.PendingLedger)
    (move : Move protobuf s label next) {table : PendingTable} {key : Bytes}
    (looked : (next.pending table).lookup key = some i) :
    (s.pending table).lookup key = some i ∨ label = .register i := by
  obtain ⟨op, found, tabled, keyed, registered, untaken⟩ := later.entry table key i looked
  rcases move.earlier found with ⟨before, present, continues⟩ | ⟨-, fresh⟩
  · rcases continues.registered registered with was | now
    · have free : before.removals = [] := by
        apply List.eq_nil_iff_forall_not_mem.mpr
        intro remover member
        have kept := continues.kept remover member
        rw [untaken] at kept
        cases kept
      obtain ⟨home, homed, stands⟩ := ledger.listed i before present was free
      have same : op.table = before.table := by
        rw [Operation.table, Operation.table, continues.kind]
      rw [← keyed, continues.key]
      rw [tabled, homed] at same
      cases same
      exact .inl stands
    · exact .inr now
  · rw [fresh.registered] at registered
    cases registered

/-- A call that has just registered stands under its id, and the id was free. -/
theorem Move.registered (move : Move protobuf s (.register i) next) (found : s.ops[i]? = some op)
    (call : op.kind = .call) :
    (∃ error, next = s.goto i (.failed error)) ∨ s.dead = false ∧
      (s.pending .calls).lookup op.key = none ∧
        (next.pending .calls).lookup op.key = some i := by
  cases move with
  | @register _ same present pc =>
    cases found.symm.trans present
    have tabled : op.table = some .calls := by rw [Operation.table, call]
    rcases register_cases s i op with ⟨plain, -⟩ | ⟨error, refused⟩ | ⟨table, own, died, absent, made⟩
    · cases plain.symm.trans tabled
    · exact .inl ⟨error, refused⟩
    · cases own.symm.trans tabled
      refine .inr ⟨died, absent, ?_⟩
      rw [made]
      change (Function.update s.pending .calls ((s.pending .calls).insert op.key i) .calls).lookup
        op.key = some i
      simp

section

variable (owners : s.IdOwners) (ledger : s.PendingLedger) (origins : s.Origins)
  (later : next.PendingLedger)

include owners ledger origins later

/-- The owner of an id stays the only one that may be answered. -/
theorem IdOwners.owner_step (free : s.freshIds label = true)
    (move : Move protobuf s label next) {key : Bytes}
    (looked : (next.pending .calls).lookup key = some i) {j : Nat} (found : next.ops[j]? = some op)
    (call : op.kind = .call) (keyed : op.key = key) (answerable : next.answerable j op = true) :
    j = i := by
  obtain ⟨before, present, kind, sameKey, was⟩ := move.answerable origins found answerable
  rw [call] at kind
  rw [keyed] at sameKey
  rcases was with old | ⟨rfl, -, _, unsent⟩
  · rcases ledger.new_entry later move looked with stood | rfl
    · exact owners.owner key i stood j before present kind sameKey old
    · -- The entry is new, so its id was free.
      by_contra apart
      obtain ⟨owner, owned, tabled, ownKey, registered, -⟩ := later.entry .calls key i looked
      rcases move.earlier owned with ⟨first, stood, continues⟩ | ⟨-, fresh⟩
      · have firstCall : first.kind = .call := by
          have same : first.table = some .calls := by
            rw [← tabled, table, table, continues.kind]
          cases kind : first.kind with
          | call => rfl
          | send acceptance => cases acceptance <;> simp [table, kind] at same
        rcases move.registered stood firstCall with ⟨error, rfl⟩ | ⟨alive, absent, -⟩
        · exact apart (owners.owner key i looked j before present kind sameKey old)
        · have firstKey : first.key = key := continues.key.symm.trans ownKey
          have met : s.idFree i first = true := by
            simpa [freshIds, stood, firstCall, alive, absent] using free
          have bound := (List.getElem?_eq_some_iff.mp present).1
          have each := List.all_eq_true.mp met j (List.mem_range.mpr bound)
          simp [apart, present, kind, sameKey, firstKey, old] at each
      · rw [fresh.registered] at registered
        cases registered
  · -- The call registers in this step, so the entry is its own.
    rcases move.registered present kind with ⟨error, rfl⟩ | ⟨-, -, stands⟩
    · rw [goto_pc found] at unsent
      cases unsent
    · rw [sameKey, looked, Option.some.injEq] at stands
      exact stands.symm

/-- A step of an honest peer, with fresh ids, keeps the owners. -/
theorem IdOwners.step (honest : s.honestPeer label = true)
    (free : s.freshIds label = true) (move : Move protobuf s label next) : next.IdOwners := by
  refine ⟨fun key i looked j op found call keyed answerable =>
    owners.owner_step ledger origins later free move looked found call keyed answerable, ?_, ?_⟩
  · intro i op answered found call member
    rcases move.earlier found with ⟨before, present, continues⟩ | ⟨-, fresh⟩
    · rcases continues.removed _ member with earlier | cause
      · exact owners.replies i before answered present (continues.kind.symm.trans call) earlier
      · cases cause with
        | @response frame _ _ kind looked =>
          -- The frame answered may still be answered, and only the owner of the id may.
          simp only [honestPeer, kind, ne_eq, not_true_eq_false, decide_false, Bool.false_or,
            Option.any_eq_true, Bool.and_eq_true, decide_eq_true_eq,
            List.contains_iff_mem] at honest
          obtain ⟨o, rfl, due, asked, stood, ⟨⟨⟨⟨callKind, id⟩, -⟩, -⟩, -⟩, -⟩ := honest
          have own : asked.key = frame.requestId := by rw [Operation.key, callKind, id]
          have answerable : s.answerable o asked = true :=
            answerable_iff.mpr (.inr (.inr (.inr due)))
          rw [owners.owner frame.requestId i looked o asked stood callKind own answerable]
        | @sendAccepted frame _ _ kind looked =>
          obtain ⟨same, stood, tabled, -⟩ := ledger.entry .sends _ i looked
          cases present.symm.trans stood
          rw [table, continues.kind.symm.trans call] at tabled
          cases tabled
    · rw [fresh.removals] at member
      cases member
  · intro i op response found holds
    rcases move.earlier found with ⟨before, present, continues⟩ | ⟨-, fresh⟩
    · have earned : ∃ answered, .reply answered ∈ before.removals := by
        rcases continues.earned response holds with earlier | read
        · exact owners.held i before response present earlier
        · obtain ⟨same, stood, replied, -⟩ := ledger.reading i _ read
          cases present.symm.trans stood
          exact replied
      obtain ⟨answered, member⟩ := earned
      exact ⟨answered, continues.kept _ member⟩
    · rcases holds with written | returned
      · rw [fresh.outcome] at written
        cases written
      · rcases fresh.pc with begun | ⟨error, failed⟩
        · cases returned.symm.trans begun
        · cases returned.symm.trans failed

end

/-- In every run with a peer that answers each Call frame at most once with its own correlation
fields, and in which a call takes an id only when no other call with this id may still be
answered, a reply completes the call whose frame it answers and no other, in every state
reached. -/
theorem replies_correlated {options : ClientOptions} {epoch : UInt64} {labels : List SessionLabel}
    (run : (machine protobuf options epoch).GuardedRun
      (fun s label => (s.honestPeer label && s.freshIds label) = true) labels s) :
    s.Correlated := by
  have owners : s.IdOwners := by
    apply run.reachableInvariant IdOwners
    · rintro state rfl
      refine ⟨?_, ?_, ?_⟩
      · intro key i looked
        cases looked
      · intro i op answered found
        cases found
      · intro i op response found
        cases found
    · intro state label next reachable owners met stepped
      obtain ⟨honest, free⟩ := Bool.and_eq_true_iff.mp met
      obtain ⟨ledger, order⟩ := reachable_pendingLedger reachable
      have move := step_move stepped
      exact owners.step ledger (reachable_origins reachable) (ledger.move order move) honest free
        move
  refine ⟨owners.replies, fun i op response found call returned => ?_⟩
  obtain ⟨answered, member⟩ := owners.held i op response found (.inr returned)
  have own := owners.replies i op answered found call member
  rw [own] at member
  exact member

/-- A response to a plain call. -/
def plainResponse (requestId : Bytes) : Response where
  requestId := requestId
  service := text "s"
  method := text "m"
  requestSchema := text "a"
  responseSchema := text "b"
  payload := [7]

/-- Its frame. -/
def plainReply (requestId : Bytes) : SessionFrame :=
  responseToSessionFrame (plainResponse requestId) 1

/-- The operation returned a response. -/
def responded (op : Operation) : Bool :=
  match op.pc with
  | .completed (.ok (some _)) => true
  | _ => false

/-- Two calls in turn under one id: the second starts after the answer to the first. -/
def answeredTwice : List SessionLabel :=
  [.submit .call (plainCall (text "x")) 1000, .register 0, .count 0, .enqueue 0, .dequeue, .commit,
    .dispatch (plainReply (text "x")) (some 0), .publish, .complete 0, .written (.ok ()), .settle,
    .countSettled, .submit .call (plainCall (text "x")) 1000, .register 1, .count 1, .enqueue 1,
    .dequeue, .commit, .dispatch (plainReply (text "x")) (some 1), .publish, .complete 1]

/-- An id that is taken again after its answer completes both calls with their own answers. -/
theorem replies_correlated_reused_id :
    ∃ s : SessionCore, (s.ops.all responded && s.ops.length == 2) = true ∧ s.Correlated := by
  obtain ⟨s, run, ended⟩ := Machine.exists_guardedRun
    (m := machine Pb.runtime { localIdentity := text "a" } 1) answeredTwice
    (fun s label => s.honestPeer label && s.freshIds label)
    (fun s => s.ops.all responded && s.ops.length == 2) rfl (by decide +kernel)
  exact ⟨s, ended, replies_correlated run⟩

/-- A call that times out after its frame was sent, and another under the same id; the peer
answers the first. -/
def answeredLate : List SessionLabel :=
  [.submit .call (plainCall (text "x")) 1000, .register 0, .count 0, .enqueue 0, .dequeue, .commit,
    .written (.ok ()), .settle, .countSettled, .expire 0 false, .leave 0,
    .submit .call (plainCall (text "x")) 1000, .register 1, .count 1, .enqueue 1,
    .dispatch (plainReply (text "x")) (some 0), .publish, .complete 1]

/-- The late reply to the first call completes the second. -/
theorem late_reply_not_correlated :
    ¬∀ labels s, (machine Pb.runtime { localIdentity := text "a" } 1).GuardedRun
      (fun s label => s.honestPeer label = true) labels s → s.Correlated := by
  intro correlated
  obtain ⟨s, run, ended⟩ := Machine.exists_guardedRun
    (m := machine Pb.runtime { localIdentity := text "a" } 1) answeredLate honestPeer
    (fun s => s.ops[1]?.any fun op => responded op && decide (op.kind = .call) &&
      op.removals.contains (.reply (some 0))) rfl (by decide +kernel)
  simp only [Option.any_eq_true, Bool.and_eq_true, decide_eq_true_eq,
    List.contains_iff_mem] at ended
  obtain ⟨op, found, ⟨-, call⟩, member⟩ := ended
  have own := (correlated answeredLate s run).replies 1 op (some 0) found call member
  exact absurd own (by decide)

end SessionCore

end BbtInfra.Rpc
