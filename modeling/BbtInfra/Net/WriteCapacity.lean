import BbtInfra.Lib.Cuts
import BbtInfra.Net.QueueRefinement
import BbtInfra.Net.WriteLedger

/-!
# The capacity predicate

`CanAcceptWrite` does not look at the segments of the queue, and it need not: every segment ends
with the last byte of an active write, so there are no more segments than active writes.
-/
namespace BbtInfra.Net

open Lib OutboundQueue List

namespace OutboundQueue

variable {queue : OutboundQueue}

/-- The loop over the segments takes a front away. -/
theorem trims_consumeSpill (spill : List Bytes) (n : Nat) :
    Cuts.Trims spill (consumeSpill spill n) := by
  fun_induction consumeSpill spill n with
  | case1 => exact .same
  | case2 => exact .same
  | case3 segment later n _ _ ih => exact .gone ih
  | case4 segment later n _ _ =>
    refine .part ?_
    rw [length_drop]
    exact Nat.sub_le _ _

/-- `ConsumeSent` takes a front of the segments away. -/
theorem trims_consumeSent (queue : OutboundQueue) (n : Nat) :
    Cuts.Trims queue.spill (queue.consumeSent n).2.spill := by
  unfold consumeSent
  split_ifs
  · exact .same
  · dsimp only
    rw [(consumeRing_segments _ _ _).1, (consumeRing_segments _ _ _).1]
    exact trims_consumeSpill _ _

/-- What stays of the queue that was made. -/
theorem consumeSent_geometry (queue : OutboundQueue) (n : Nat) :
    (queue.consumeSent n).2.maxSegments = queue.maxSegments ∧
      (queue.consumeSent n).2.geometryValid = queue.geometryValid := by
  unfold consumeSent
  split_ifs
  · exact ⟨rfl, rfl⟩
  · dsimp only
    rw [(consumeRing_segments _ _ _).2.1, (consumeRing_segments _ _ _).2.2,
      (consumeRing_segments _ _ _).2.1, (consumeRing_segments _ _ _).2.2]
    exact ⟨rfl, rfl⟩

/-- Data that `Append` takes are a part behind the others. -/
theorem aligned_stored {parts : List Bytes} (aligned : Cuts.Aligned queue.spill parts)
    (fit : queue.Fit) (data : Bytes) :
    Cuts.Aligned (queue.stored data).spill (parts ++ [data]) := by
  have shared := (ringShare_fits fit data).2
  simp only [stored]
  rcases eq_nil_or_concat queue.spill with none' | ⟨front, last, more⟩
  · split_ifs
    · rw [none']
      exact Cuts.aligned_nil _
    · rw [none', appendSpill]
      exact Cuts.aligned_singleton _ _
  · rw [concat_eq_append] at more
    have whole : queue.ringShare data = 0 := by
      by_contra some'
      rw [shared some'] at more
      exact absurd more.symm (append_ne_nil_of_right_ne_nil _ (cons_ne_nil _ _))
    rw [whole, drop_zero]
    split_ifs with nothing
    · rw [isEmpty_iff.mp nothing]
      rw [more] at aligned ⊢
      have merged := aligned.merge []
      rwa [append_nil] at merged
    · rw [more] at aligned ⊢
      simp only [appendSpill, getLast?_append, getLast?_singleton, Option.some_or,
        dropLast_concat]
      split_ifs
      · exact aligned.merge data
      · exact aligned.push data

end OutboundQueue

namespace WriteSide

section

variable [CompletionBuffer] {s next : WriteSide}

/-- `CanAcceptWrite`. -/
def canAcceptWrite (s : WriteSide) (bytes : Nat) : Bool :=
  if s.serviceSealed then false
  else if s.closeRequested ∨ s.acceptance ≠ .open' then false
  else
    decide (s.ops.length + s.pendingTerminal.length < s.maxOps) &&
      decide (bytes ≤ s.outboundMax - s.queue.totalBytes)

/-- The unsent bytes of each active write. -/
def parts (s : WriteSide) : List Bytes := s.active.map AcceptedWrite.unsentBytes

/-- The segments end where active writes end, in a queue of these limits. -/
structure Cut (s : WriteSide) : Prop where
  ledger : s.Ledger
  aligned : Cuts.Aligned s.queue.spill s.parts
  segments : s.queue.maxSegments = s.maxOps
  geometry : s.queue.geometryValid = decide (s.outboundMax ≠ 0 ∧ s.maxOps ≠ 0)

omit [CompletionBuffer] in
/-- A new connection. -/
theorem make_cut (outboundMax maxOps : Nat) : (make outboundMax maxOps).Cut := by
  refine ⟨make_ledger outboundMax maxOps, Cuts.aligned_nil _, rfl, ?_⟩
  have same : (min outboundMax (64 * 1024) ≠ 0 ∧ outboundMax ≠ 0 ∧ maxOps ≠ 0 ∧
      min outboundMax (64 * 1024) ≤ outboundMax) ↔ (outboundMax ≠ 0 ∧ maxOps ≠ 0) := by
    omega
  exact decide_eq_decide.mpr same

omit [CompletionBuffer] in
/-- A segment for each active write, at most. -/
theorem Cut.segments_le (cut : s.Cut) : s.queue.spill.length ≤ s.ops.length := by
  have queued := congrArg length cut.ledger.queued
  rw [bytes, length_append, unsentBytes, flatMap_def] at queued
  have fewer := cut.aligned.length_le cut.ledger.fit.filled
    (show s.queue.spill.flatten.length ≤ s.parts.flatten.length by rw [parts]; omega)
  rw [cut.ledger.booked.ops, length_map]
  rwa [parts, length_map] at fewer

/-- What `AcceptWrite` does to the queue and to the active writes. -/
theorem acceptWrite_parts (s : WriteSide) (data : Bytes) (alloc : AcceptAlloc)
    (sealSeen : Bool) :
    let next := (s.acceptWrite data alloc sealSeen).2
    next.maxOps = s.maxOps ∧ next.outboundMax = s.outboundMax ∧
      (next.queue = s.queue ∧ next.parts = s.parts ∨
        next.queue = s.queue.stored data ∧ next.parts = s.parts ++ [data]) := by
  unfold acceptWrite
  cases gate : s.acceptRefusal sealSeen with
  | some error => exact ⟨rfl, rfl, .inl ⟨rfl, rfl⟩⟩
  | none =>
    split_ifs
    · unfold acceptEmpty
      split_ifs
      · exact ⟨rfl, rfl, .inl ⟨rfl, rfl⟩⟩
      · refine ⟨rfl, rfl, .inl ⟨rfl, ?_⟩⟩
        simp [parts, active, AcceptedWrite.zero]
    · unfold acceptBytes
      split_ifs
      · exact ⟨rfl, rfl, .inl ⟨rfl, rfl⟩⟩
      · exact ⟨rfl, rfl, .inl ⟨rfl, rfl⟩⟩
      · exact ⟨rfl, rfl, .inl ⟨rfl, rfl⟩⟩
      · cases appended : s.queue.append data (decide (alloc = .append)) with
        | none => exact ⟨rfl, rfl, .inl ⟨rfl, rfl⟩⟩
        | some answer =>
          obtain ⟨error, queue⟩ := answer
          dsimp only
          split_ifs with failed
          · exact ⟨rfl, rfl, .inl ⟨rfl, rfl⟩⟩
          · refine ⟨rfl, rfl, .inr ⟨?_, ?_⟩⟩
            · simp only [append] at appended
              split_ifs at appended <;> cases appended
              all_goals first | rfl | exact absurd rfl failed
            · simp [parts, active, AcceptedWrite.begin', AcceptedWrite.unsentBytes]

/-- `AttributeSentLocked` takes a front of the parts away. -/
theorem Booked.trims_attributed {ops : List Nat} (booked : s.Booked) (named : s.ops = ops)
    (bytes : Nat) : Cuts.Trims s.parts (s.attributeSentLocked ops bytes).2.parts := by
  induction ops generalizing s bytes with
  | nil => exact .same
  | cons id later ih =>
    rw [WriteSide.attributeSentLocked]
    by_cases nothing : bytes = 0
    · rw [if_pos nothing]
      exact .same
    rw [if_neg nothing]
    obtain ⟨op, before, after, front, rfl, rfl⟩ := booked.front named
    have balanced : op.Balanced := booked.balanced op (by rw [front.records]; simp)
    have attributed := balanced.attributed front.active (Nat.min_le_right bytes op.remaining)
    have parts : s.parts = op.unsentBytes ::
        (after.filter fun op => !op.terminal).map AcceptedWrite.unsentBytes := by
      rw [WriteSide.parts, front.actives, map_cons]
    rw [front.record]
    dsimp only
    by_cases whole : op.remaining = min bytes op.remaining
    · rw [if_pos whole]
      have terminal : (op.attributed (min bytes op.remaining)).terminal = true := by
        rw [AcceptedWrite.attributed_terminal front.active, decide_eq_true whole]
      have completed : (op.attributed (min bytes op.remaining)).completed =
          ⟨op.id, op.sent + min bytes op.remaining, .success⟩ := by
        rw [AcceptedWrite.completed, AcceptedWrite.attributed, if_pos whole]
      have settled := booked.settleFront (AcceptedWrite.attributed · (min bytes op.remaining))
        front AcceptedWrite.attributed_id terminal attributed
      rw [completed] at settled
      obtain ⟨books, records, ops, -⟩ := settled
      have left := active_of records front.settled
      rw [filter_cons_of_neg (by simp [terminal])] at left
      generalize s.settleFront op.id _ _ _ = mid at books records ops left ⊢
      have tail : mid.parts =
          (after.filter fun op => !op.terminal).map AcceptedWrite.unsentBytes := by
        rw [WriteSide.parts, left]
      rw [parts, ← tail]
      exact .gone (ih books ops _)
    · rw [if_neg whole]
      have active : (op.attributed (min bytes op.remaining)).terminal = false := by
        rw [AcceptedWrite.attributed_terminal front.active, decide_eq_false whole]
      obtain ⟨-, next, -⟩ := booked.revised
        (AcceptedWrite.attributed · (min bytes op.remaining)) front AcceptedWrite.attributed_id
        active attributed
      rw [parts, WriteSide.parts, next.actives, map_cons]
      refine .part ?_
      rw [(op.attributed_bytes _).2, length_drop]
      exact Nat.sub_le _ _

/-- Taking a write or refusing it keeps the cut. -/
theorem Cut.accept (cut : s.Cut) (data : Bytes) (alloc : AcceptAlloc) (sealSeen : Bool) :
    (s.acceptWrite data alloc sealSeen).2.Cut := by
  have ledger := cut.ledger.accept (acceptWrite_spec cut.ledger.fit data alloc sealSeen)
  obtain ⟨maxOps, outboundMax, ⟨queue, parts⟩ | ⟨queue, parts⟩⟩ :=
    acceptWrite_parts s data alloc sealSeen
  · refine ⟨ledger, ?_, ?_, ?_⟩
    · rw [queue, parts]
      exact cut.aligned
    · rw [queue, maxOps]
      exact cut.segments
    · rw [queue, maxOps, outboundMax]
      exact cut.geometry
  · refine ⟨ledger, ?_, ?_, ?_⟩
    · rw [queue, parts]
      exact aligned_stored cut.aligned cut.ledger.fit data
    · rw [queue, maxOps]
      exact cut.segments
    · rw [queue, maxOps, outboundMax]
      exact cut.geometry

/-- A round of the pump keeps the cut. -/
theorem Cut.sendRound (cut : s.Cut) (result : SendResult) {bytes : Nat}
    (fits : bytes ≤ (s.queue.gatherViews kMaxViews).flatten.length) :
    (s.sendRound result (s.queue.gatherViews kMaxViews) bytes).2.Cut := by
  obtain ⟨ledger, -, -, kept⟩ := cut.ledger.sendRound result fits
  have same : { s with
      queue := (s.queue.consumeSent bytes).2
      handed := s.handed ++ (s.queue.gatherViews kMaxViews).flatten.take bytes }.Booked :=
    ⟨cut.ledger.booked.ids, cut.ledger.booked.fresh, cut.ledger.booked.ops,
      cut.ledger.booked.balanced, cut.ledger.booked.late, cut.ledger.booked.completed,
      cut.ledger.booked.limited⟩
  obtain ⟨rest, front⟩ := gatherViews_prefix cut.ledger.fit kMaxViews
  have size := congrArg length front
  rw [cut.ledger.queued, length_append] at size
  obtain ⟨-, -, -, attributed, -, -⟩ := same.attributeSentLocked rfl
    (show bytes ≤ s.unsentBytes.length by omega)
  have trims : Cuts.Trims s.parts
      (s.sendRound result (s.queue.gatherViews kMaxViews) bytes).2.parts :=
    same.trims_attributed rfl bytes
  have queue : (s.sendRound result (s.queue.gatherViews kMaxViews) bytes).2.queue =
      (s.queue.consumeSent bytes).2 := congrArg WriteSide.queue attributed
  have pieces := trims_consumeSent s.queue bytes
  have geometry := consumeSent_geometry s.queue bytes
  have maxOps := congrArg WriteSide.maxOps kept
  have outboundMax := congrArg WriteSide.outboundMax kept
  generalize (s.sendRound result (s.queue.gatherViews kMaxViews) bytes).2 = next at *
  have queued := congrArg length ledger.queued
  rw [OutboundQueue.bytes, length_append, unsentBytes, flatMap_def] at queued
  rw [← queue] at pieces geometry
  refine ⟨ledger, cut.aligned.trims pieces trims ?_, ?_, ?_⟩
  · rw [parts]
    omega
  · rw [geometry.1, maxOps]
    exact cut.segments
  · rw [geometry.2, maxOps, outboundMax]
    exact cut.geometry

omit [CompletionBuffer] in
/-- A connection without active writes has an empty queue. -/
theorem Cut.idle (ledger : s.Ledger) (none' : s.ops = []) (segments : s.queue.maxSegments = s.maxOps)
    (geometry : s.queue.geometryValid = decide (s.outboundMax ≠ 0 ∧ s.maxOps ≠ 0)) : s.Cut := by
  refine ⟨ledger, ?_, segments, geometry⟩
  have empty : s.queue.spill.flatten = [] := by
    have queued := ledger.queued
    rw [ledger.booked.unsentBytes_nil none', bytes] at queued
    exact (append_eq_nil_iff.mp queued).2
  have none'' : s.queue.spill = [] := by
    cases spill : s.queue.spill with
    | nil => rfl
    | cons segment later =>
      rw [spill, flatten_cons] at empty
      have filled := ledger.fit.filled
      rw [spill, (append_eq_nil_iff.mp empty).1] at filled
      exact absurd mem_cons_self filled
  rw [none'']
  exact Cuts.aligned_nil _

/-- Settling all active writes keeps the geometry. -/
theorem Cut.settle (cut : s.Cut) {error : StdErrorCode}
    {change : AcceptedWrite → AcceptedWrite} (settlement : Settlement error change) :
    let next := (s.settleOps error change s.ops).drainQueue
    next.queue.maxSegments = next.maxOps ∧
      next.queue.geometryValid = decide (next.outboundMax ≠ 0 ∧ next.maxOps ≠ 0) := by
  obtain ⟨-, -, -, kept⟩ := cut.ledger.booked.settleOps settlement rfl
  have queue := congrArg WriteSide.queue kept
  have maxOps := congrArg WriteSide.maxOps kept
  have outboundMax := congrArg WriteSide.outboundMax kept
  generalize s.settleOps error change s.ops = settled at *
  dsimp only
  unfold drainQueue
  have geometry := consumeSent_geometry settled.queue settled.queue.totalBytes
  split_ifs
  · dsimp only
    rw [geometry.1, geometry.2, queue, maxOps, outboundMax]
    exact ⟨cut.segments, cut.geometry⟩
  · rw [queue, maxOps, outboundMax]
    exact ⟨cut.segments, cut.geometry⟩

/-- `FailCurrentLocked` keeps the cut. -/
theorem Cut.fail (cut : s.Cut) {errno : Int} (failed : errno ≠ 0) :
    (s.failCurrentLocked (.system errno)).Cut := by
  by_cases none' : s.ops = []
  · rw [failCurrentLocked, if_pos none']
    exact cut
  · obtain ⟨ledger, empty, -⟩ := cut.ledger.fail failed none'
    have geometry := cut.settle (settlement_fail failed)
    refine Cut.idle ledger empty ?_ ?_
    · rw [failCurrentLocked, if_neg none']
      exact geometry.1
    · rw [failCurrentLocked, if_neg none']
      exact geometry.2

omit [CompletionBuffer] in
/-- The fields that the cut reads do not change. -/
theorem Cut.same (cut : s.Cut) (same : s.SameLedger next) : next.Cut := by
  refine ⟨cut.ledger.same same, ?_, ?_, ?_⟩
  · rw [same.queue, parts, active, same.records]
    exact cut.aligned
  · rw [same.queue, same.limits.1]
    exact cut.segments
  · rw [same.queue, same.limits.1, same.limits.2]
    exact cut.geometry

/-- Every step keeps the cut. -/
theorem Cut.step (cut : s.Cut) {label : WriteLabel} (stepped : s.step label = some next) :
    next.Cut := by
  cases label with
  | accept data alloc sealSeen =>
    obtain ⟨_, rfl⟩ := guarded_none stepped
    exact cut.accept data alloc sealSeen
  | pump maxRounds byteBudget answers =>
    apply pumpWrites_invariant Cut _ _ cut stepped
    · intro s result bytes kept fits
      exact kept.sendRound result fits
    · intro s errno kept _ failed _ _
      exact kept.fail failed
  | popTerminal =>
    have ledger := cut.ledger.tryPopTerminal
    cases stepped
    unfold tryPopTerminal at ledger ⊢
    cases pending : s.pendingTerminal with
    | nil => exact cut
    | cons write later =>
      rw [pending] at ledger
      exact ⟨ledger, cut.aligned, cut.segments, cut.geometry⟩
  | requestClose reason =>
    cases stepped
    by_cases published : s.readClosedPublished = true
    · rw [WriteSide.requestClose, if_pos published]
      exact cut
    · rw [WriteSide.requestClose, if_neg published]
      exact cut.same ⟨rfl, rfl, rfl, rfl, rfl, ⟨rfl, rfl⟩, rfl, rfl⟩
  | markClosed reason =>
    cases stepped
    by_cases last : s.acceptance = .closed ∧ s.ops = [] ∧ s.readClosedPublished = true
    · rw [WriteSide.markClosed, if_pos last]
      exact cut
    · obtain ⟨ledger, none', -⟩ := cut.ledger.close reason last
      have geometry := cut.settle
        (settlement_cancel (if s.closeRequested then s.closeReason else reason))
      refine Cut.idle ledger none' ?_ ?_
      · rw [markClosed, if_neg last]
        exact geometry.1
      · rw [markClosed, if_neg last]
        exact geometry.2
  | publishReadClosed =>
    obtain ⟨_, rfl⟩ := guarded_none stepped
    exact cut.same ⟨rfl, rfl, rfl, rfl, rfl, ⟨rfl, rfl⟩, rfl, rfl⟩
  | sealService =>
    cases stepped
    exact cut.same ⟨rfl, rfl, rfl, rfl, rfl, ⟨rfl, rfl⟩, rfl, rfl⟩

/-- Every reachable state is cut so. -/
theorem reachable_cut (reachable : writeMachine.Reachable s) : s.Cut := by
  apply reachable.invariant Cut
  · rintro state ⟨outboundMax, maxOps, rfl⟩
    exact make_cut outboundMax maxOps
  · intro state label next cut stepped
    exact cut.step stepped

omit [CompletionBuffer] in
/-- A queue with room for the bytes and for a segment takes the data. -/
theorem append_of_room {queue : OutboundQueue} {data : Bytes}
    (geometry : queue.geometryValid = true)
    (room : data.length ≤ queue.maxTotalBytes - queue.totalBytes)
    (few : queue.spill.length < queue.maxSegments) :
    ∃ stored, queue.append data false = some (.success, stored) := by
  unfold append
  simp only [Bool.and_false, Bool.false_eq_true, if_false]
  split_ifs with empty invalid full crowded
  · exact ⟨queue, rfl⟩
  · rw [geometry] at invalid
    cases invalid
  · omega
  · rw [Bool.and_eq_true, decide_eq_true_eq] at crowded
    omega
  · exact ⟨_, rfl⟩

/-- What `CanAcceptWrite` promises `AcceptWrite` keeps, when no allocation fails; there are no more
segments than active writes, and a write that is refused changes nothing. -/
theorem write_capacity_exact (s : WriteSide) (reachable : writeMachine.Reachable s) :
    (∀ data : Bytes, data ≠ [] → s.canAcceptWrite data.length = true →
      (s.acceptWrite data .fine s.serviceSealed).1 = .success) ∧
    s.queue.spill.length ≤ s.ops.length ∧
    ∀ data alloc sealSeen, (s.acceptWrite data alloc sealSeen).1.failed = true →
      let next := (s.acceptWrite data alloc sealSeen).2
      next.ops = s.ops ∧ next.queue = s.queue ∧ next.pendingTerminal = s.pendingTerminal ∧
        next.acceptance = s.acceptance := by
  have cut := reachable_cut reachable
  refine ⟨fun data some' can => ?_, cut.segments_le, fun data alloc sealSeen failed => ?_⟩
  · unfold canAcceptWrite at can
    split_ifs at can with sealed shut
    rw [Bool.and_eq_true, decide_eq_true_eq, decide_eq_true_eq] at can
    obtain ⟨slots, room⟩ := can
    push Not at shut
    have size := length_pos_iff.mpr some'
    have passed : s.acceptRefusal s.serviceSealed = none := by
      unfold acceptRefusal
      simp [sealed, shut.1, shut.2]
      omega
    have few := cut.segments_le
    obtain ⟨stored, appended⟩ : ∃ stored, s.queue.append data false = some (.success, stored) := by
      refine append_of_room ?_ ?_ ?_
      · rw [cut.geometry, decide_eq_true_eq]
        omega
      · rw [cut.ledger.limit]
        exact room
      · rw [cut.segments]
        omega
    have filled : ¬data.isEmpty = true := fun empty => some' (isEmpty_iff.mp empty)
    rw [acceptWrite, passed]
    rw [if_neg filled, acceptBytes, if_neg (by omega), if_neg (by simp)]
    simp only [reduceCtorEq, if_false, decide_false, appended]
    rfl
  · have accepting := acceptWrite_spec cut.ledger.fit data alloc sealSeen
    generalize s.acceptWrite data alloc sealSeen = answer at accepting failed ⊢
    cases accepting with
    | refused used => exact ⟨rfl, rfl, rfl, rfl⟩
    | empty => cases failed
    | taken => cases failed

end

/-- A connection with one active write, and room for another byte. -/
theorem write_capacity_exact_queued : ∃ s : WriteSide,
    (s.canAcceptWrite 1 = true ∧ s.ops.length = 1) ∧
    ((∀ data : Bytes, data ≠ [] → s.canAcceptWrite data.length = true →
      (s.acceptWrite data .fine s.serviceSealed).1 = .success) ∧
    s.queue.spill.length ≤ s.ops.length ∧
    ∀ data alloc sealSeen, (s.acceptWrite data alloc sealSeen).1.failed = true →
      let next := (s.acceptWrite data alloc sealSeen).2
      next.ops = s.ops ∧ next.queue = s.queue ∧ next.pendingTerminal = s.pendingTerminal ∧
        next.acceptance = s.acceptance) := by
  obtain ⟨s, reachable, tested⟩ := Machine.exists_reachable (m := writeMachine)
    [.accept [1, 2] .fine false]
    (fun s : WriteSide => decide (s.canAcceptWrite 1 = true ∧ s.ops.length = 1))
    ⟨8, 4, rfl⟩ (by decide +kernel)
  exact ⟨s, of_decide_eq_true tested, write_capacity_exact s reachable⟩

end WriteSide

end BbtInfra.Net
