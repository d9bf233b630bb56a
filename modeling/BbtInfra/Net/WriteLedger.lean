import Mathlib.Algebra.GroupWithZero.Nat
import BbtInfra.Net.WriteBooks

/-!
# The ledger of the writes

The bytes in the queue are the unsent bytes of the active writes, and the bytes the sink took
are the sent bytes of all of them. Every step keeps this.
-/
namespace BbtInfra.Net

open Lib OutboundQueue AcceptedWrite List

namespace WriteSide

variable {s : WriteSide}

/-- The books, the queue and the bytes handed to the sink agree. -/
structure Ledger (s : WriteSide) : Prop where
  booked : s.Booked
  fit : s.queue.Fit
  limit : s.queue.maxTotalBytes = s.outboundMax
  queued : s.queue.bytes = s.unsentBytes
  handed : s.handed = s.sentBytes

/-- The fields that the ledger reads. -/
structure SameLedger (s next : WriteSide) : Prop where
  records : next.records = s.records
  ops : next.ops = s.ops
  pending : next.pendingTerminal = s.pendingTerminal
  popped : next.popped = s.popped
  nextOp : next.nextOp = s.nextOp
  limits : next.maxOps = s.maxOps ∧ next.outboundMax = s.outboundMax
  queue : next.queue = s.queue
  handed : next.handed = s.handed

variable {next : WriteSide} {errno : Int} {op : AcceptedWrite}

/-- Nothing else matters to the ledger. -/
theorem Ledger.same (ledger : s.Ledger) (same : s.SameLedger next) : next.Ledger := by
  have booked := ledger.booked
  refine ⟨⟨?_, ?_, ?_, ?_, ?_, ?_, ?_⟩, ?_, ?_, ?_, ?_⟩
  · rw [same.records]
    exact booked.ids
  · rw [same.records, same.nextOp]
    exact booked.fresh
  · rw [same.ops, active, same.records]
    exact booked.ops
  · rw [same.records]
    exact booked.balanced
  · rw [same.records]
    exact booked.late
  · rw [completions, same.popped, same.pending, same.records]
    exact booked.completed
  · rw [same.ops, same.pending, same.limits.1]
    exact booked.limited
  · rw [same.queue]
    exact ledger.fit
  · rw [same.queue, same.limits.2]
    exact ledger.limit
  · rw [same.queue, unsentBytes, active, same.records]
    exact ledger.queued
  · rw [same.handed, sentBytes, same.records]
    exact ledger.handed

/-- A new connection has empty books. -/
theorem make_ledger (outboundMax maxOps : Nat) : (make outboundMax maxOps).Ledger := by
  refine ⟨⟨.nil, ?_, rfl, ?_, .nil, .refl _, Nat.zero_le _⟩, make_fit _ _ _, rfl,
    make_bytes _ _ _, rfl⟩
  · intro op inside
    cases inside
  · intro op inside
    cases inside

/-- The books with one more write, whose record has sent nothing. -/
theorem Booked.accepted {added : AcceptedWrite} (booked : s.Booked) (id : added.id = s.nextOp)
    (sent : added.sent = 0) (balanced : added.Balanced) :
    ((s.records ++ [added]).map (·.id)).Pairwise (· < ·) ∧
      (∀ op ∈ s.records ++ [added], op.id < s.nextOp + 1) ∧
      (∀ op ∈ s.records ++ [added], op.Balanced) ∧
      (s.records ++ [added]).Pairwise
        fun earlier later => earlier.terminal = false → later.sent = 0 := by
  refine ⟨?_, ?_, ?_, ?_⟩
  · rw [map_append, pairwise_append]
    refine ⟨booked.ids, pairwise_singleton _ _, ?_⟩
    intro earlier known later new
    obtain ⟨op, inside, rfl⟩ := mem_map.mp known
    rw [map_singleton, mem_singleton] at new
    rw [new, id]
    exact booked.fresh op inside
  · intro op inside
    rcases mem_append.mp inside with old | new
    · have fresh := booked.fresh op old
      omega
    · rw [mem_singleton.mp new, id]
      exact Nat.lt_succ_self _
  · intro op inside
    rcases mem_append.mp inside with old | new
    · exact booked.balanced op old
    · rw [mem_singleton.mp new]
      exact balanced
  · rw [pairwise_append]
    refine ⟨booked.late, pairwise_singleton _ _, ?_⟩
    intro earlier _ later new _
    rw [mem_singleton.mp new]
    exact sent

/-- What `AcceptWrite` does: it reports an error and takes nothing, or it takes all of the
write. -/
inductive Accepting (s : WriteSide) (data : Bytes) : StdErrorCode × WriteSide → Prop
  | refused {error} (used : Nat) : error.failed = true → s.nextOp ≤ used →
      Accepting s data (error, { s with nextOp := used })
  | empty : data = [] → s.ops.length + s.pendingTerminal.length < s.maxOps →
      Accepting s data (.success, { s with
        nextOp := s.nextOp + 1
        records := s.records ++ [.zero s.nextOp]
        pendingTerminal := s.pendingTerminal ++ [⟨s.nextOp, 0, .success⟩] })
  | taken {queue} : data ≠ [] → s.ops.length + s.pendingTerminal.length < s.maxOps →
      queue.Fit → queue.bytes = s.queue.bytes ++ data →
      queue.maxTotalBytes = s.queue.maxTotalBytes →
      Accepting s data (.success, { s with
        nextOp := s.nextOp + 1
        records := s.records ++ [.begin' s.nextOp data]
        ops := s.ops ++ [s.nextOp]
        queue })

/-- The gate lets a write pass only while acceptance is open, nobody asked for the close and a
completion has room. -/
theorem acceptRefusal_none {sealSeen : Bool} (passed : s.acceptRefusal sealSeen = none) :
    sealSeen = false ∧ s.closeRequested = false ∧ s.acceptance = .open' ∧
      s.ops.length + s.pendingTerminal.length < s.maxOps := by
  unfold acceptRefusal at passed
  split_ifs at passed with sealed requested closed settling full
  refine ⟨by simpa using sealed, by simpa using requested, ?_, by omega⟩
  cases acceptance : s.acceptance with
  | open' => rfl
  | settling => exact absurd acceptance settling
  | closed => exact absurd acceptance closed

/-- What it refuses with is an error. -/
theorem acceptRefusal_failed {sealSeen : Bool} {error : StdErrorCode}
    (refused : s.acceptRefusal sealSeen = some error) : error.failed = true := by
  unfold acceptRefusal at refused
  split_ifs at refused <;> cases refused <;> rfl

/-- `AcceptWrite` reports an error and takes nothing, or the gate let it pass and it takes all of
the write. -/
theorem acceptWrite_spec [CompletionBuffer] (fit : s.queue.Fit) (data : Bytes) (alloc : AcceptAlloc)
    (sealSeen : Bool) : s.Accepting data (s.acceptWrite data alloc sealSeen) := by
  have refuse : ∀ error : StdErrorCode, error.failed = true → s.Accepting data (error, s) := by
    intro error failed
    exact Accepting.refused s.nextOp failed (Nat.le_refl _)
  have undo : ∀ error : StdErrorCode, error.failed = true →
      s.Accepting data (error, { s with nextOp := s.nextOp + 1 }) := by
    intro error failed
    exact Accepting.refused (s.nextOp + 1) failed (Nat.le_succ _)
  unfold acceptWrite
  cases gate : s.acceptRefusal sealSeen with
  | some error => exact refuse error (acceptRefusal_failed gate)
  | none =>
    have room := (acceptRefusal_none gate).2.2.2
    by_cases nothing : data.isEmpty = true
    · rw [if_pos nothing, acceptEmpty]
      by_cases failing : alloc = .record
      · rw [if_pos failing]
        exact refuse _ rfl
      · have pushed : CompletionBuffer.pushBack s.pendingCapacity s.pendingTerminal
            ⟨s.nextOp, 0, .success⟩ = s.pendingTerminal ++ [⟨s.nextOp, 0, .success⟩] := by
          apply CompletionBuffer.pushBack_room
          have capacity : s.maxOps ≤ s.pendingCapacity := Nat.le_max_right _ _
          omega
        rw [if_neg failing, pushed]
        exact Accepting.empty (isEmpty_iff.mp nothing) room
    · rw [if_neg nothing, acceptBytes]
      by_cases big : s.outboundMax - s.queue.totalBytes < data.length
      · rw [if_pos big]
        exact refuse _ rfl
      rw [if_neg big]
      by_cases record : alloc = .record
      · rw [if_pos record]
        exact refuse _ rfl
      rw [if_neg record]
      by_cases slot : alloc = .slot
      · rw [if_pos slot]
        exact undo _ rfl
      rw [if_neg slot]
      cases appended : s.queue.append data (decide (alloc = .append)) with
      | none => exact undo _ rfl
      | some answer =>
        obtain ⟨error, queue⟩ := answer
        dsimp only
        rcases append_spec fit appended with ⟨rfl, fitted, bytes, limit⟩ | ⟨rfl, _⟩
        · rw [if_neg (by decide)]
          have some' : data ≠ [] := by
            intro none'
            exact nothing (isEmpty_iff.mpr none')
          exact Accepting.taken some' room fitted bytes limit
        · rw [if_pos (by decide)]
          exact undo _ rfl

/-- Taking a write or refusing it keeps the ledger. -/
theorem Ledger.accept (ledger : s.Ledger) {data : Bytes} {answer : StdErrorCode × WriteSide}
    (accepting : s.Accepting data answer) : answer.2.Ledger := by
  have booked := ledger.booked
  have ops := booked.ops
  have completed := booked.completed
  cases accepting with
  | refused used failed less =>
    refine ⟨⟨booked.ids, ?_, booked.ops, booked.balanced, booked.late, booked.completed,
      booked.limited⟩, ledger.fit, ledger.limit, ledger.queued, ledger.handed⟩
    intro op inside
    exact Nat.lt_of_lt_of_le (booked.fresh op inside) less
  | empty nothing room =>
    have balanced : (zero s.nextOp).Balanced := by
      refine ⟨rfl, ?_, ?_⟩
      · intro contrary
        cases contrary
      · intro _
        exact ⟨Nat.le_refl 0, fun _ => rfl, fun _ => rfl⟩
    have books := booked.accepted rfl rfl balanced
    have actives : (s.records ++ [zero s.nextOp]).filter (fun op => !op.terminal) =
        s.active := by
      rw [filter_append, filter_singleton]
      exact append_nil _
    refine ⟨⟨books.1, books.2.1, ?_, books.2.2.1, books.2.2.2, ?_, ?_⟩, ledger.fit, ledger.limit,
      ?_, ?_⟩
    · rw [active, actives]
      exact ops
    · rw [completions, ← append_assoc, filter_append, map_append]
      exact completed.append_right _
    · simp only [length_append, length_singleton]
      omega
    · rw [unsentBytes, active, actives]
      exact ledger.queued
    · rw [sentBytes, flatMap_append, flatMap_singleton]
      exact ledger.handed.trans (append_nil _).symm
  | @taken queue some' room fitted bytes limit =>
    have size : 0 < data.length := length_pos_iff.mpr some'
    have balanced : (begin' s.nextOp data).Balanced := by
      refine ⟨rfl, ?_, ?_⟩
      · intro _
        exact ⟨Nat.zero_add _, size⟩
      · intro contrary
        cases contrary
    have books := booked.accepted rfl rfl balanced
    have actives : (s.records ++ [begin' s.nextOp data]).filter (fun op => !op.terminal) =
        s.active ++ [.begin' s.nextOp data] := by
      rw [filter_append]
      rfl
    refine ⟨⟨books.1, books.2.1, ?_, books.2.2.1, books.2.2.2, ?_, ?_⟩, fitted, ?_, ?_, ?_⟩
    · rw [active, actives, map_append]
      exact congrArg (· ++ _) ops
    · rw [completions, filter_append, map_append]
      exact completed.trans (append_nil _ ▸ .refl _)
    · simp only [length_append, length_singleton]
      omega
    · exact limit.trans ledger.limit
    · rw [unsentBytes, active, actives, flatMap_append, flatMap_singleton]
      exact bytes.trans (congrArg (· ++ data) ledger.queued)
    · rw [sentBytes, flatMap_append, flatMap_singleton]
      exact ledger.handed.trans (append_nil _).symm

/-- The queue holds what the active writes have not sent. -/
theorem Ledger.totalBytes (ledger : s.Ledger) : s.queue.totalBytes = s.unsentBytes.length := by
  rw [← bytes_length ledger.fit, ledger.queued]

/-- Without active writes there are no bytes to send. -/
theorem Booked.unsentBytes_nil (booked : s.Booked) (none' : s.ops = []) : s.unsentBytes = [] := by
  have ops := booked.ops
  rw [none'] at ops
  rw [unsentBytes, map_eq_nil_iff.mp ops.symm, flatMap_nil]

/-- A round of the pump keeps the ledger. -/
theorem Ledger.sendRound [CompletionBuffer] (ledger : s.Ledger) (result : SendResult) {bytes : Nat}
    (fits : bytes ≤ (s.queue.gatherViews kMaxViews).flatten.length) :
    let next := (s.sendRound result (s.queue.gatherViews kMaxViews) bytes).2
    next.Ledger ∧ s.Final next ∧ s.Clean next ∧
      next = { s with
        records := next.records, ops := next.ops, pendingTerminal := next.pendingTerminal
        queue := next.queue, handed := next.handed } := by
  obtain ⟨rest, front⟩ := gatherViews_prefix ledger.fit kMaxViews
  have size := congrArg length front
  rw [bytes_length ledger.fit, length_append] at size
  have consumed := consumeSent_spec ledger.fit
    (show bytes ≤ s.queue.totalBytes by omega)
  have same : { s with
      queue := (s.queue.consumeSent bytes).2
      handed := s.handed ++ (s.queue.gatherViews kMaxViews).flatten.take bytes }.Booked :=
    ⟨ledger.booked.ids, ledger.booked.fresh, ledger.booked.ops, ledger.booked.balanced,
      ledger.booked.late, ledger.booked.completed, ledger.booked.limited⟩
  have total := ledger.totalBytes
  have taken : (s.queue.gatherViews kMaxViews).flatten.take bytes = s.unsentBytes.take bytes := by
    rw [← ledger.queued, front, take_append_of_le_length fits]
  obtain ⟨books, sent, unsent, kept, final, clean⟩ := same.attributeSentLocked rfl
    (show bytes ≤ s.unsentBytes.length by omega)
  rw [WriteSide.sendRound]
  generalize WriteSide.attributeSentLocked _ s.ops bytes = attributed at *
  have queue : attributed.2.queue = (s.queue.consumeSent bytes).2 := by rw [kept]
  have handed : attributed.2.handed =
      s.handed ++ (s.queue.gatherViews kMaxViews).flatten.take bytes := by rw [kept]
  have limit : attributed.2.outboundMax = s.outboundMax := by rw [kept]
  refine ⟨⟨books, ?_, ?_, ?_, ?_⟩, ⟨final.keys, final.terminal⟩, clean, ?_⟩
  · rw [queue]
    exact consumed.2.1
  · rw [queue, consumed.2.2.2, limit]
    exact ledger.limit
  · rw [queue, consumed.2.2.1, ledger.queued, unsent]
    rfl
  · rw [handed, sent, taken, ledger.handed]
    rfl
  · rw [kept]

/-- Emptying the queue leaves the rest of the state alone. -/
theorem drainQueue_spec (fit : s.queue.Fit) :
    s.drainQueue = { s with queue := s.drainQueue.queue } ∧ s.drainQueue.queue.Fit ∧
      s.drainQueue.queue.bytes = [] ∧
      s.drainQueue.queue.maxTotalBytes = s.queue.maxTotalBytes := by
  unfold drainQueue
  by_cases some' : s.queue.totalBytes ≠ 0
  · have consumed := consumeSent_spec fit (Nat.le_refl s.queue.totalBytes)
    rw [if_pos some']
    refine ⟨rfl, consumed.2.1, ?_, consumed.2.2.2⟩
    rw [consumed.2.2.1, drop_of_length_le]
    exact Nat.le_of_eq (bytes_length fit)
  · rw [if_neg some']
    refine ⟨rfl, fit, ?_, rfl⟩
    apply length_eq_zero_iff.mp
    rw [bytes_length fit]
    omega

/-- Settling all active writes and emptying the queue keeps the ledger. -/
theorem Ledger.settle [CompletionBuffer] {error : StdErrorCode}
    {change : AcceptedWrite → AcceptedWrite}
    (ledger : s.Ledger) (settlement : Settlement error change) :
    let next := (s.settleOps error change s.ops).drainQueue
    next.Ledger ∧ next.ops = [] ∧ next.records = settledRecords change s.records ∧
      next = { s with
        records := next.records, ops := next.ops, pendingTerminal := next.pendingTerminal
        queue := next.queue } := by
  obtain ⟨books, none', records, kept⟩ := ledger.booked.settleOps settlement rfl
  generalize s.settleOps error change s.ops = settled at *
  have queue : settled.queue = s.queue := by rw [kept]
  have limit : settled.outboundMax = s.outboundMax := by rw [kept]
  have handed : settled.handed = s.handed := by rw [kept]
  have sent : settled.sentBytes = s.sentBytes := by
    rw [sentBytes, records, settledRecords, flatMap_map, sentBytes]
    apply flatMap_congr
    intro op _
    split_ifs
    · rfl
    · exact settlement.sentBytes op
  obtain ⟨same, fit, empty, max⟩ := drainQueue_spec (queue ▸ ledger.fit)
  intro next
  have whole : next = { settled with queue := next.queue } := same
  have records' : next.records = settled.records := by rw [whole]
  have ops' : next.ops = settled.ops := by rw [whole]
  refine ⟨⟨?_, fit, ?_, ?_, ?_⟩, ops'.trans none', records'.trans records, ?_⟩
  · rw [whole]
    exact ⟨books.ids, books.fresh, books.ops, books.balanced, books.late, books.completed,
      books.limited⟩
  · rw [max, queue, ledger.limit, whole]
    exact limit.symm
  · rw [empty, unsentBytes, active, records']
    exact (books.unsentBytes_nil none').symm
  · rw [sentBytes, records', whole]
    exact handed.trans (ledger.handed.trans sent.symm)
  · rw [whole, kept]

/-- A settlement changes no terminal record. -/
theorem Settlement.final {error : StdErrorCode} {change : AcceptedWrite → AcceptedWrite}
    (settlement : Settlement error change)
    (records : next.records = settledRecords change s.records) : s.Final next := by
  constructor
  · rw [keys, records, settledRecords, map_map, keys]
    apply map_congr_left
    intro op _
    simp only [Function.comp_apply]
    split_ifs
    · rfl
    · rw [settlement.2 op]
  · intro op inside terminal
    rw [records, settledRecords, mem_map]
    exact ⟨op, inside, if_pos terminal⟩

/-- `FailCurrentLocked` settles with the error of the sink. -/
theorem settlement_fail (failed : errno ≠ 0) :
    Settlement (.system errno) (fail (.system errno)) :=
  ⟨by simp [StdErrorCode.failed, StdErrorCode.value, failed], fun _ => rfl⟩

/-- `MarkClosed` settles with the reason, or with a cancellation. -/
theorem settlement_cancel (reason : StdErrorCode) :
    Settlement (if reason.failed then reason else operationCanceled)
      (cancel (if reason.failed then reason else operationCanceled)) := by
  refine ⟨?_, fun _ => rfl⟩
  split_ifs with failed
  · exact failed
  · rfl

/-- What `FailCurrentLocked` does when there are active writes. -/
theorem Ledger.fail [CompletionBuffer] (ledger : s.Ledger) (failed : errno ≠ 0)
    (some' : s.ops ≠ []) :
    let next := s.failCurrentLocked (.system errno)
    next.Ledger ∧ next.ops = [] ∧
      next.records = settledRecords (fail (.system errno)) s.records ∧
      next.acceptance = (if s.closeRequested then .settling
        else if s.serviceSealed then .closed else .open') ∧
      next.closeRequested = s.closeRequested ∧ next.closeReason = s.closeReason ∧
      next.readClosedPublished = s.readClosedPublished ∧ next.publishing = s.publishing := by
  obtain ⟨settled, none', records, kept⟩ := ledger.settle (settlement_fail failed)
  intro next
  have shape : next = s.failCurrentLocked (.system errno) := rfl
  rw [failCurrentLocked, if_neg some'] at shape
  generalize (s.settleOps _ _ s.ops).drainQueue = mid at *
  have requested : mid.closeRequested = s.closeRequested ∧ mid.closeReason = s.closeReason ∧
      mid.readClosedPublished = s.readClosedPublished ∧ mid.publishing = s.publishing := by
    rw [kept]
    exact ⟨rfl, rfl, rfl, rfl⟩
  rw [shape]
  refine ⟨settled.same ⟨rfl, rfl, rfl, rfl, rfl, ⟨rfl, rfl⟩, rfl, rfl⟩, none', records, rfl,
    requested⟩

/-- A property that rounds and failures keep, the pump keeps. -/
theorem pumpRounds_invariant [CompletionBuffer] (property : WriteSide → Prop)
    {answers : List SinkAnswer}
    (send : ∀ s result bytes, property s →
      bytes ≤ (s.queue.gatherViews kMaxViews).flatten.length →
      property (s.sendRound result (s.queue.gatherViews kMaxViews) bytes).2)
    (fail : ∀ s errno, property s → .failed errno ∈ answers → errno ≠ 0 → errno ≠ eagain →
      errno ≠ eintr → property (s.failCurrentLocked (.system errno)))
    {rounds byteBudget : Nat} {result : SendResult} {s : WriteSide} {last : SendResult}
    (pumped : pumpRounds rounds byteBudget result s answers = some (last, next))
    (before : property s) : property next := by
  fun_induction pumpRounds rounds byteBudget result s answers with
  | case1 =>
    cases pumped
    exact before
  | case2 =>
    cases pumped
    exact before
  | case3 =>
    cases pumped
    exact before
  | case4 => cases pumped
  | case5 rounds byteBudget result s _ views _ bytes later fits round ih =>
    apply ih
    · intro s errno kept inside
      exact fail s errno kept (mem_cons_of_mem _ inside)
    · exact pumped
    · exact send s result bytes before fits.2
  | case6 => cases pumped
  | case7 => cases pumped
  | case8 =>
    cases pumped
    exact before
  | case9 rounds byteBudget result s _ _ _ later _ _ ih =>
    apply ih
    · intro s errno kept inside
      exact fail s errno kept (mem_cons_of_mem _ inside)
    · exact pumped
    · exact before
  | case10 _ _ result s _ _ _ errno later failed blocked interrupted =>
    cases pumped
    exact fail s errno before mem_cons_self failed blocked interrupted

/-- The pump keeps what its rounds and failures keep. -/
theorem pumpWrites_invariant [CompletionBuffer] (property : WriteSide → Prop)
    {answers : List SinkAnswer}
    (send : ∀ s result bytes, property s →
      bytes ≤ (s.queue.gatherViews kMaxViews).flatten.length →
      property (s.sendRound result (s.queue.gatherViews kMaxViews) bytes).2)
    (fail : ∀ s errno, property s → .failed errno ∈ answers → errno ≠ 0 → errno ≠ eagain →
      errno ≠ eintr → property (s.failCurrentLocked (.system errno)))
    {maxRounds byteBudget : Nat} (before : property s)
    (pumped : (s.pumpWrites maxRounds byteBudget answers).map Prod.snd = some next) :
    property next := by
  unfold pumpWrites at pumped
  cases rounds : pumpRounds maxRounds byteBudget {} s answers with
  | none =>
    rw [rounds] at pumped
    cases pumped
  | some answer =>
    rw [rounds] at pumped
    cases pumped
    exact pumpRounds_invariant property send fail rounds before

/-- `FailCurrentLocked` keeps the ledger. -/
theorem Ledger.failCurrentLocked [CompletionBuffer] (ledger : s.Ledger) (failed : errno ≠ 0) :
    (s.failCurrentLocked (.system errno)).Ledger := by
  by_cases none' : s.ops = []
  · rw [WriteSide.failCurrentLocked, if_pos none']
    exact ledger
  · exact (ledger.fail failed none').1

/-- `TryPopTerminal` moves a completion to the reported ones. -/
theorem Ledger.tryPopTerminal (ledger : s.Ledger) : s.tryPopTerminal.2.Ledger := by
  unfold WriteSide.tryPopTerminal
  cases pending : s.pendingTerminal with
  | nil => exact ledger
  | cons write later =>
    have booked := ledger.booked
    have completed := booked.completed
    have limited := booked.limited
    rw [completions, pending] at completed
    rw [pending, length_cons] at limited
    refine ⟨⟨booked.ids, booked.fresh, booked.ops, booked.balanced, booked.late, ?_, ?_⟩,
      ledger.fit, ledger.limit, ledger.queued, ledger.handed⟩
    · rw [completions, append_assoc]
      exact completed
    · dsimp only
      omega

/-- What `MarkClosed` does when it is not the last of several. -/
theorem Ledger.close [CompletionBuffer] (ledger : s.Ledger) (reason : StdErrorCode)
    (unfinished : ¬ (s.acceptance = .closed ∧ s.ops = [] ∧ s.readClosedPublished = true)) :
    let reason' := if s.closeRequested then s.closeReason else reason
    let settle := if reason'.failed then reason' else operationCanceled
    let next := s.markClosed reason
    next.Ledger ∧ next.ops = [] ∧
      next.records = settledRecords (cancel settle) s.records ∧
      next.acceptance = .closed ∧ next.closeRequested = true ∧ next.closeReason = reason' := by
  obtain ⟨settled, none', records, _⟩ := ledger.settle
    (settlement_cancel (if s.closeRequested then s.closeReason else reason))
  intro reason' settle next
  have shape : next = s.markClosed reason := rfl
  rw [markClosed, if_neg unfinished] at shape
  rw [shape]
  exact ⟨settled.same ⟨rfl, rfl, rfl, rfl, rfl, ⟨rfl, rfl⟩, rfl, rfl⟩, none', records, rfl, rfl,
    rfl⟩

/-- Every step keeps the ledger. -/
theorem Ledger.step [CompletionBuffer] (ledger : s.Ledger) {label : WriteLabel} {next : WriteSide}
    (stepped : s.step label = some next) : next.Ledger := by
  cases label with
  | accept data alloc sealSeen =>
    obtain ⟨_, rfl⟩ := guarded_none stepped
    exact ledger.accept (acceptWrite_spec ledger.fit data alloc sealSeen)
  | pump maxRounds byteBudget answers =>
    apply pumpWrites_invariant Ledger _ _ ledger stepped
    · intro s result bytes kept fits
      exact (kept.sendRound result fits).1
    · intro s errno kept _ failed _ _
      exact kept.failCurrentLocked failed
  | popTerminal =>
    cases stepped
    exact ledger.tryPopTerminal
  | requestClose reason =>
    cases stepped
    by_cases published : s.readClosedPublished = true
    · rw [WriteSide.requestClose, if_pos published]
      exact ledger
    · rw [WriteSide.requestClose, if_neg published]
      exact ledger.same ⟨rfl, rfl, rfl, rfl, rfl, ⟨rfl, rfl⟩, rfl, rfl⟩
  | markClosed reason =>
    cases stepped
    by_cases last : s.acceptance = .closed ∧ s.ops = [] ∧ s.readClosedPublished = true
    · rw [WriteSide.markClosed, if_pos last]
      exact ledger
    · exact (ledger.close reason last).1
  | publishReadClosed =>
    obtain ⟨_, rfl⟩ := guarded_none stepped
    exact ledger.same ⟨rfl, rfl, rfl, rfl, rfl, ⟨rfl, rfl⟩, rfl, rfl⟩
  | sealService =>
    cases stepped
    exact ledger.same ⟨rfl, rfl, rfl, rfl, rfl, ⟨rfl, rfl⟩, rfl, rfl⟩

/-- Every reachable state has a ledger. -/
theorem reachable_ledger [CompletionBuffer] (reachable : writeMachine.Reachable s) : s.Ledger := by
  apply reachable.invariant Ledger
  · rintro state ⟨outboundMax, maxOps, rfl⟩
    exact make_ledger outboundMax maxOps
  · intro state label next ledger stepped
    exact ledger.step stepped

section

variable (booked : s.Booked)

include booked

/-- Records have different ids. -/
theorem Booked.apart (inside : op ∈ s.records) : ∃ before after, s.records = before ++ op :: after ∧
      ∀ other ∈ before ++ after, other.id ≠ op.id := by
  obtain ⟨before, after, split⟩ := append_of_mem inside
  have ids := booked.ids
  rw [split, map_append, map_cons, pairwise_append, pairwise_cons] at ids
  refine ⟨before, after, split, ?_⟩
  intro other member same
  rcases mem_append.mp member with early | behind
  · have less := ids.2.2 other.id (mem_map_of_mem early) op.id mem_cons_self
    omega
  · have less := ids.2.1.1 other.id (mem_map_of_mem behind)
    omega

/-- A record is found by its id. -/
theorem Booked.record (inside : op ∈ s.records) : s.record op.id = some op := by
  obtain ⟨before, after, split, apart⟩ := booked.apart inside
  have none' : before.find? (fun other => decide (other.id = op.id)) = none := by
    rw [find?_eq_none]
    intro other early
    simpa using apart other (mem_append_left _ early)
  rw [WriteSide.record, split, find?_append, none']
  simp

/-- The records that `m_ops` names. -/
theorem Booked.named : s.ops.filterMap s.record = s.active := by
  rw [booked.ops, filterMap_map]
  have found : s.active.filterMap (s.record ∘ fun op => op.id) = s.active.filterMap some := by
    apply filterMap_congr
    intro op inside
    exact booked.record (mem_of_mem_filter inside)
  rw [found, filterMap_some]

/-- The unsent bytes are counted by `remaining`. -/
theorem Booked.unsentBytes_length : s.unsentBytes.length = (s.active.map (·.remaining)).sum := by
  rw [unsentBytes, length_flatMap]
  congr 1
  apply map_congr_left
  intro op inside
  obtain ⟨known, active⟩ := mem_filter.mp inside
  exact (booked.balanced op known).unsent (by simpa using active)

/-- A terminal write has one completion, an active one has none. -/
theorem Booked.completions (inside : op ∈ s.records) :
    s.completions.filter (·.id = op.id) = if op.terminal then [op.completed] else [] := by
  obtain ⟨before, after, split, apart⟩ := booked.apart inside
  have others : ∀ list : List AcceptedWrite, (∀ other ∈ list, other.id ≠ op.id) →
      ((list.filter (·.terminal)).map AcceptedWrite.completed).filter (·.id = op.id) = [] := by
    intro list apart
    rw [filter_eq_nil_iff]
    intro write known
    obtain ⟨other, member, rfl⟩ := mem_map.mp known
    intro same
    exact apart other (mem_of_mem_filter member) (of_decide_eq_true same)
  have filtered := booked.completed.filter (·.id = op.id)
  rw [split, filter_append, map_append, filter_append,
    others before fun other early => apart other (mem_append_left _ early)] at filtered
  cases terminal : op.terminal with
  | false =>
    rw [filter_cons_of_neg (by simp [terminal]),
      others after fun other behind => apart other (mem_append_right _ behind)] at filtered
    exact filtered.eq_nil
  | true =>
    rw [filter_cons_of_pos (by simp [terminal]), map_cons,
      filter_cons_of_pos (by simp [AcceptedWrite.completed]),
      others after fun other behind => apart other (mem_append_right _ behind)] at filtered
    exact filtered.eq_singleton

end

end WriteSide

end BbtInfra.Net
