import BbtInfra.Net.InboundOrder
import BbtInfra.Net.WriteClosing

/-!
# What the sink gets

The sink takes the accepted writes in order, of each write the bytes that are counted as sent.
A write that a failure of the sink settles leaves a gap before the writes accepted after it;
without such a failure the sink has taken a prefix of all that was accepted.
-/
namespace BbtInfra.Net

open Lib List

/-- A step in which the sink does not fail for good. -/
def WriteLabel.smooth : WriteLabel → Bool
  | .pump _ _ answers => answers.all fun
    | .sent _ => true
    | .failed errno => errno = eagain || errno = eintr
  | _ => true

namespace WriteSide

section

variable [CompletionBuffer]

/-- The write that a step accepts. -/
def acceptedBy (s : WriteSide) : WriteLabel → List (Nat × Bytes)
  | .accept data alloc sealSeen =>
    if (s.acceptWrite data alloc sealSeen).1.failed then [] else [(s.nextOp, data)]
  | _ => []

variable {s next : WriteSide}

/-- The writes of a state are those that its steps accepted. -/
theorem keys_step (ledger : s.Ledger) (gate : s.Gate) {label : WriteLabel}
    (stepped : s.step label = some next) : next.keys = s.keys ++ s.acceptedBy label := by
  cases label with
  | accept data alloc sealSeen =>
    simp only [WriteSide.step, Option.ite_none_left_eq_some, Option.some.injEq] at stepped
    have accepting := acceptWrite_spec ledger.fit data alloc sealSeen
    rw [← stepped.2, acceptedBy]
    generalize s.acceptWrite data alloc sealSeen = answer at *
    cases accepting with
    | refused used failed less =>
      rw [if_pos failed, append_nil]
      rfl
    | empty nothing room =>
      rw [nothing, keys, map_append]
      rfl
    | taken some' room fitted bytes limit =>
      rw [keys, map_append]
      rfl
  | pump maxRounds byteBudget answers =>
    exact (gate.pumpWrites ledger stepped).final.keys.trans (append_nil _).symm
  | popTerminal =>
    cases stepped
    apply Eq.trans _ (append_nil s.keys).symm
    unfold tryPopTerminal
    cases s.pendingTerminal <;> rfl
  | requestClose reason =>
    cases stepped
    apply Eq.trans _ (append_nil s.keys).symm
    unfold requestClose
    by_cases published : s.readClosedPublished = true
    · rw [if_pos published]
    · rw [if_neg published]
      rfl
  | markClosed reason =>
    cases stepped
    apply Eq.trans _ (append_nil s.keys).symm
    by_cases last : s.acceptance = .closed ∧ s.ops = [] ∧ s.readClosedPublished = true
    · rw [markClosed, if_pos last]
    · exact ((settlement_cancel _).final (ledger.close reason last).2.2.1).keys
  | publishReadClosed =>
    obtain ⟨_, rfl⟩ := guarded_none stepped
    exact (append_nil s.keys).symm
  | sealService =>
    cases stepped
    exact (append_nil s.keys).symm

/-- No write was sent in part and followed by another one, and while acceptance is not closed
every terminal write was sent as a whole. -/
structure Unbroken (s : WriteSide) : Prop where
  gaps : s.records.Pairwise fun earlier later => earlier.sent < earlier.total → later.sent = 0
  whole : s.acceptance ≠ .closed → ∀ op ∈ s.records, op.terminal = true → op.sent = op.total

omit [CompletionBuffer] in
/-- Terminal writes that were sent as a whole leave no gap. -/
theorem Booked.gaps (booked : s.Booked)
    (whole : ∀ op ∈ s.records, op.terminal = true → op.sent = op.total) :
    s.records.Pairwise fun earlier later => earlier.sent < earlier.total → later.sent = 0 := by
  apply booked.late.imp_of_mem
  intro earlier later inside _ late short
  apply late
  cases terminal : earlier.terminal with
  | false => rfl
  | true =>
    have sent := whole earlier inside terminal
    omega

omit [CompletionBuffer] in
/-- A step that leaves the records and does not open a closed acceptance. -/
theorem Unbroken.same (unbroken : s.Unbroken) (records : next.records = s.records)
    (acceptance : next.acceptance ≠ .closed → s.acceptance ≠ .closed) : next.Unbroken := by
  refine ⟨?_, ?_⟩
  · rw [records]
    exact unbroken.gaps
  · intro opened op inside terminal
    rw [records] at inside
    exact unbroken.whole (acceptance opened) op inside terminal

omit [CompletionBuffer] in
/-- A new write has sent nothing yet. -/
theorem Unbroken.accept (unbroken : s.Unbroken) {data : Bytes}
    {answer : StdErrorCode × WriteSide} (accepting : s.Accepting data answer) :
    answer.2.Unbroken := by
  have joined : ∀ added : AcceptedWrite, added.sent = 0 →
      (s.records ++ [added]).Pairwise
        fun earlier later => earlier.sent < earlier.total → later.sent = 0 := by
    intro added sent
    rw [pairwise_append]
    refine ⟨unbroken.gaps, pairwise_singleton _ _, ?_⟩
    intro earlier _ later new _
    rw [mem_singleton.mp new]
    exact sent
  cases accepting with
  | refused used failed less => exact unbroken.same rfl fun opened => opened
  | empty nothing room =>
    refine ⟨joined _ rfl, ?_⟩
    intro opened op inside terminal
    rcases mem_append.mp inside with old | new
    · exact unbroken.whole opened op old terminal
    · rw [mem_singleton.mp new]
      rfl
  | taken some' room fitted bytes limit =>
    refine ⟨joined _ rfl, ?_⟩
    intro opened op inside terminal
    rcases mem_append.mp inside with old | new
    · exact unbroken.whole opened op old terminal
    · rw [mem_singleton.mp new] at terminal
      cases terminal

/-- A round of the pump makes writes terminal only as a whole. -/
theorem Unbroken.sendRound (unbroken : s.Unbroken) (ledger : s.Ledger) (gate : s.Gate)
    (result : SendResult) {bytes : Nat}
    (fits : bytes ≤ (s.queue.gatherViews kMaxViews).flatten.length) :
    (s.sendRound result (s.queue.gatherViews kMaxViews) bytes).2.Unbroken := by
  have idle : s.ops = [] →
      (s.sendRound result (s.queue.gatherViews kMaxViews) bytes).2.records = s.records := by
    intro none'
    rw [WriteSide.sendRound, none', attributeSentLocked]
  obtain ⟨kept, _, clean, shape⟩ := ledger.sendRound result fits
  generalize (s.sendRound result (s.queue.gatherViews kMaxViews) bytes).2 = next at *
  have acceptance : next.acceptance = s.acceptance := by rw [shape]
  by_cases closed : s.acceptance = .closed
  · apply unbroken.same (idle (gate.closed closed))
    rw [acceptance]
    exact fun opened => opened
  · have whole : ∀ op ∈ next.records, op.terminal = true → op.sent = op.total := by
      intro op inside terminal
      rcases clean op inside terminal with old | success
      · exact unbroken.whole closed op old terminal
      · apply ((kept.booked.balanced op inside).settled terminal).2.mp
        rw [success]
        rfl
    exact ⟨kept.booked.gaps whole, fun _ => whole⟩

/-- A step in which the sink does not fail for good leaves no gap. -/
theorem Unbroken.step (unbroken : s.Unbroken) (ledger : s.Ledger) (gate : s.Gate)
    {label : WriteLabel} (smooth : label.smooth = true) (stepped : s.step label = some next) :
    next.Unbroken := by
  cases label with
  | accept data alloc sealSeen =>
    obtain ⟨_, rfl⟩ := guarded_none stepped
    exact unbroken.accept (acceptWrite_spec ledger.fit data alloc sealSeen)
  | pump maxRounds byteBudget answers =>
    have kept : next.Ledger ∧ next.Gate ∧ next.Unbroken := by
      apply pumpWrites_invariant (fun state => state.Ledger ∧ state.Gate ∧ state.Unbroken) _ _
        ⟨ledger, gate, unbroken⟩ stepped
      · rintro state result bytes ⟨ledger, gate, unbroken⟩ fits
        have pumped := gate.sendRound ledger result fits
        exact ⟨pumped.ledger, pumped.gate, unbroken.sendRound ledger gate result fits⟩
      · intro state errno _ inside _ blocked interrupted
        have harmless := all_eq_true.mp smooth (.failed errno) inside
        simp [blocked, interrupted] at harmless
    exact kept.2.2
  | popTerminal =>
    cases stepped
    unfold tryPopTerminal
    cases s.pendingTerminal with
    | nil => exact unbroken
    | cons write later => exact unbroken.same rfl fun opened => opened
  | requestClose reason =>
    cases stepped
    unfold requestClose
    by_cases published : s.readClosedPublished = true
    · rw [if_pos published]
      exact unbroken
    · rw [if_neg published]
      refine ⟨unbroken.gaps, fun opened => unbroken.whole ?_⟩
      intro closed
      exact opened ((if_neg (by rw [closed]; decide)).trans closed)
  | markClosed reason =>
    cases stepped
    by_cases last : s.acceptance = .closed ∧ s.ops = [] ∧ s.readClosedPublished = true
    · rw [markClosed, if_pos last]
      exact unbroken
    · obtain ⟨_, _, records, closed, _⟩ := ledger.close reason last
      refine ⟨?_, fun opened => absurd closed opened⟩
      have same : ∀ op : AcceptedWrite,
          (if op.terminal then op else AcceptedWrite.cancel
            (if (if s.closeRequested then s.closeReason else reason).failed then
              (if s.closeRequested then s.closeReason else reason) else operationCanceled)
            op).sent = op.sent ∧
          (if op.terminal then op else AcceptedWrite.cancel
            (if (if s.closeRequested then s.closeReason else reason).failed then
              (if s.closeRequested then s.closeReason else reason) else operationCanceled)
            op).total = op.total := by
        intro op
        split <;> exact ⟨rfl, rfl⟩
      rw [records, settledRecords, pairwise_map]
      apply unbroken.gaps.imp
      intro earlier later gap short
      rw [(same earlier).1, (same earlier).2] at short
      rw [(same later).1]
      exact gap short
  | publishReadClosed =>
    obtain ⟨_, rfl⟩ := guarded_none stepped
    exact unbroken.same rfl fun opened => opened
  | sealService =>
    cases stepped
    exact unbroken.same rfl fun opened => opened

/-- A run in which the sink never fails for good leaves no gap. -/
theorem run_unbroken {labels : List WriteLabel} (run : writeMachine.Run labels s)
    (smooth : ∀ label ∈ labels, label.smooth = true) : s.Unbroken := by
  induction run with
  | start begun =>
    obtain ⟨outboundMax, maxOps, rfl⟩ := begun
    refine ⟨.nil, ?_⟩
    intro _ op inside
    cases inside
  | @step labels state label next before met stepped ih =>
    have unbroken := ih fun label inside => smooth label (mem_append_left _ inside)
    exact unbroken.step (reachable_ledger before.reachable) (reachable_gate before.reachable)
      (smooth label (by simp)) stepped

omit [CompletionBuffer] in
/-- Without a gap the sent bytes are a prefix of the bytes accepted. -/
theorem sentBytes_prefix {records : List AcceptedWrite}
    (gaps : records.Pairwise fun earlier later => earlier.sent < earlier.total → later.sent = 0)
    (bounded : ∀ op ∈ records, op.total = op.data.length) :
    records.flatMap AcceptedWrite.sentBytes <+: records.flatMap (·.data) := by
  induction records with
  | nil => exact prefix_refl _
  | cons op later ih =>
    rw [pairwise_cons] at gaps
    have rest := ih gaps.2 fun other inside => bounded other (mem_cons_of_mem _ inside)
    have total := bounded op mem_cons_self
    rw [flatMap_cons, flatMap_cons]
    by_cases short : op.sent < op.total
    · have none' : later.flatMap AcceptedWrite.sentBytes = [] := by
        rw [flatMap_eq_nil_iff]
        intro other inside
        rw [AcceptedWrite.sentBytes, gaps.1 other inside short, take_zero]
      rw [none', append_nil]
      exact ( take_prefix _ _).trans (prefix_append _ _)
    · rw [AcceptedWrite.sentBytes, take_of_length_le (by omega)]
      exact (prefix_append_right_inj op.data).mpr rest

/-- The sink gets of every accepted write the bytes counted as sent, in the order of acceptance,
and each write is settled once. -/
theorem writes_delivered {labels : List WriteLabel} (run : writeMachine.Run labels s) :
    s.handed = (s.records.flatMap fun op => op.data.take op.sent) ∧
    (∀ op ∈ s.records, op.total = op.data.length ∧ op.sent ≤ op.total ∧
      (op.terminal = false → op.sent + op.remaining = op.total) ∧
      (op.terminal = true → (op.error.failed = false ↔ op.sent = op.total)) ∧
      s.completions.filter (·.id = op.id) =
        if op.terminal then [⟨op.id, op.sent, op.error⟩] else []) ∧
    (∀ write ∈ s.completions, ∃ op ∈ s.records, write.id = op.id) ∧
    s.queue.totalBytes = ((s.ops.filterMap s.record).map (·.remaining)).sum ∧
    s.ops = (s.records.filter fun op => !op.terminal).map (·.id) ∧
    s.ops.length + s.pendingTerminal.length ≤ s.maxOps ∧
    (∀ label next, s.step label = some next →
      (next.records.map fun op => (op.id, op.data)) =
        (s.records.map fun op => (op.id, op.data)) ++ s.acceptedBy label) ∧
    ((∀ label ∈ labels, label.smooth = true) → s.handed <+: s.records.flatMap (·.data)) := by
  have ledger := reachable_ledger run.reachable
  have gate := reachable_gate run.reachable
  have booked := ledger.booked
  refine ⟨ledger.handed, ?_, ?_, ?_, booked.ops, booked.limited, ?_, ?_⟩
  · intro op inside
    have balanced := booked.balanced op inside
    refine ⟨balanced.total, ?_, fun active => (balanced.active active).1,
      fun terminal => (balanced.settled terminal).2, booked.completions inside⟩
    cases terminal : op.terminal with
    | false =>
      have counted := balanced.active terminal
      omega
    | true => exact (balanced.settled terminal).1
  · intro write inside
    have known := booked.completed.mem_iff.mp inside
    obtain ⟨op, member, rfl⟩ := mem_map.mp known
    exact ⟨op, mem_of_mem_filter member, rfl⟩
  · rw [booked.named, ledger.totalBytes, booked.unsentBytes_length]
  · intro label next stepped
    exact keys_step ledger gate stepped
  · intro smooth
    rw [ledger.handed]
    exact sentBytes_prefix (run_unbroken run smooth).gaps fun op inside =>
      (booked.balanced op inside).total

end

/-- Three writes, one of them empty, sent in part and closed. -/
theorem writes_delivered_part : ∃ s, writeMachine.Run
    [.accept [1, 2] .fine false, .accept [] .fine false, .accept [3, 4] .fine false,
      .pump 8 64 [.sent 3, .failed 4, .failed 11], .popTerminal, .markClosed .success] s ∧
    s.handed = (s.records.flatMap fun op => op.data.take op.sent) ∧ s.handed = [1, 2, 3] := by
  obtain ⟨s, ended, handed⟩ : ∃ s, writeMachine.exec (make 16 4)
      [.accept [1, 2] .fine false, .accept [] .fine false, .accept [3, 4] .fine false,
        .pump 8 64 [.sent 3, .failed 4, .failed 11], .popTerminal, .markClosed .success] = some s ∧
      s.handed = [1, 2, 3] := ⟨_, rfl, by decide +kernel⟩
  have begun : writeMachine.Run [] (make 16 4) := .start ⟨16, 4, rfl⟩
  have run := begun.append_exec ended
  exact ⟨s, run, (writes_delivered run).1, handed⟩

/-- After a failure of the sink that passes (`ENOBUFS`) the bytes of a later write follow a gap. -/
theorem failure_leaves_gap : ∃ s, writeMachine.Reachable s ∧
    ¬ s.handed <+: s.records.flatMap (·.data) := by
  obtain ⟨s, reachable, tested⟩ := Machine.exists_reachable (m := writeMachine)
    [.accept [1, 2] .fine false, .pump 8 64 [.sent 1, .failed 105], .accept [3] .fine false,
      .pump 8 64 [.sent 1]]
    (fun s => decide (¬ s.handed <+: s.records.flatMap (·.data))) ⟨16, 4, rfl⟩
    (by decide +kernel)
  exact ⟨s, reachable, of_decide_eq_true tested⟩

/-- Over a connection that loses, adds and reorders nothing, and while the sink does not fail for
good, the consumers at the far end are given the start of the writes that this end accepted. -/
theorem connection_delivers [CompletionBuffer] {s : WriteSide} {labels : List WriteLabel}
    {far : ReadSide} {maxBytes : Nat}
    (wrote : writeMachine.Run labels s) (smooth : ∀ label ∈ labels, label.smooth = true)
    (reads : (readMachine maxBytes).Reachable far) (carried : far.received <+: s.handed) :
    far.delivered <+: s.records.flatMap (·.data) := by
  have ledger := reachable_ledger wrote.reachable
  have gaps := (run_unbroken wrote smooth).gaps
  have given : far.delivered <+: far.received := by
    simp [(ReadSide.reachable_sound reads).stored.order]
  rw [ledger.handed] at carried
  apply (given.trans carried).trans
  exact sentBytes_prefix gaps fun op inside => (ledger.booked.balanced op inside).total

/-- Two bytes are written, and one of them is consumed. -/
theorem connection_delivers_one : ∃ (near : WriteSide) (far : ReadSide), far.delivered = [1] ∧
    far.delivered <+: near.records.flatMap (·.data) := by
  obtain ⟨near, ended, handed⟩ : ∃ s, writeMachine.exec (make 16 4)
      [.accept [1, 2] .fine false, .pump 8 64 [.sent 2]] = some s ∧ s.handed = [1, 2] :=
    ⟨_, rfl, by decide +kernel⟩
  have begun : writeMachine.Run [] (make 16 4) := .start ⟨16, 4, rfl⟩
  obtain ⟨far, reads, tested⟩ := Machine.exists_reachable (m := readMachine 8)
    ([.pumpAll] ++ replicate 6 (.owner false false .again) ++
      [.owner false false (.data [1, 2]), .owner false false .again, .lock .access] ++
      replicate 5 (.advance false) ++ [.consume 1])
    (fun s => decide (s.received = [1, 2] ∧ s.delivered = [1])) rfl (by decide +kernel)
  obtain ⟨received, one⟩ := of_decide_eq_true tested
  exact ⟨near, far, one, connection_delivers (begun.append_exec ended) (by decide) reads
    (by rw [received, handed])⟩

end WriteSide

end BbtInfra.Net
