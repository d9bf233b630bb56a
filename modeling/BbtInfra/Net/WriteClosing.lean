import BbtInfra.Net.WriteLedger

/-!
# The end of acceptance

`RequestClose`, `MarkClosed`, `FailCurrentLocked` and the service seal move the acceptance of
writes. The intent to close is kept apart from it and is never taken back; a failure of the sink
opens acceptance again only while there is no intent.
-/
namespace BbtInfra.Net

open Lib

/-- The reason a step gives for a close. -/
def WriteLabel.closeReason : WriteLabel → Option StdErrorCode
  | .requestClose reason | .markClosed reason => some reason
  | _ => none

/-- The reason of the first request to close. -/
def firstReason (labels : List WriteLabel) : Option StdErrorCode :=
  labels.findSome? WriteLabel.closeReason

namespace WriteSide

/-- How acceptance, the intent to close and the active writes go together. -/
structure Gate (s : WriteSide) : Prop where
  closed : s.acceptance = .closed → s.ops = []
  requested : s.closeRequested = true → s.acceptance ≠ .open'
  published : s.readClosedPublished = true ∨ 0 < s.publishing → s.closeRequested = true

/-- What the pump leaves of the state before it. -/
structure Pumped (s next : WriteSide) : Prop where
  ledger : next.Ledger
  gate : next.Gate
  final : s.Final next
  requested : next.closeRequested = s.closeRequested
  reason : next.closeReason = s.closeReason
  closed : s.acceptance = .closed → next.acceptance = .closed

section

variable [CompletionBuffer] {s next : WriteSide}

/-- A round of the pump moves no acceptance. -/
theorem Gate.sendRound (gate : s.Gate) (ledger : s.Ledger) (result : SendResult) {bytes : Nat}
    (fits : bytes ≤ (s.queue.gatherViews kMaxViews).flatten.length) :
    s.Pumped (s.sendRound result (s.queue.gatherViews kMaxViews) bytes).2 := by
  have idle : s.ops = [] →
      (s.sendRound result (s.queue.gatherViews kMaxViews) bytes).2.ops = [] := by
    intro none'
    rw [WriteSide.sendRound, none', attributeSentLocked]
  obtain ⟨kept, final, _, shape⟩ := ledger.sendRound result fits
  generalize (s.sendRound result (s.queue.gatherViews kMaxViews) bytes).2 = next at *
  have acceptance : next.acceptance = s.acceptance := by rw [shape]
  have requested : next.closeRequested = s.closeRequested := by rw [shape]
  refine ⟨kept, ⟨?_, ?_, ?_⟩, final, requested, by rw [shape], acceptance.trans⟩
  · intro closed
    exact idle (gate.closed (acceptance.symm.trans closed))
  · rw [acceptance, requested]
    exact gate.requested
  · rw [shape]
    exact gate.published

/-- A failure of the sink opens acceptance only without an intent to close. -/
theorem Gate.failCurrentLocked (gate : s.Gate) (ledger : s.Ledger) {errno : Int}
    (failed : errno ≠ 0) : s.Pumped (s.failCurrentLocked (.system errno)) := by
  by_cases none' : s.ops = []
  · rw [WriteSide.failCurrentLocked, if_pos none']
    exact ⟨ledger, gate, .refl s, rfl, rfl, fun closed => closed⟩
  obtain ⟨kept, idle, records, acceptance, requested, reason, published, publishing⟩ :=
    ledger.fail failed none'
  refine ⟨kept, ⟨fun _ => idle, ?_, ?_⟩, (settlement_fail failed).final records, requested, reason,
    ?_⟩
  · intro intent
    rw [acceptance, if_pos (requested.symm.trans intent)]
    decide
  · rw [published, publishing, requested]
    exact gate.published
  · intro closed
    exact absurd (gate.closed closed) none'

/-- A call of the pump. -/
theorem Gate.pumpWrites (gate : s.Gate) (ledger : s.Ledger) {answers : List SinkAnswer}
    {maxRounds byteBudget : Nat}
    (pumped : (s.pumpWrites maxRounds byteBudget answers).map Prod.snd = some next) :
    s.Pumped next := by
  have trans : ∀ {middle last : WriteSide}, s.Pumped middle → middle.Pumped last →
      s.Pumped last := by
    intro middle last first second
    refine ⟨second.ledger, second.gate, first.final.trans second.final,
      second.requested.trans first.requested, second.reason.trans first.reason, ?_⟩
    intro closed
    exact second.closed (first.closed closed)
  have begun : s.Pumped s := ⟨ledger, gate, .refl s, rfl, rfl, fun closed => closed⟩
  apply pumpWrites_invariant s.Pumped _ _ begun pumped
  · intro middle result bytes first fits
    exact trans first (first.gate.sendRound first.ledger result fits)
  · intro middle errno first _ failed _ _
    exact trans first (first.gate.failCurrentLocked first.ledger failed)

/-- What a step leaves of the state before it, besides the writes it accepts. -/
structure Stepped (s : WriteSide) (label : WriteLabel) (next : WriteSide) : Prop where
  gate : next.Gate
  terminal : ∀ op ∈ s.records, op.terminal = true → op ∈ next.records
  /-- The intent is there with the first reason. -/
  requested : next.closeRequested = (s.closeRequested || label.closeReason.isSome)
  reason : next.closeRequested = true →
    next.closeReason = if s.closeRequested then s.closeReason
      else label.closeReason.getD s.closeReason
  closed : s.acceptance = .closed → next.acceptance = .closed

omit [CompletionBuffer] in
/-- A step that asks for no close leaves the intent and the reason. -/
theorem Stepped.quiet {label : WriteLabel} (quiet : label.closeReason = none) (gate : next.Gate)
    (terminal : ∀ op ∈ s.records, op.terminal = true → op ∈ next.records)
    (requested : next.closeRequested = s.closeRequested)
    (reason : next.closeReason = s.closeReason)
    (closed : s.acceptance = .closed → next.acceptance = .closed) : s.Stepped label next := by
  refine ⟨gate, terminal, ?_, ?_, closed⟩
  · rw [requested, quiet, Option.isSome_none, Bool.or_false]
  · intro _
    rw [reason, quiet, Option.getD_none, ite_self]

omit [CompletionBuffer] in
/-- `AcceptWrite` moves no acceptance. -/
theorem Gate.accept (gate : s.Gate) {data : Bytes} {answer : StdErrorCode × WriteSide}
    (accepting : s.Accepting data answer)
    (passed : answer.1.failed = false → s.closeRequested = false ∧ s.acceptance = .open') :
    answer.2.Gate ∧ (∀ op ∈ s.records, op ∈ answer.2.records) ∧
      answer.2.closeRequested = s.closeRequested ∧ answer.2.closeReason = s.closeReason ∧
      answer.2.acceptance = s.acceptance := by
  cases accepting with
  | refused used failed less =>
    exact ⟨⟨gate.closed, gate.requested, gate.published⟩, fun _ inside => inside, rfl, rfl, rfl⟩
  | empty nothing room =>
    exact ⟨⟨gate.closed, gate.requested, gate.published⟩,
      fun _ inside => List.mem_append_left _ inside, rfl, rfl, rfl⟩
  | taken some' room fitted bytes limit =>
    refine ⟨⟨?_, gate.requested, gate.published⟩,
      fun _ inside => List.mem_append_left _ inside, rfl, rfl, rfl⟩
    intro closed
    have opened := (passed rfl).2
    rw [show s.acceptance = .closed from closed] at opened
    cases opened

/-- Every step goes on from the state before it. -/
theorem Gate.step (gate : s.Gate) (ledger : s.Ledger) {label : WriteLabel}
    (stepped : s.step label = some next) : s.Stepped label next := by
  cases label with
  | accept data alloc sealSeen =>
    simp only [WriteSide.step, Option.ite_none_left_eq_some, Option.some.injEq] at stepped
    have passed : (s.acceptWrite data alloc sealSeen).1.failed = false →
        s.closeRequested = false ∧ s.acceptance = .open' := by
      intro success
      cases refusal : s.acceptRefusal sealSeen with
      | none => exact ⟨(acceptRefusal_none refusal).2.1, (acceptRefusal_none refusal).2.2.1⟩
      | some error =>
        rw [acceptWrite, refusal] at success
        rw [acceptRefusal_failed refusal] at success
        cases success
    obtain ⟨after, records, requested, reason, acceptance⟩ :=
      gate.accept (acceptWrite_spec ledger.fit data alloc sealSeen) passed
    rw [← stepped.2]
    exact .quiet rfl after (fun op inside _ => records op inside) requested reason acceptance.trans
  | pump maxRounds byteBudget answers =>
    have pumped := gate.pumpWrites ledger stepped
    exact .quiet rfl pumped.gate pumped.final.terminal pumped.requested pumped.reason pumped.closed
  | popTerminal =>
    cases stepped
    have same : s.tryPopTerminal.2 = { s with
        pendingTerminal := s.tryPopTerminal.2.pendingTerminal
        popped := s.tryPopTerminal.2.popped } := by
      unfold tryPopTerminal
      cases s.pendingTerminal <;> rfl
    rw [same]
    exact .quiet rfl ⟨gate.closed, gate.requested, gate.published⟩ (fun _ inside _ => inside) rfl
      rfl fun closed => closed
  | requestClose reason =>
    cases stepped
    unfold WriteSide.requestClose
    by_cases published : s.readClosedPublished = true
    · have intent := gate.published (.inl published)
      rw [if_pos published]
      refine ⟨gate, fun _ inside _ => inside, ?_, ?_, fun closed => closed⟩
      · rw [intent, Bool.true_or]
      · intro _
        rw [if_pos intent]
    · rw [if_neg published]
      refine ⟨⟨?_, ?_, fun _ => rfl⟩, fun _ inside _ => inside, ?_, fun _ => rfl, ?_⟩
      · intro closed
        apply gate.closed
        by_cases opened : s.acceptance = .open'
        · rw [if_pos opened] at closed
          cases closed
        · rw [if_neg opened] at closed
          exact closed
      · intro _ same
        by_cases opened : s.acceptance = .open'
        · rw [if_pos opened] at same
          cases same
        · rw [if_neg opened] at same
          exact opened same
      · exact (Bool.or_true _).symm
      · intro closed
        exact (if_neg (by rw [closed]; decide)).trans closed
  | markClosed reason =>
    cases stepped
    by_cases last : s.acceptance = .closed ∧ s.ops = [] ∧ s.readClosedPublished = true
    · have intent := gate.published (.inl last.2.2)
      rw [WriteSide.markClosed, if_pos last]
      refine ⟨gate, fun _ inside _ => inside, ?_, ?_, fun closed => closed⟩
      · rw [intent, Bool.true_or]
      · intro _
        rw [if_pos intent]
    · obtain ⟨_, idle, records, acceptance, requested, reason'⟩ := ledger.close reason last
      refine ⟨⟨fun _ => idle, ?_, fun _ => requested⟩,
        ((settlement_cancel _).final records).terminal, ?_, fun _ => reason', fun _ => acceptance⟩
      · intro _
        rw [acceptance]
        decide
      · rw [requested]
        exact (Bool.or_true _).symm
  | publishReadClosed =>
    simp only [WriteSide.step, Option.ite_none_left_eq_some, Option.some.injEq] at stepped
    have intent := gate.published (.inr (Nat.pos_of_ne_zero stepped.1))
    rw [← stepped.2]
    exact .quiet rfl ⟨gate.closed, gate.requested, fun _ => intent⟩ (fun _ inside _ => inside) rfl
      rfl fun closed => closed
  | sealService =>
    cases stepped
    exact .quiet rfl ⟨gate.closed, gate.requested, gate.published⟩ (fun _ inside _ => inside) rfl
      rfl fun closed => closed

/-- Every reachable state keeps the gate. -/
theorem reachable_gate (reachable : writeMachine.Reachable s) : s.Gate := by
  obtain ⟨labels, run⟩ := reachable
  apply run.reachableInvariant Gate
  · rintro state ⟨outboundMax, maxOps, rfl⟩
    refine ⟨?_, ?_, ?_⟩
    · intro closed
      cases closed
    · intro intent
      cases intent
    · rintro (published | publishing)
      · cases published
      · exact absurd publishing (Nat.lt_irrefl 0)
  · intro state label next reachable gate _ stepped
    exact (gate.step (reachable_ledger reachable) stepped).gate

/-- The intent to close and its reason are the first request's. -/
theorem run_closeReason {labels : List WriteLabel} (run : writeMachine.Run labels s) :
    s.closeRequested = (firstReason labels).isSome ∧
      ∀ reason, firstReason labels = some reason → s.closeReason = reason := by
  induction run with
  | start begun =>
    obtain ⟨outboundMax, maxOps, rfl⟩ := begun
    refine ⟨rfl, ?_⟩
    intro reason first
    cases first
  | @step labels state label next before met stepped ih =>
    have reachable := before.reachable
    have after := (reachable_gate reachable).step (reachable_ledger reachable) stepped
    have split : firstReason (labels ++ [label]) = (firstReason labels).or label.closeReason := by
      rw [firstReason, List.findSome?_append, List.findSome?_singleton, firstReason]
    cases first : firstReason labels with
    | some reason =>
      rw [first] at split
      have intent : state.closeRequested = true := by rw [ih.1, first, Option.isSome_some]
      have requested := after.requested
      rw [intent, Bool.true_or] at requested
      rw [split, requested]
      refine ⟨rfl, ?_⟩
      intro other same
      cases same
      rw [after.reason requested, if_pos intent]
      exact ih.2 reason first
    | none =>
      rw [first, Option.none_or] at split
      have intent : state.closeRequested = false := by rw [ih.1, first, Option.isSome_none]
      have requested := after.requested
      rw [intent, Bool.false_or] at requested
      rw [split]
      refine ⟨requested, ?_⟩
      intro reason given
      rw [given, Option.isSome_some] at requested
      rw [after.reason requested, intent, given]
      rfl

omit [CompletionBuffer] in
/-- When acceptance is closed every write is terminal, without an error exactly if all of it was
sent. -/
theorem Gate.settled (gate : s.Gate) (ledger : s.Ledger) (closed : s.acceptance = .closed)
    {op : AcceptedWrite} (inside : op ∈ s.records) :
    op.terminal = true ∧ (op.error.failed = false ↔ op.sent = op.total) := by
  have named := ledger.booked.ops
  rw [gate.closed closed] at named
  have none' : s.active = [] := List.map_eq_nil_iff.mp named.symm
  have terminal : op.terminal = true := by
    simpa using List.filter_eq_nil_iff.mp none' op inside
  exact ⟨terminal, ((ledger.booked.balanced op inside).settled terminal).2⟩

/-- `MarkClosed` settles every unfinished write with an error. -/
theorem Gate.cancelled (gate : s.Gate) (ledger : s.Ledger) (reason : StdErrorCode)
    {op : AcceptedWrite} (inside : op ∈ s.records) (active : op.terminal = false) :
    ∃ settled ∈ (s.markClosed reason).records, settled.id = op.id ∧ settled.data = op.data ∧
      settled.sent = op.sent ∧ settled.terminal = true ∧ settled.error.failed = true := by
  by_cases last : s.acceptance = .closed ∧ s.ops = [] ∧ s.readClosedPublished = true
  · have terminal := (gate.settled ledger last.1 inside).1
    rw [active] at terminal
    cases terminal
  · obtain ⟨_, _, records, _⟩ := ledger.close reason last
    have settlement := settlement_cancel (if s.closeRequested then s.closeReason else reason)
    rw [records]
    refine ⟨_, List.mem_map_of_mem inside, ?_⟩
    rw [if_neg (by rw [active]; decide)]
    exact ⟨rfl, rfl, rfl, rfl, settlement.1⟩

/-- The life of the acceptance of writes: closed once it is closed and with no active write, the
first request to close decides, and what is settled stays settled. -/
theorem acceptance_lifecycle {labels : List WriteLabel} (run : writeMachine.Run labels s) :
    (s.acceptance = .closed → s.ops = [] ∧ ∀ op ∈ s.records,
      op.terminal = true ∧ (op.error.failed = false ↔ op.sent = op.total)) ∧
    (∀ reason, firstReason labels = some reason →
      s.closeReason = reason ∧ s.acceptance ≠ .open' ∧
      ∀ data alloc sealSeen, (s.acceptWrite data alloc sealSeen).1.failed = true ∧
        (s.acceptWrite data alloc sealSeen).2 = s) ∧
    (∀ label next, s.step label = some next →
      (s.acceptance = .closed → next.acceptance = .closed) ∧
      (∀ op ∈ s.records, op.terminal = true → op ∈ next.records)) ∧
    ∀ reason, (s.markClosed reason).acceptance = .closed ∧
      ∀ op ∈ s.records, op.terminal = false →
        ∃ settled ∈ (s.markClosed reason).records, settled.id = op.id ∧ settled.data = op.data ∧
          settled.sent = op.sent ∧ settled.terminal = true ∧ settled.error.failed = true := by
  have ledger := reachable_ledger run.reachable
  have gate := reachable_gate run.reachable
  refine ⟨?_, ?_, ?_, ?_⟩
  · intro closed
    exact ⟨gate.closed closed, fun op inside => gate.settled ledger closed inside⟩
  · intro reason first
    obtain ⟨requested, given⟩ := run_closeReason run
    rw [first, Option.isSome_some] at requested
    refine ⟨given reason first, gate.requested requested, ?_⟩
    intro data alloc sealSeen
    have refused : s.acceptRefusal sealSeen = some netClosed := by
      rw [acceptRefusal, requested]
      simp
    rw [acceptWrite, refused]
    exact ⟨rfl, rfl⟩
  · intro label next stepped
    have after := gate.step ledger stepped
    exact ⟨after.closed, after.terminal⟩
  · intro reason
    refine ⟨?_, fun op inside active => gate.cancelled ledger reason inside active⟩
    by_cases last : s.acceptance = .closed ∧ s.ops = [] ∧ s.readClosedPublished = true
    · rw [markClosed, if_pos last]
      exact last.1
    · exact (ledger.close reason last).2.2.2.1

end

/-- A failure of the sink, two requests to close and the close. -/
theorem acceptance_lifecycle_twice : ∃ s, writeMachine.Run
    [.accept [1, 2] .fine false, .pump 8 64 [.failed 32], .accept [3] .fine false,
      .requestClose (.net 1), .requestClose .success, .markClosed (.net 6)] s ∧
    s.closeReason = .net 1 ∧ s.acceptance ≠ .open' := by
  obtain ⟨s, ended⟩ : ∃ s, writeMachine.exec (make 16 4)
      [.accept [1, 2] .fine false, .pump 8 64 [.failed 32], .accept [3] .fine false,
        .requestClose (.net 1), .requestClose .success, .markClosed (.net 6)] = some s := ⟨_, rfl⟩
  have begun : writeMachine.Run [] (make 16 4) := .start ⟨16, 4, rfl⟩
  have run := begun.append_exec ended
  have life := (acceptance_lifecycle run).2.1 (.net 1) rfl
  exact ⟨s, run, life.1, life.2.1⟩

end WriteSide

end BbtInfra.Net
