import BbtInfra.Http.Http11

/-!
# What a failed write means

The RPC transport and the HTTP client classify the report of a write each on its own. The report
holds how the wait has ended and a sample that was taken later, so a wait that timed out may come
with a write that is complete.
-/
namespace BbtInfra.Rpc

open Lib Net

/-- The write was sampled as complete: every byte was handed over. -/
def WriteReport.Whole (report : WriteReport) : Prop :=
  report.outcome.phase = .done ∧ report.outcome.error.failed = false

/-- The wait has failed and the write was sampled as complete. -/
def WriteReport.LateDone (report : WriteReport) : Prop :=
  report.waitError.failed = true ∧ report.Whole

/-- What the caller learns of a write: an error behind a complete write says that the request is
committed, and one of a write in flight that its outcome is unknown. -/
structure Truthful (report : WriteReport) (settled : Except Error Unit) : Prop where
  whole : report.Whole → ∀ error, settled = .error error →
    error.requestPhase = some .requestCommitted ∧
      (error.code ≠ .cancelled → error.code = .outcomeUnknown)
  flight : report.outcome.phase = .inFlight → ∃ error, settled = .error error ∧
    (error.code = .outcomeUnknown ∨ error.code = .cancelled)

/-- How a result is classified: its error code and the phase of the request. -/
def classification : Except Error Unit → Option (ErrorCode × Option RequestPhase)
  | .ok () => none
  | .error error => some (error.code, error.requestPhase)

variable {report : WriteReport} {message : String}

/-- A report that is not late is of a write whose settlement says that it is complete, or it is
not complete. -/
theorem settled_of_whole (late : ¬report.LateDone) (whole : report.Whole) :
    report.settled = true := by
  have waited : report.waitError.failed = false := by
    by_contra failed
    exact late ⟨by simpa using failed, whole⟩
  unfold WriteReport.settled
  rw [waited, whole.1, whole.2]
  rfl

/-- What is settled was complete and its wait had no error. -/
theorem of_settled (settled : report.settled = true) :
    report.waitError.failed = false ∧ report.Whole := by
  unfold WriteReport.settled at settled
  simp only [Bool.and_eq_true, Bool.not_eq_true', decide_eq_true_eq] at settled
  exact ⟨settled.1.1, settled.1.2, settled.2⟩

/-- A late report is not settled. -/
theorem WriteReport.LateDone.unsettled (late : report.LateDone) : ¬report.settled = true := by
  intro settled
  have waited := (of_settled settled).1
  rw [late.1] at waited
  cases waited

/-- A complete write is not in flight. -/
theorem WriteReport.Whole.landed (whole : report.Whole) : report.outcome.phase ≠ .inFlight := by
  rw [whole.1]
  decide

/-- Why a write was not complete, as far as the report tells. -/
def WriteReport.cause (report : WriteReport) : StdErrorCode :=
  if report.waitError.failed then report.waitError else report.outcome.error

/-- The write is still under way, and nobody asked to cancel it. -/
def WriteReport.Open (report : WriteReport) : Prop :=
  report.operationValid = true ∧ report.outcome.phase = .inFlight ∧
    netBaseErrorCode report.cause ≠ .cancelled

instance : Decidable report.Open := by
  unfold WriteReport.Open
  infer_instance

/-- The code that both transports give a write that is not complete. -/
def failureCode (report : WriteReport) : ErrorCode :=
  if report.Open then .outcomeUnknown else netBaseErrorCode report.cause

/-- How the RPC transport classifies a report. -/
theorem tcpSettleWrite_class : classification (tcpSettleWrite report message) =
    if report.settled then none else some (failureCode report, some .writing) := by
  unfold tcpSettleWrite failureCode
  by_cases settled : report.settled = true
  · rw [if_pos settled, if_pos settled]
    rfl
  · rw [if_neg settled, if_neg settled]
    by_cases open' : report.Open
    · rw [if_pos open']
      exact congrArg (fun error => classification (.error error)) (if_pos open')
    · rw [if_neg open']
      exact congrArg (fun error => classification (.error error)) (if_neg open')

/-- How the HTTP client classifies the report of a write that is not complete. -/
theorem settleWrite_failed (incomplete : ¬report.Whole) :
    classification (Http.settleWrite report) = some (failureCode report, some .writing) := by
  have committed : (decide (report.outcome.phase = .done) && !report.outcome.error.failed) =
      false := by
    by_contra both
    simp only [Bool.not_eq_false, Bool.and_eq_true, decide_eq_true_eq, Bool.not_eq_true'] at both
    exact incomplete both
  have unsettled : (!report.waitError.failed && decide (report.outcome.phase = .done) &&
      !report.outcome.error.failed) = false := by
    rw [Bool.and_assoc, committed, Bool.and_false]
  unfold Http.settleWrite failureCode
  dsimp only
  rw [unsettled, committed, if_neg Bool.false_ne_true, if_neg Bool.false_ne_true]
  have plain : (Http.callError report.cause "write did not complete" false).code =
      netBaseErrorCode report.cause := by
    unfold Http.callError
    rw [if_neg fun both => Bool.false_ne_true both.2]
    rfl
  by_cases open' : report.Open
  · rw [if_pos open']
    have flight := open'
    unfold WriteReport.Open at flight
    rw [← plain] at flight
    exact congrArg (fun error => classification (.error error)) (if_pos flight)
  · rw [if_neg open', ← plain]
    have rest := open'
    unfold WriteReport.Open at rest
    rw [← plain] at rest
    exact congrArg (fun error => classification (.error error)) (if_neg rest)

/-- How the HTTP client classifies a complete write behind a failed wait. -/
theorem settleWrite_late (late : report.LateDone) : ∃ error,
    Http.settleWrite report = .error error ∧ error.requestPhase = some .requestCommitted ∧
      (error.code ≠ .cancelled → error.code = .outcomeUnknown) := by
  obtain ⟨failed, done, fine⟩ := late
  refine ⟨Http.callError report.waitError "write did not complete" true, ?_,
    Http.callError_committed _ _⟩
  unfold Http.settleWrite
  simp only [failed, done, fine, Bool.not_true, Bool.false_and, Bool.false_eq_true, if_false,
    decide_true, Bool.not_false, Bool.and_self, if_true]

/-- A result that is classified with an error is one. -/
theorem of_classification {settled : Except Error Unit} {code : ErrorCode}
    {phase : Option RequestPhase} (same : classification settled = some (code, phase)) :
    ∃ error, settled = .error error ∧ error.code = code ∧ error.requestPhase = phase := by
  cases settled with
  | ok done => cases same
  | error error =>
    cases same
    exact ⟨error, rfl, rfl, rfl⟩

/-- The code of a write in flight that was accepted. -/
theorem failureCode_flight (valid : report.operationValid = true)
    (flight : report.outcome.phase = .inFlight) :
    failureCode report = .outcomeUnknown ∨ failureCode report = .cancelled := by
  unfold failureCode
  by_cases open' : report.Open
  · rw [if_pos open']
    exact .inl rfl
  · rw [if_neg open']
    right
    by_contra other
    exact open' ⟨valid, flight, other⟩

section

variable {data : Bytes} (sampled : Sampled data report)

include sampled

/-- A write that is not complete is classified truthfully as `Writing`. -/
theorem truthful_writing {settled : Except Error Unit} (incomplete : ¬report.Whole)
    (same : classification settled = some (failureCode report, some .writing)) :
    Truthful report settled := by
  obtain ⟨error, failed, code, -⟩ := of_classification same
  refine ⟨fun whole => absurd whole incomplete, fun flight => ⟨error, failed, ?_⟩⟩
  rw [code]
  apply failureCode_flight _ flight
  by_contra invalid
  have rejected := (sampled.submitted (by simpa using invalid)).1
  rw [flight] at rejected
  cases rejected

/-- The HTTP client classifies every report truthfully. -/
theorem settleWrite_truthful : Truthful report (Http.settleWrite report) := by
  by_cases whole : report.Whole
  · refine ⟨fun _ error failed => ?_, fun flight => absurd flight whole.landed⟩
    by_cases late : report.LateDone
    · obtain ⟨other, same, facts⟩ := settleWrite_late late
      rw [failed] at same
      cases same
      exact facts
    · have settled := settled_of_whole late whole
      unfold WriteReport.settled at settled
      unfold Http.settleWrite at failed
      rw [if_pos settled] at failed
      cases failed
  · exact truthful_writing sampled whole (settleWrite_failed whole)

/-- The RPC transport classifies a report truthfully unless it is late. -/
theorem tcpSettleWrite_truthful :
    Truthful report (tcpSettleWrite report message) ↔ ¬report.LateDone := by
  have class' : classification (tcpSettleWrite report message) =
      if report.settled then none else some (failureCode report, some .writing) :=
    tcpSettleWrite_class
  constructor
  · rintro truthful late
    rw [if_neg late.unsettled] at class'
    obtain ⟨error, failed, -, phase⟩ := of_classification class'
    have committed := (truthful.whole late.2 error failed).1
    rw [phase] at committed
    cases committed
  · intro late
    by_cases whole : report.Whole
    · have settled := settled_of_whole late whole
      unfold tcpSettleWrite
      rw [if_pos settled]
      refine ⟨fun _ error failed => ?_, fun flight => absurd flight whole.landed⟩
      cases failed
    · apply truthful_writing sampled whole
      rw [class', if_neg fun settled => whole (of_settled settled).2]

end

/-- Both transports classify a report alike unless it is late. -/
theorem classification_alike : classification (tcpSettleWrite report message) =
    classification (Http.settleWrite report) ↔ ¬report.LateDone := by
  rw [tcpSettleWrite_class]
  constructor
  · rintro alike late
    obtain ⟨error, failed, phase, _⟩ := settleWrite_late late
    rw [if_neg late.unsettled, failed] at alike
    have same := congrArg (Option.map Prod.snd) alike
    simp only [classification, Option.map_some, phase] at same
    cases same
  · intro late
    by_cases whole : report.Whole
    · have settled := settled_of_whole late whole
      rw [if_pos settled]
      unfold WriteReport.settled at settled
      unfold Http.settleWrite
      rw [if_pos settled]
      rfl
    · rw [if_neg fun settled => whole (of_settled settled).2, settleWrite_failed whole]

/-- Whatever the owner does while a coroutine writes, the HTTP client classifies the report of the
write truthfully, and the RPC transport does and agrees with it unless the write was completed
between the end of a failed wait and the sample. -/
theorem write_settled [CompletionBuffer] {labels : List CoWriteLabel} {s : CoWrites}
    {i : Nat} {call : CoWriteCall}
    (run : coWriteMachine.Run labels s) (found : s.calls[i]? = some call)
    (returned : call.pc = .returned report) (message : String) :
    (report.Whole → report.outcome.sent = call.data.length) ∧
    Truthful report (Http.settleWrite report) ∧
    (Truthful report (tcpSettleWrite report message) ↔ ¬report.LateDone) ∧
    ∀ other : WriteReport, classification (tcpSettleWrite other message) =
      classification (Http.settleWrite other) ↔ ¬other.LateDone := by
  have sampled := CoWrites.reachable_sampled run.reachable found returned
  refine ⟨fun whole => sampled.whole whole.1 whole.2, settleWrite_truthful sampled,
    tcpSettleWrite_truthful sampled, fun other => classification_alike⟩

/-- The report of a write in flight whose wait has timed out. -/
def reportInFlight : WriteReport where
  waitError := .generic 110
  outcome := { phase := .inFlight, sent := 1 }
  operationValid := true

/-- The report of a complete write whose wait has timed out. -/
def reportLate : WriteReport where
  waitError := .generic 110
  outcome := { phase := .done, sent := 2 }
  operationValid := true

/-- A write of which one byte is taken before its wait times out. -/
theorem write_settled_flight : ∃ s, coWriteMachine.Reachable s ∧
    s.calls[0]? = some ⟨[1, 2], .returned reportInFlight⟩ ∧
    Truthful reportInFlight (tcpSettleWrite reportInFlight "request write did not complete") := by
  have begun : coWriteMachine.start { side := WriteSide.make 16 4 } := ⟨16, 4, rfl⟩
  obtain ⟨s, ⟨labels, run⟩, ended⟩ := Machine.exists_reachable
    [.call [1, 2], .act 0 (.context true true), .act 0 (.accept .fine false),
      .act 0 (.context true true), .act 0 .queried, .side (.pump 8 64 [.sent 1, .failed 11]),
      .act 0 (.waited .timedOut), .act 0 .queried]
    (fun s : CoWrites =>
      decide (s.calls[0]? = some (⟨[1, 2], .returned reportInFlight⟩ : CoWriteCall))) begun
    (by decide +kernel)
  have found := of_decide_eq_true ended
  have settled := write_settled run found rfl "request write did not complete"
  exact ⟨s, ⟨labels, run⟩, found, settled.2.2.1.mpr fun late => by cases late.2.1⟩

/-- The last byte is taken between the end of a wait that timed out and the sample, and the RPC
transport reports a plain time-out of a request that is still being written. -/
theorem write_settled_fails : ∃ s, coWriteMachine.Reachable s ∧
    s.calls[0]? = some ⟨[1, 2], .returned reportLate⟩ ∧
    ¬Truthful reportLate (tcpSettleWrite reportLate "request write did not complete") := by
  have begun : coWriteMachine.start { side := WriteSide.make 16 4 } := ⟨16, 4, rfl⟩
  obtain ⟨s, reachable, ended⟩ := Machine.exists_reachable
    [.call [1, 2], .act 0 (.context true true), .act 0 (.accept .fine false),
      .act 0 (.context true true), .act 0 .queried, .act 0 (.waited .timedOut),
      .side (.pump 8 64 [.sent 2, .failed 11]), .act 0 .queried]
    (fun s : CoWrites =>
      decide (s.calls[0]? = some (⟨[1, 2], .returned reportLate⟩ : CoWriteCall))) begun
    (by decide +kernel)
  refine ⟨s, reachable, of_decide_eq_true ended, fun truthful => ?_⟩
  have committed := (truthful.whole ⟨rfl, rfl⟩ _ rfl).1
  cases committed

end BbtInfra.Rpc
