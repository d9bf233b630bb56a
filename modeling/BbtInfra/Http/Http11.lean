import BbtInfra.Net.CoWrite

/-!
# The wire layer of the HTTP client

`Http11Connection` writes a request and reads the response. It says of every failure how far the
request got: before the last byte was handed over it is `Writing`, from then on
`RequestCommitted`.
-/
namespace BbtInfra.Http

open Rpc (WritePhase WriteOutcome)

/-- `CallError`. -/
def callError (cause : StdErrorCode) (message : String) (committed : Bool) : Error :=
  let error := netToError cause (text ("http client: " ++ message))
  let error := if committed then { error with requestPhase := some .requestCommitted } else error
  if error.code ≠ .cancelled ∧ committed then { error with code := .outcomeUnknown } else error

/-- An error behind the last byte says that the request is committed and, unless it was cancelled,
that its outcome is unknown. -/
theorem callError_committed (cause : StdErrorCode) (message : String) :
    (callError cause message true).requestPhase = some .requestCommitted ∧
      ((callError cause message true).code ≠ .cancelled →
        (callError cause message true).code = .outcomeUnknown) := by
  unfold callError
  by_cases cancelled : netBaseErrorCode cause = .cancelled
  · rw [if_neg fun both => both.1 cancelled]
    exact ⟨rfl, fun other => absurd cancelled other⟩
  · rw [if_pos ⟨cancelled, rfl⟩]
    exact ⟨rfl, fun _ => rfl⟩

/-- `ProtocolError`. -/
def protocolError (message : Bytes) : Error :=
  { makeError .protocolError (text "http client: " ++ message) with
    requestPhase := some .requestCommitted }

/-- `WriteRequest` behind the write. -/
def settleWrite (report : Rpc.WriteReport) : Except Error Unit :=
  let outcome := report.outcome
  if !report.waitError.failed && outcome.phase = .done && !outcome.error.failed then .ok ()
  else
    let committed := outcome.phase = .done && !outcome.error.failed
    let cause := if report.waitError.failed then report.waitError else outcome.error
    let failure := callError cause "write did not complete" committed
    if committed then .error failure
    else
      let failure := { failure with requestPhase := some .writing }
      .error (if report.operationValid ∧ outcome.phase = .inFlight ∧ failure.code ≠ .cancelled
        then { failure with code := .outcomeUnknown } else failure)

end BbtInfra.Http
