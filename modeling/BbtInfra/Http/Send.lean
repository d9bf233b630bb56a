import BbtInfra.Http.Pool
import BbtInfra.Rpc.WriteSettlement

/-!
# A request of the HTTP client

`Client::Send` leases a connection, writes the request and reads the response, while any thread
closes the client. A failure behind the lease goes through `fail`, which looks for the reason of a
close and replaces the error by it unless the request is committed. The parser, the pool and the
clock answer as they like.
-/
namespace BbtInfra.Http

open Lib Net

/-- What `Send` computes of its request: `ValidatePrepared`, `SerializeRequest`, and whether the
body is larger than `max_request_body_bytes`. -/
structure SendRequest where
  valid : Except Error Unit := .ok ()
  serialized : Except Error Bytes
  bodyTooLarge : Bool := false

/-- Where `Send` stands. -/
inductive SendPc
  | entry
  /-- Before `IsClosed`, and between it and `CloseReason`. -/
  | open'
  | closed
  /-- Before `CheckCall`. -/
  | check
  | acquire
  /-- `WriteRequest` before its `CheckCall`. -/
  | writeGate
  /-- `Write` runs, as this call. -/
  | writing (i : Nat)
  /-- `ReadResponse` behind this many interim responses: the gate of a round, the parser, the gate
  of a read, the read, and the end of a message. -/
  | round (interim : Nat)
  | parse (interim : Nat)
  | readGate (interim : Nat)
  | read (interim : Nat)
  | message (interim : Nat)
  /-- `fail` is about to read the reason of a close. -/
  | failing (error : Error)
  | returned (result : Except Error Nat)

/-- What the parser says when it is offered the pending bytes. -/
inductive ParseAnswer
  | nothingPending
  | malformed (what : Bytes)
  | done
  | progress
  | stuck
  deriving DecidableEq, Repr

/-- What a read brings. -/
inductive ReadAnswer
  | data
  /-- The end of the stream, whether the parser has got a byte, and whether the message is complete
  with it. -/
  | eof (gotSome complete : Bool)
  | failed (error : StdErrorCode)
  deriving DecidableEq, Repr

/-- What `Send` meets in one of its steps. -/
inductive SendEvent
  | context (inside : Bool)
  /-- It looks at the pool or at its report. -/
  | look
  | check (gate : StdErrorCode)
  | leased (answer : Except Error Unit)
  | parsed (answer : ParseAnswer)
  | read (answer : ReadAnswer)
  | status (code : Nat)

/-- A client with one `Send`, and the connection that it leases. -/
structure Sending where
  writes : CoWrites
  /-- `IsClosed` and `CloseReason` of the pool. -/
  sealed' : Bool := false
  closeReason : Option Error := none
  pc : SendPc := .entry
  /-- The report of the write. -/
  report : Option Rpc.WriteReport := none

/-- The steps of a client with one `Send`. -/
inductive SendLabel
  /-- A step on the leased connection. -/
  | net (label : CoWriteLabel)
  | close (reason : Error)
  | shutdown
  | send (event : SendEvent)

/-- The message of an `InvalidArgument`. -/
def invalidArgument (message : String) : Error :=
  makeError .invalidArgument (text ("http client: " ++ message))

/-- `Send` in front of `Acquire`: the gate, the request, and the size of its body. -/
def SendRequest.prepare (request : SendRequest) (gate : StdErrorCode) : Except Error Bytes := do
  request.valid
  if gate.failed then
    throw (makeError (if isCancelled gate then .cancelled else .timedOut)
      (text "http client: call ended before submission"))
  let bytes ← request.serialized
  if request.bodyTooLarge then
    throw (invalidArgument "request body exceeds max_request_body_bytes")
  return bytes

/-- `ReadResponse`: what follows from the next event. -/
def SendPc.respond : SendPc → SendEvent → Option SendPc
  | .round interim, .check gate =>
    some (if gate.failed then .failing (callError gate "response wait ended" true)
      else .parse interim)
  | .parse interim, .parsed answer =>
    some (match answer with
      | .nothingPending | .stuck => .readGate interim
      | .malformed what => .failing (protocolError (text "malformed response: " ++ what))
      | .done => .message interim
      | .progress => .round interim)
  | .readGate interim, .check gate =>
    some (if gate.failed then .failing (callError gate "response read rejected" true)
      else .read interim)
  | .read interim, .read answer =>
    some (match answer with
      | .data => .round interim
      | .eof gotSome complete =>
        if !gotSome then .failing (callError (.net NetErrc.eof) "peer closed without response" true)
        else if !complete then
          .failing (callError (.net NetErrc.eof) "peer closed with incomplete response" true)
        else .message interim
      | .failed error => .failing (callError error "response read failed" true))
  | .message interim, .status code =>
    some (if code = 101 then .failing (protocolError (text "protocol upgrade unsupported"))
      else if 100 ≤ code ∧ code < 200 then
        if interim < 16 then .round (interim + 1)
        else .failing (protocolError (text "too many informational responses"))
      else .returned (.ok code))
  | _, _ => none

namespace Sending

variable [CompletionBuffer]

/-- `Send` goes on. -/
def go (s : Sending) (pc : SendPc) : Sending := { s with pc }

/-- `fail`: the reason of a close replaces every error but that of a committed request. -/
def fail (s : Sending) (error : Error) : Error :=
  match s.closeReason with
  | none => error
  | some reason =>
    if error.requestPhase = some .requestCommitted then
      { error with details := error.details ++ [(text "close_reason", reason.message)] }
    else reason

/-- The next step of `Send`. -/
def act (request : SendRequest) (s : Sending) (event : SendEvent) : Option Sending :=
  match s.pc, event with
  | .entry, .context inside =>
    some (s.go (if inside then .open'
      else .returned (.error (makeError .invalidContext
        (text "http client: coroutine context required")))))
  | .open', .look => some (s.go (if s.sealed' then .closed else .check))
  | .closed, .look =>
    some (s.go (.returned (.error (s.closeReason.getD
      (makeError .closed (text "http client: closed"))))))
  | .check, .check gate =>
    some (s.go (match request.prepare gate with
      | .error error => .returned (.error error)
      | .ok _ => .acquire))
  | .acquire, .leased answer =>
    some (s.go (match answer with
      | .error error => .failing error
      | .ok () => .writeGate))
  | .writeGate, .check gate =>
    if gate.failed then
      some (s.go (.failing (callError gate "write rejected before submission" false)))
    else
      match request.serialized with
      | .error _ => none
      | .ok data =>
        some { s with
          writes := { s.writes with calls := s.writes.calls ++ [{ data }] }
          pc := .writing s.writes.calls.length }
  | .writing i, .look =>
    (s.writes.calls[i]?).bind fun call =>
      match call.pc with
      | .returned report =>
        some { s with
          report := some report
          pc := match settleWrite report with
            | .error error => .failing error
            | .ok () => .round 0 }
      | _ => none
  | .failing error, .look => some (s.go (.returned (.error (s.fail error))))
  | pc, event => (pc.respond event).map s.go

/-- The client after a step. -/
def step (request : SendRequest) (s : Sending) : SendLabel → Option Sending
  | .net label => (s.writes.step label).map fun writes => { s with writes }
  | .close reason =>
    some { s with sealed' := true, closeReason := some (s.closeReason.getD reason) }
  | .shutdown => some { s with sealed' := true }
  | .send event => s.act request event

end Sending

/-- A client with one `Send` of this request. -/
def sendMachine [CompletionBuffer] (request : SendRequest) : Machine Sending SendLabel where
  start s := ∃ writes, coWriteMachine.Reachable writes ∧ s = { writes }
  step := Sending.step request

/-- An error that does not hide a request which may have been executed. -/
def Tells (error : Error) : Prop :=
  error.requestPhase = some .writing ∨ error.requestPhase = some .requestCommitted ∨
    error.code = .outcomeUnknown

/-- An error of a write says how far the request got. -/
theorem settleWrite_phase {report : Rpc.WriteReport} {error : Error}
    (failed : settleWrite report = .error error) :
    error.requestPhase = some .writing ∨ error.requestPhase = some .requestCommitted := by
  by_cases whole : report.Whole
  · by_cases late : report.LateDone
    · obtain ⟨other, same, committed, _⟩ := Rpc.settleWrite_late late
      rw [failed] at same
      cases same
      exact .inr committed
    · have settled := Rpc.settled_of_whole late whole
      unfold Rpc.WriteReport.settled at settled
      unfold settleWrite at failed
      rw [if_pos settled] at failed
      cases failed
  · obtain ⟨other, same, _, phase⟩ := Rpc.of_classification (Rpc.settleWrite_failed whole)
    rw [failed] at same
    cases same
    exact .inl phase

/-- The write has not returned yet. -/
def SendPc.early : SendPc → Bool
  | .entry | .open' | .closed | .check | .acquire | .writeGate | .writing _ => true
  | _ => false

/-- The write was complete: a failure says that the request is committed. -/
def SendPc.behind : SendPc → Prop
  | .failing error => error.requestPhase = some .requestCommitted
  | .returned (.error _) => False
  | pc => pc.early = false

/-- Behind the write is not in front of it. -/
theorem SendPc.late_of_behind {pc : SendPc} (behind : pc.behind) : pc.early = false := by
  cases pc with
  | failing | returned => rfl
  | _ => exact behind

/-- Reading fails with errors of a committed request only, and does not return them itself. -/
theorem SendPc.respond_behind {pc pc' : SendPc} {event : SendEvent}
    (moved : pc.respond event = some pc') : pc'.behind := by
  have read (error : StdErrorCode) (message : String) :
      (SendPc.failing (callError error message true)).behind := (callError_committed _ _).1
  unfold respond at moved
  split at moved <;> cases moved
  · split
    · exact read _ _
    · rfl
  · split <;> rfl
  · split
    · exact read _ _
    · rfl
  · split
    · rfl
    · split
      · exact read _ _
      · split
        · exact read _ _
        · rfl
    · exact read _ _
  · split
    · rfl
    · split
      · split <;> rfl
      · rfl

namespace Sending

/-- Net has accepted the bytes of the request. -/
def Accepted (s : Sending) : Prop := ∃ report, s.report = some report ∧ report.operationValid = true

/-- An error that `Send` returns does not hide a request that net has accepted. -/
def Honest (s : Sending) : Prop :=
  ∀ error, s.pc = .returned (.error error) → s.Accepted → Tells error

/-- No reason of a close that tells nothing replaces the error of a request which net has accepted
and which is not committed. -/
def Unmasked (s : Sending) (label : SendLabel) : Prop :=
  ∀ error reason, label = .send .look → s.pc = .failing error → s.Accepted →
    s.closeReason = some reason → error.requestPhase ≠ some .requestCommitted → Tells reason

/-- What is known in front of `fail`. -/
structure Traced (s : Sending) : Prop where
  early : s.pc.early = true → s.report = none
  failing : ∀ error, s.pc = .failing error → s.report ≠ none →
    error.requestPhase = some .writing ∨ error.requestPhase = some .requestCommitted

variable {request : SendRequest} {s next : Sending} {label : SendLabel}

section

variable [CompletionBuffer]

omit [CompletionBuffer] in
/-- A step of `Send` is the one of `fail`, or it returns no error of a request that was written and
a failure behind it says how far the request got. -/
theorem act_cases {event : SendEvent} (acted : s.act request event = some next)
    (traced : s.Traced) :
    (∃ error, event = .look ∧ s.pc = .failing error ∧
      next = s.go (.returned (.error (s.fail error)))) ∨
    next.Traced ∧ ∀ error, next.pc = .returned (.error error) → next.report = none := by
  -- In front of the write nothing was reported.
  have early (pc : SendPc) (before : s.pc.early = true) : (s.go pc).Traced ∧
      ∀ error, (s.go pc).pc = .returned (.error error) → (s.go pc).report = none := by
    have none' := traced.early before
    exact ⟨⟨fun _ => none', fun _ _ written => absurd none' written⟩, fun _ _ => none'⟩
  unfold act at acted
  split at acted
  next inside place =>
    cases acted
    exact .inr (early _ (by rw [place]; rfl))
  next place =>
    cases acted
    exact .inr (early _ (by rw [place]; rfl))
  next place =>
    cases acted
    exact .inr (early _ (by rw [place]; rfl))
  next gate place =>
    cases acted
    exact .inr (early _ (by rw [place]; rfl))
  next answer place =>
    cases acted
    exact .inr (early _ (by rw [place]; rfl))
  next gate place =>
    have none' := traced.early (by rw [place]; rfl)
    split at acted
    · cases acted
      exact .inr (early _ (by rw [place]; rfl))
    · split at acted
      · cases acted
      · cases acted
        exact .inr ⟨⟨fun _ => none', fun _ wrong => by cases wrong⟩, fun _ wrong => by cases wrong⟩
  next i place =>
    obtain ⟨call, _, returned⟩ := Option.bind_eq_some_iff.mp acted
    split at returned
    next report written =>
      cases returned
      right
      cases settled : settleWrite report with
      | error error =>
        refine ⟨⟨fun wrong => (by cases wrong), ?_⟩, fun _ wrong => by cases wrong⟩
        rintro other same _
        cases same
        exact settleWrite_phase settled
      | ok done =>
        refine ⟨⟨fun wrong => (by cases wrong), ?_⟩, fun _ wrong => by cases wrong⟩
        rintro other same _
        cases same
    · cases returned
  next error place =>
    cases acted
    exact .inl ⟨error, rfl, place, rfl⟩
  next =>
    obtain ⟨pc, moved, rfl⟩ := Option.map_eq_some_iff.mp acted
    have behind := SendPc.respond_behind moved
    right
    refine ⟨⟨fun wrong => ?_, fun error place _ => ?_⟩, fun error place => ?_⟩
    · cases (SendPc.late_of_behind behind).symm.trans wrong
    · replace place : pc = .failing error := place
      rw [place] at behind
      exact .inr behind
    · replace place : pc = .returned (.error error) := place
      rw [place] at behind
      exact behind.elim

/-- A step on the connection, or of a close, does not touch `Send`. -/
theorem step_other (stepped : s.step request label = some next) :
    (∃ event, label = .send event ∧ s.act request event = some next) ∨
      (∀ event, label ≠ .send event) ∧ next.pc = s.pc ∧ next.report = s.report := by
  cases label with
  | net label =>
    obtain ⟨writes, -, rfl⟩ := Option.map_eq_some_iff.mp stepped
    exact .inr ⟨fun _ wrong => (by cases wrong), rfl, rfl⟩
  | close | shutdown =>
    cases stepped
    exact .inr ⟨fun _ wrong => (by cases wrong), rfl, rfl⟩
  | send event => exact .inl ⟨event, rfl, stepped⟩

/-- What is known in front of `fail` stays known. -/
theorem Traced.step (traced : s.Traced) (stepped : s.step request label = some next) :
    next.Traced := by
  rcases step_other stepped with ⟨event, rfl, acted⟩ | ⟨-, pc, report⟩
  · rcases act_cases acted traced with ⟨error, rfl, _, rfl⟩ | ⟨kept, -⟩
    · exact ⟨fun wrong => (by cases wrong), fun _ wrong => by cases wrong⟩
    · exact kept
  · constructor
    · rw [pc, report]
      exact traced.early
    · rw [pc, report]
      exact traced.failing

/-- The step of `fail` tells of the request if and only if no reason masks its error; every other
step does. -/
theorem honest_step (traced : s.Traced) (honest : s.Honest)
    (stepped : s.step request label = some next) : next.Honest ↔ s.Unmasked label := by
  rcases step_other stepped with ⟨event, rfl, acted⟩ | ⟨other, pc, report⟩
  · rcases act_cases acted traced with ⟨error, rfl, place, rfl⟩ | ⟨-, unwritten⟩
    · constructor
      · rintro honest error' reason - place' accepted closed uncommitted
        cases place.symm.trans place'
        have tells := honest _ rfl accepted
        unfold fail at tells
        rw [closed] at tells
        dsimp only at tells
        rwa [if_neg uncommitted] at tells
      · rintro unmasked error' returned accepted
        cases returned
        unfold fail
        obtain ⟨report, written, valid⟩ := accepted
        replace written : s.report = some report := written
        have phase := traced.failing error place (by rw [written]; exact Option.some_ne_none _)
        cases closed : s.closeReason with
        | none => exact phase.imp_right .inl
        | some reason =>
          dsimp only
          by_cases committed : error.requestPhase = some .requestCommitted
          · rw [if_pos committed]
            exact .inr (.inl committed)
          · rw [if_neg committed]
            exact unmasked error reason rfl place ⟨report, written, valid⟩ closed committed
    · constructor
      · rintro - error reason same place ⟨report, written, _⟩ _ _
        cases same
        unfold act at acted
        rw [place] at acted
        cases acted
        cases written.symm.trans (unwritten _ rfl)
      · rintro - error returned ⟨report, written, _⟩
        cases written.symm.trans (unwritten error returned)
  · constructor
    · rintro - error reason rfl
      exact absurd rfl (other .look)
    · rintro - error returned ⟨written, same, valid⟩
      rw [pc] at returned
      rw [report] at same
      exact honest error returned ⟨written, same, valid⟩

/-- In a run in which no telling error is replaced by the reason of a close, the error that `Send`
returns of a request which net has accepted says that it may have been executed; and a further step
keeps this if and only if it replaces none. -/
theorem send_honest {labels : List SendLabel}
    (run : (sendMachine request).GuardedRun Unmasked labels s) :
    s.Honest ∧ ∀ label next, s.step request label = some next →
      (next.Honest ↔ s.Unmasked label) := by
  have kept : s.Traced ∧ s.Honest := by
    apply run.invariant fun s => s.Traced ∧ s.Honest
    · rintro _ ⟨writes, _, rfl⟩
      refine ⟨⟨fun _ => rfl, fun _ wrong => by cases wrong⟩, fun _ wrong => by cases wrong⟩
    · rintro s label next ⟨traced, honest⟩ unmasked stepped
      exact ⟨traced.step stepped, (honest_step traced honest stepped).mpr unmasked⟩
  exact ⟨kept.2, fun label next stepped => honest_step kept.1 kept.2 stepped⟩

end

/-- A test for the condition, which asks for more than it does. -/
def unmaskedTest (s : Sending) (_ : SendLabel) : Bool := s.closeReason.isNone

/-- A step that passes the test meets the condition. -/
theorem unmasked_of_test (passed : s.unmaskedTest label = true) : s.Unmasked label := by
  rintro error reason - - - closed -
  unfold unmaskedTest at passed
  rw [closed] at passed
  cases passed

/-- The request of two bytes. -/
def sampleRequest : SendRequest := { serialized := .ok [1, 2] }

/-- The labels up to the end of a write that has timed out in flight. -/
def untilTimedOut : List SendLabel :=
  [.send (.context true), .send .look, .send (.check .success), .send (.leased (.ok ())),
    .send (.check .success), .net (.act 0 (.context true true)),
    .net (.act 0 (.accept .fine false)), .net (.act 0 (.context true true)),
    .net (.act 0 .queried), .net (.side (.pump 8 64 [.sent 1, .failed 11])),
    .net (.act 0 (.waited .timedOut)), .net (.act 0 .queried), .send .look]

/-- The connection of the sample. -/
def sampleWrites : CoWrites := { side := WriteSide.make 16 4 }

/-- It is the connection that a run begins with. -/
theorem sampleWrites_start : (sendMachine sampleRequest).start { writes := sampleWrites } :=
  ⟨sampleWrites, ⟨[], .start ⟨16, 4, rfl⟩⟩, rfl⟩

/-- The code and the phase of the error that `Send` has returned. -/
def outcome (s : Sending) : Option (ErrorCode × Option RequestPhase) :=
  match s.pc with
  | .returned (.error error) => some (error.code, error.requestPhase)
  | _ => none

/-- `Send` has returned such an error. -/
theorem of_outcome {code : ErrorCode} {phase : Option RequestPhase}
    (returned : s.outcome = some (code, phase)) :
    ∃ error, s.pc = .returned (.error error) ∧ error.code = code ∧ error.requestPhase = phase := by
  unfold outcome at returned
  split at returned
  next error place =>
    cases returned
    exact ⟨error, place, rfl, rfl⟩
  · cases returned

/-- A write that times out in flight. -/
theorem send_honest_flight : ∃ s labels,
    (sendMachine sampleRequest).GuardedRun Unmasked labels s ∧
      s.outcome = some (.outcomeUnknown, some .writing) ∧ s.Honest := by
  obtain ⟨s, run, returned⟩ := Machine.exists_guardedRun (untilTimedOut ++ [.send .look])
    unmaskedTest (fun s : Sending => decide (s.outcome = some (.outcomeUnknown, some .writing)))
    sampleWrites_start (by decide +kernel)
  have unmasked : (sendMachine sampleRequest).GuardedRun Unmasked _ s :=
    run.mono fun _ _ => unmasked_of_test
  exact ⟨s, _, unmasked, of_decide_eq_true returned, (send_honest unmasked).1⟩

/-- The client is closed when a write has timed out in flight, and `Send` returns the reason of the
close. -/
theorem send_honest_fails : ∃ s, (sendMachine sampleRequest).Reachable s ∧ ¬s.Honest := by
  obtain ⟨s, reachable, masked⟩ := Machine.exists_reachable
    (untilTimedOut ++ [.close (makeError .closed (text "http client: closed by owner")),
      .send .look])
    (fun s : Sending => decide (s.outcome = some (.closed, none)) &&
      s.report.any (·.operationValid)) sampleWrites_start (by decide +kernel)
  obtain ⟨returned, accepted⟩ := Bool.and_eq_true_iff.mp masked
  obtain ⟨error, place, code, phase⟩ := of_outcome (of_decide_eq_true returned)
  refine ⟨s, reachable, fun honest => ?_⟩
  obtain ⟨report, written, valid⟩ := (Option.any_eq_true _ _).mp accepted
  rcases honest error place ⟨report, written, valid⟩ with tells | tells | tells
  · rw [phase] at tells
    cases tells
  · rw [phase] at tells
    cases tells
  · rw [code] at tells
    cases tells

end Sending

end BbtInfra.Http
