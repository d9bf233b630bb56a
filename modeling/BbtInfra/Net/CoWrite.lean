import BbtInfra.Lib.Census
import BbtInfra.Net.WriteDelivery
import BbtInfra.Rpc.Handshake

/-!
# A coroutine that writes

`CoTcpConnection::Write` submits a write, waits for room while there is none, and then for the end
of the accepted write. A wait ends when it is notified, when its time is over or when the coroutine
is cancelled; the write goes on meanwhile. The report holds how the wait has ended and a sample of
the write that was taken afterwards. The owner, and whoever closes the connection, take their steps
on the write side at any time.
-/
namespace BbtInfra.Net

open Lib WriteSide
open Rpc (WritePhase WriteOutcome WriteReport)

variable [CompletionBuffer]

/-- `bbt::coroutine::WaitStatus`. -/
inductive WaitStatus
  | completed | timedOut | cancelled | invalidContext | alreadyWaiting | runtimeUnavailable
  deriving DecidableEq, Repr

/-- `std::errc::operation_not_permitted`. -/
def operationNotPermitted : StdErrorCode := .generic 1

/-- `WaitStatusError`. -/
def waitStatusError : WaitStatus → StdErrorCode
  | .completed => .success
  | .timedOut => .generic 110
  | .cancelled => operationCanceled
  | .invalidContext => operationNotPermitted
  | .alreadyWaiting => .generic 16
  | .runtimeUnavailable => .generic 95

/-- Where a call of `CoTcpConnection::Write` stands. -/
inductive CoWritePc
  /-- Before `RequireCoroutineContext`. -/
  | gate
  /-- Before `AcceptWrite`. -/
  | attempt
  /-- There was no room, and it looks whether the connection is closed. -/
  | full
  /-- It waits for room. -/
  | capacity
  /-- `WriteOperation::Wait` of the accepted write, before its own gate. -/
  | waitGate (id : Nat)
  /-- Before `Query` in the loop. -/
  | query (id : Nat)
  /-- It waits for the end of the write. -/
  | wait (id : Nat)
  /-- The wait has ended with this error, and the last `Query` is next. -/
  | sample (id : Nat) (error : StdErrorCode)
  | returned (report : WriteReport)
  deriving DecidableEq, Repr

/-- A call of `CoTcpConnection::Write`. -/
structure CoWriteCall where
  data : Bytes
  pc : CoWritePc := .gate
  deriving DecidableEq, Repr

/-- What a call meets in one of its steps. -/
inductive CoWriteEvent
  /-- Whether it runs in a coroutine, and whether the connection has a state. -/
  | context (inside hasState : Bool)
  | accept (alloc : AcceptAlloc) (sealSeen : Bool)
  | closed (yes : Bool)
  /-- The waiter cannot be created or registered. -/
  | noWaiter
  | waited (status : WaitStatus)
  | queried
  deriving DecidableEq, Repr

/-- The write side of a connection and the calls of coroutines. -/
structure CoWrites where
  side : WriteSide
  calls : List CoWriteCall := []
  deriving DecidableEq, Repr

/-- The steps on a connection with its writing coroutines. -/
inductive CoWriteLabel
  /-- A step of the owner or of another thread. -/
  | side (label : WriteLabel)
  | call (data : Bytes)
  | act (i : Nat) (event : CoWriteEvent)
  deriving DecidableEq, Repr

/-- `WriteOperation::Query`. -/
def WriteSide.query (s : WriteSide) (id : Nat) : WriteOutcome :=
  match s.record id with
  | none => {}
  | some op =>
    if op.terminal then { phase := .done, sent := op.sent, error := op.error }
    else { phase := .inFlight, sent := op.sent }

/-- The report of a write that was not submitted. -/
def notSubmitted (error : StdErrorCode) : WriteReport :=
  { waitError := error, outcome := { phase := .rejected, error } }

namespace CoWritePc

/-- What a call does with the answer of `AcceptWrite`. -/
def accepted (side : WriteSide) (data : Bytes) (error : StdErrorCode) : CoWritePc :=
  if error.failed then
    if error = noBufferSpace ∨ error = writeSettling then
      if side.outboundMax < data.length then .returned (notSubmitted noBufferSpace) else .full
    else .returned (notSubmitted error)
  else .waitGate side.nextOp

/-- The next place of a call, in the steps that leave the write side alone. -/
def next (side : WriteSide) : CoWritePc → CoWriteEvent → Option CoWritePc
  | .gate, .context inside hasState =>
    some (if !inside then .returned (notSubmitted operationNotPermitted)
      else if !hasState then .returned (notSubmitted netClosed)
      else .attempt)
  | .full, .closed yes => some (if yes then .returned (notSubmitted netClosed) else .capacity)
  | .capacity, .noWaiter => some (.returned (notSubmitted noBufferSpace))
  | .capacity, .waited status =>
    some (if status = .completed then .attempt
      else .returned (notSubmitted (waitStatusError status)))
  | .waitGate id, .context inside _ =>
    some (if inside then .query id else .sample id operationNotPermitted)
  | .query id, .queried =>
    let outcome := side.query id
    some (if outcome.phase = .inFlight then .wait id
      else .returned { outcome, operationValid := true })
  | .wait id, .noWaiter => some (.sample id noBufferSpace)
  | .wait id, .waited status =>
    some (if status = .completed then .query id else .sample id (waitStatusError status))
  | .sample id waitError, .queried =>
    some (.returned { waitError, outcome := side.query id, operationValid := true })
  | _, _ => none

end CoWritePc

namespace CoWrites

/-- A call goes on. -/
def setCall (s : CoWrites) (i : Nat) (call : CoWriteCall) (pc : CoWritePc) : CoWrites :=
  { s with calls := s.calls.set i { call with pc } }

/-- The next step of a call. -/
def act (s : CoWrites) (i : Nat) (call : CoWriteCall) (event : CoWriteEvent) : Option CoWrites :=
  match call.pc, event with
  | .attempt, .accept alloc sealSeen =>
    if sealSeen ∧ ¬s.side.serviceSealed then none
    else
      let answer := s.side.acceptWrite call.data alloc sealSeen
      some { s.setCall i call (.accepted s.side call.data answer.1) with side := answer.2 }
  | pc, event => (pc.next s.side event).map (s.setCall i call)

/-- The connection after a step. -/
def step (s : CoWrites) : CoWriteLabel → Option CoWrites
  | .side label => (s.side.step label).map fun side => { s with side }
  | .call data => some { s with calls := s.calls ++ [{ data }] }
  | .act i event => (s.calls[i]?).bind fun call => s.act i call event

end CoWrites

/-- The connections with their writing coroutines. -/
def coWriteMachine : Machine CoWrites CoWriteLabel where
  start s := ∃ outboundMax maxOps, s = { side := make outboundMax maxOps }
  step := CoWrites.step

/-- What a report says of a write of these bytes. -/
structure Sampled (data : Bytes) (report : WriteReport) : Prop where
  submitted : report.operationValid = false →
    report.outcome.phase = .rejected ∧ report.waitError.failed = true
  sampled : report.operationValid = true → report.outcome.phase = .done ∨
    report.outcome.phase = .inFlight ∧ report.waitError.failed = true
  whole : report.outcome.phase = .done → report.outcome.error.failed = false →
    report.outcome.sent = data.length

namespace CoWrites

/-- The write side knows the write of a call under this id. -/
def Owns (s : CoWrites) (data : Bytes) (id : Nat) : Prop :=
  ∃ op ∈ s.side.records, op.id = id ∧ op.data = data

/-- What is known of a call at its place. -/
def Placed (s : CoWrites) (data : Bytes) : CoWritePc → Prop
  | .gate | .attempt | .full | .capacity => True
  | .waitGate id | .query id | .wait id => s.Owns data id
  | .sample id error => s.Owns data id ∧ error.failed = true
  | .returned report => Sampled data report

variable {s next : CoWrites} {data : Bytes} {id i : Nat} {label : CoWriteLabel}

/-- A call keeps its write while the write side takes steps. -/
theorem Owns.step (owns : s.Owns data id) {label : WriteLabel} {side : WriteSide}
    (reachable : writeMachine.Reachable s.side) (stepped : s.side.step label = some side)
    (same : next.side = side) : next.Owns data id := by
  have ledger := reachable_ledger reachable
  have gate := reachable_gate reachable
  have keys := keys_step ledger gate stepped
  obtain ⟨op, inside, rfl, rfl⟩ := owns
  have old : (op.id, op.data) ∈ s.side.keys := List.mem_map_of_mem inside
  have still : (op.id, op.data) ∈ side.keys := keys ▸ List.mem_append_left _ old
  obtain ⟨op', inside', pair⟩ := List.mem_map.mp still
  obtain ⟨id, data⟩ := Prod.mk.inj pair
  exact ⟨op', same ▸ inside', id, data⟩

/-- What is known of a call stays so while the write side takes steps. -/
theorem Placed.step {pc : CoWritePc} (placed : s.Placed data pc) {label : WriteLabel}
    {side : WriteSide} (reachable : writeMachine.Reachable s.side)
    (stepped : s.side.step label = some side) (same : next.side = side) :
    next.Placed data pc := by
  cases pc with
  | gate | attempt | full | capacity => trivial
  | waitGate id | query id | wait id => exact Owns.step placed reachable stepped same
  | sample id error => exact ⟨placed.1.step reachable stepped same, placed.2⟩
  | returned report => exact placed

omit [CompletionBuffer] in
/-- The report of a write that was not submitted says so. -/
theorem sampled_notSubmitted {error : StdErrorCode} (failed : error.failed = true) :
    Sampled data (notSubmitted error) where
  submitted _ := ⟨rfl, failed⟩
  sampled wrong := by cases wrong
  whole wrong := by cases wrong

/-- A sample of an accepted write. -/
theorem Owns.query (owns : s.Owns data id) (reachable : writeMachine.Reachable s.side) :
    ((s.side.query id).phase = .done ∨ (s.side.query id).phase = .inFlight) ∧
      ((s.side.query id).phase = .done → (s.side.query id).error.failed = false →
        (s.side.query id).sent = data.length) := by
  obtain ⟨op, inside, rfl, rfl⟩ := owns
  have booked := (reachable_ledger reachable).booked
  have balanced := booked.balanced op inside
  unfold query
  rw [booked.record inside]
  dsimp only
  cases terminal : op.terminal with
  | false => exact ⟨.inr rfl, fun wrong => by cases wrong⟩
  | true =>
    refine ⟨.inl rfl, fun _ fine => ?_⟩
    exact ((balanced.settled terminal).2.mp fine).trans balanced.total

omit [CompletionBuffer] in
/-- A wait that has not completed reports an error. -/
theorem waitStatusError_failed {status : WaitStatus} (other : status ≠ .completed) :
    (waitStatusError status).failed = true := by
  cases status with
  | completed => exact absurd rfl other
  | _ => rfl

/-- What is known of a call after a step that leaves the write side alone. -/
theorem Placed.onward {pc pc' : CoWritePc} {event : CoWriteEvent} (placed : s.Placed data pc)
    (reachable : writeMachine.Reachable s.side) (moved : pc.next s.side event = some pc') :
    s.Placed data pc' := by
  have closed (error : StdErrorCode) (failed : error.failed = true) :
      s.Placed data (.returned (notSubmitted error)) := sampled_notSubmitted failed
  unfold CoWritePc.next at moved
  split at moved <;> cases moved
  next inside hasState =>
    split
    · exact closed _ rfl
    · split
      · exact closed _ rfl
      · trivial
  next yes =>
    split
    · exact closed _ rfl
    · trivial
  next => exact closed _ rfl
  next status =>
    split
    · trivial
    next other => exact closed _ (waitStatusError_failed other)
  next id inside _ =>
    split
    · exact placed
    · exact ⟨placed, rfl⟩
  next id outcome =>
    obtain ⟨phases, whole⟩ := Owns.query placed reachable
    split
    · exact placed
    next other =>
      exact ⟨fun wrong => (by cases wrong), fun _ => .inl (phases.resolve_right other), whole⟩
  next id => exact ⟨placed, rfl⟩
  next id status =>
    split
    · exact placed
    next other => exact ⟨placed, waitStatusError_failed other⟩
  next id error =>
    obtain ⟨phases, whole⟩ := placed.1.query reachable
    refine ⟨fun wrong => (by cases wrong), fun _ => ?_, whole⟩
    exact phases.imp_right fun flight => ⟨flight, placed.2⟩

/-- What is known of a call whose write was offered. -/
theorem placed_accepted {alloc : AcceptAlloc} {sealSeen : Bool} {side : WriteSide}
    (reachable : writeMachine.Reachable s.side)
    (stepped : s.side.step (.accept data alloc sealSeen) = some side) (same : next.side = side) :
    next.Placed data (.accepted s.side data (s.side.acceptWrite data alloc sealSeen).1) := by
  have ledger := reachable_ledger reachable
  have gate := reachable_gate reachable
  have keys := keys_step ledger gate stepped
  rw [acceptedBy] at keys
  unfold CoWritePc.accepted
  split
  next failed =>
    split
    · split
      · exact sampled_notSubmitted rfl
      · trivial
    · exact sampled_notSubmitted failed
  next fine =>
    rw [if_neg fine] at keys
    have there : (s.side.nextOp, data) ∈ side.keys := by
      rw [keys]
      exact List.mem_append_right _ (List.mem_singleton_self _)
    obtain ⟨op, inside, pair⟩ := List.mem_map.mp there
    obtain ⟨id, bytes⟩ := Prod.mk.inj pair
    exact ⟨op, same ▸ inside, id, bytes⟩

/-- The write side has taken its own steps, and every call is at a known place. -/
structure Sound (s : CoWrites) : Prop where
  reachable : writeMachine.Reachable s.side
  placed : ∀ call ∈ s.calls, s.Placed call.data call.pc

/-- The write side takes a step, and one call with it. -/
theorem Sound.offer (sound : s.Sound) {label : WriteLabel} {side : WriteSide}
    (stepped : s.side.step label = some side) (same : next.side = side)
    (others : ∀ call ∈ next.calls, call ∈ s.calls ∨ next.Placed call.data call.pc) :
    next.Sound := by
  obtain ⟨labels, run⟩ := sound.reachable
  constructor
  · rw [same]
    exact ⟨_, run.step trivial stepped⟩
  · intro call member
    rcases others call member with old | new
    · exact (sound.placed call old).step sound.reachable stepped same
    · exact new

/-- A step keeps the write side and the calls sound. -/
theorem Sound.step (sound : s.Sound) (stepped : s.step label = some next) : next.Sound := by
  cases label with
  | side label =>
    obtain ⟨side, moved, rfl⟩ := Option.map_eq_some_iff.mp stepped
    exact sound.offer moved rfl fun call => .inl
  | call data =>
    cases stepped
    refine ⟨sound.reachable, fun call member => ?_⟩
    rcases List.mem_append.mp member with old | new
    · have placed := sound.placed call old
      cases place : call.pc <;> rw [place] at placed <;> exact placed
    · rw [List.mem_singleton.mp new]
      trivial
  | act i event =>
    obtain ⟨call, found, acted⟩ := Option.bind_eq_some_iff.mp stepped
    have placed := sound.placed call (List.mem_of_getElem? found)
    unfold act at acted
    split at acted
    next alloc sealSeen place =>
      split at acted
      · cases acted
      next seen =>
        cases acted
        have moved : s.side.step (.accept call.data alloc sealSeen) =
            some (s.side.acceptWrite call.data alloc sealSeen).2 := if_neg seen
        apply sound.offer moved rfl
        intro other member
        rcases List.mem_or_eq_of_mem_set member with old | rfl
        · exact .inl old
        · exact .inr (placed_accepted sound.reachable moved rfl)
    next =>
      obtain ⟨pc', moved, rfl⟩ := Option.map_eq_some_iff.mp acted
      refine ⟨sound.reachable, fun other member => ?_⟩
      have kept : ∀ pc, s.Placed other.data pc → (s.setCall i call pc').Placed other.data pc := by
        intro pc placed
        cases pc <;> exact placed
      apply kept
      rcases List.mem_or_eq_of_mem_set member with old | rfl
      · exact sound.placed other old
      · exact placed.onward sound.reachable moved

/-- Every reachable connection with its calls is sound. -/
theorem reachable_sound (reachable : coWriteMachine.Reachable s) : s.Sound := by
  apply reachable.invariant Sound
  · rintro _ ⟨outboundMax, maxOps, rfl⟩
    refine ⟨⟨[], .start ⟨outboundMax, maxOps, rfl⟩⟩, fun call member => by cases member⟩
  · exact fun s label next sound stepped => sound.step stepped

/-- A report of a coroutine that writes says what became of the write. -/
theorem reachable_sampled (reachable : coWriteMachine.Reachable s) {call : CoWriteCall}
    {report : WriteReport} (found : s.calls[i]? = some call)
    (returned : call.pc = .returned report) : Sampled call.data report := by
  have placed := (reachable_sound reachable).placed call (List.mem_of_getElem? found)
  rw [returned] at placed
  exact placed

end CoWrites

end BbtInfra.Net
