import BbtInfra.Lib.Machine
import BbtInfra.Rpc.Frame

/-!
# The admission of inbound requests

`ServerV2State` and its `AdmissionQueue` with everything that uses their ledger: the readers of
any number of sessions in `AdmitInbound`, the one worker, the handler and the framework behind
it, and the callers that drain, shut down and close. One label is one critical section or one
atomic operation of one of them. Counters that are only reported are left out.
-/
namespace BbtInfra.Rpc

open Lib

/-- Progress of the `Release` that wins the exchange on `released`. -/
inductive LeasePc
  /-- `released` is not set. -/
  | held
  /-- `released` is set; before the critical section under `mu`. -/
  | releasing
  | released
  deriving DecidableEq, Repr

/-- `AdmissionLeaseImpl`. -/
structure Lease where
  lane : TrafficClass
  pc : LeasePc := .held
  /-- `AdmitInbound` counted the item. -/
  counted : Bool := false
  deriving DecidableEq, Repr

/-- An item on its way through `AdmitInbound`, the queue and the worker. -/
inductive ItemPc
  /-- Before the section that checks `MaxInflight`. -/
  | arrived
  /-- Refused there; its lease is never handed out. -/
  | overCap
  /-- Counted; before `Admit`. -/
  | counted
  /-- Refused by `Admit`; before `lease->Release()`. -/
  | rejected (error : Error)
  /-- Refused by `Admit` and released. -/
  | unwound
  | queued
  /-- With the worker, the handler or the framework. -/
  | handed
  deriving DecidableEq

/-- `AdmissionItem`, with the session whose reader brought it. -/
structure AdmissionItem where
  session : Nat
  /-- `ItemBytes`. -/
  bytes : Nat
  /-- The request asks for a reply. -/
  isCall : Bool
  lease : Lease
  pc : ItemPc := .arrived
  deriving DecidableEq

/-- Program counters of `AdmissionWorker`. -/
inductive WorkerPc
  | idle
  /-- In the handler. -/
  | handling (item : Nat)
  /-- The handler has returned or thrown. -/
  | concluding (item : Nat) (handled : Except Error Unit)
  | exited
  deriving DecidableEq

/-- Program counters of `ServerV2Drain` and of `ServerV2Shutdown`. -/
inductive DrainPc
  /-- Before the queue is closed. -/
  | closing
  | waiting
  | returned (result : Except Error Unit)
  deriving DecidableEq

/-- A call of `ServerV2Drain` or of `ServerV2Shutdown`. -/
structure Drain where
  isShutdown : Bool := false
  pc : DrainPc := .closing
  deriving DecidableEq

/-- `ServerV2State` and its queue. -/
structure ServerState where
  options : ServerOptions
  inflight : TrafficClass → UInt64 := fun _ => 0
  closed : Bool := false
  draining : Bool := false
  closeReason : Option Error := none
  items : List AdmissionItem := []
  /-- `queue`: items by their index, oldest first. -/
  queue : List Nat := []
  queueBytes : Nat := 0
  queueClosed : Bool := false
  worker : WorkerPc := .idle
  drains : List Drain := []
  /-- `writes_outstanding` of the live links. -/
  links : List Nat := []

/-- One step of one party. -/
inductive AdmissionLabel
  /-- A reader enters `AdmitInbound`. -/
  | arrive (session : Nat) (lane : TrafficClass) (bytes : Nat) (isCall : Bool)
  /-- The section that checks `MaxInflight` and counts. -/
  | check (item : Nat)
  /-- `Admit`. -/
  | push (item : Nat)
  /-- `AdmitInbound` releases the lease of an item that `Admit` refused. -/
  | unwind (item : Nat)
  /-- The worker takes the oldest item. -/
  | pop
  /-- The handler returns, or throws when nothing is returned. -/
  | handle (returned : Option (Except Error Unit))
  /-- The worker answers and releases what is its to release. -/
  | conclude
  /-- Anybody who got the item calls `Release`. -/
  | release (item : Nat)
  /-- The critical section of the `Release` that won. -/
  | settleRelease (item : Nat)
  /-- The worker sees a closed and empty queue. -/
  | workerExit
  /-- `ServerV2StopAccepting`, or the end of a seal. -/
  | closeQueue
  /-- The critical section of `ServerV2Seal`. -/
  | sealServer (reason : Error)
  /-- `ServerV2Drain` is called. -/
  | drain
  /-- `ServerV2Shutdown` is called. -/
  | shutdown
  /-- A drain or shutdown has closed the queue. -/
  | drainClose (drain : Nat)
  /-- It wakes up; `late` is past its deadline. -/
  | drainCheck (drain : Nat) (late : Bool)
  /-- A link comes up. -/
  | linkUp
  /-- `writes_outstanding` of a link changes. -/
  | wrote (link outstanding : Nat)

namespace ServerState

/-- `NoteInflight`. -/
def noteInflight (s : ServerState) (lane : TrafficClass) (delta : UInt64) : ServerState :=
  { s with inflight := Function.update s.inflight lane (s.inflight lane + delta) }

/-- The gauge of the lane moves. -/
@[simp] theorem noteInflight_self (s : ServerState) (lane : TrafficClass) (delta : UInt64) :
    (s.noteInflight lane delta).inflight lane = s.inflight lane + delta := by
  simp [noteInflight]

/-- The other gauges do not. -/
@[simp] theorem noteInflight_other (s : ServerState) {lane other : TrafficClass}
    (apart : other ≠ lane) (delta : UInt64) :
    (s.noteInflight lane delta).inflight other = s.inflight other := by
  simp [noteInflight, apart]

/-- Rewrite one item. -/
def modifyItem (s : ServerState) (i : Nat) (f : AdmissionItem → AdmissionItem) : ServerState :=
  { s with items := s.items.modify i f }

/-- An item moves on. -/
def goto (s : ServerState) (i : Nat) (pc : ItemPc) : ServerState :=
  s.modifyItem i fun item => { item with pc }

/-- The capacity section of `AdmitInbound`. -/
def check (s : ServerState) (i : Nat) (item : AdmissionItem) : ServerState :=
  if (s.inflight item.lease.lane).toNat ≥ s.options.maxInflight then s.goto i .overCap
  else
    (s.noteInflight item.lease.lane 1).modifyItem i fun item =>
      { item with pc := .counted, lease := { item.lease with counted := true } }

/-- `AdmissionQueue::Admit`; the queue was created with these limits. -/
def push (s : ServerState) (i : Nat) (item : AdmissionItem) : ServerState :=
  if s.queueClosed then s.goto i (.rejected (err .closed "admission queue closed"))
  else if s.queue.length ≥ s.options.maxInflight ∨
      s.queueBytes + item.bytes > s.options.maxHandlerBytes then
    s.goto i (.rejected (err .overloaded "admission queue full"))
  else { s.goto i .queued with queue := s.queue ++ [i], queueBytes := s.queueBytes + item.bytes }

/-- The exchange on `released` of one `Release`. -/
def release (s : ServerState) (i : Nat) : ServerState :=
  s.modifyItem i fun item =>
    if item.lease.pc = .held then { item with lease := { item.lease with pc := .releasing } }
    else item

/-- The critical section of the `Release` that won. -/
def settleRelease (s : ServerState) (i : Nat) (item : AdmissionItem) : ServerState :=
  (s.noteInflight item.lease.lane (-1)).modifyItem i fun item =>
    { item with lease := { item.lease with pc := .released } }

/-- What the worker releases itself: everything but an accepted call. -/
def conclude (s : ServerState) (i : Nat) (item : AdmissionItem) (handled : Except Error Unit) :
    ServerState :=
  if handled.isOk ∧ item.isCall then { s with worker := .idle }
  else { s.release i with worker := .idle }

/-- `DrainedLocked`. -/
def drainedLocked (s : ServerState) : Bool :=
  s.inflight .system = 0 && s.inflight .service = 0 && s.inflight .actor = 0 &&
    s.queue.isEmpty && s.links.all fun outstanding => outstanding = 0

/-- The critical section of `ServerV2Seal`. -/
def sealServer (s : ServerState) (reason : Error) : ServerState :=
  { s with closeReason := some (s.closeReason.getD reason), closed := true }

/-- A new call of `ServerV2Drain` or `ServerV2Shutdown`. -/
def addDrain (s : ServerState) (isShutdown : Bool) (pc : DrainPc) : ServerState :=
  { s with drains := s.drains ++ [{ isShutdown, pc }] }

/-- The entry of `ServerV2Shutdown`. -/
def shutdown (s : ServerState) : ServerState :=
  match s.closeReason with
  | some reason => s.addDrain true (.returned (.error reason))
  | none =>
    if s.draining then
      if s.drainedLocked then s.addDrain true (.returned (.ok ()))
      else
        s.addDrain true
          (.returned (.error (err .overloaded "shutdown already in progress")))
    else { s.addDrain true .closing with draining := true }

/-- The error of a drain or shutdown past its deadline. -/
def drainTimedOut (isShutdown : Bool) : Error :=
  err .timedOut (if isShutdown then "shutdown deadline exceeded; server remains sealed"
    else "drain deadline exceeded")

/-- What a drain returns when it wakes up, if it returns. -/
def drainResult (s : ServerState) (isShutdown late : Bool) : Option (Except Error Unit) :=
  if s.drainedLocked then some (.ok ())
  else
    match s.closeReason with
    | some reason => some (.error reason)
    | none => if late then some (.error (drainTimedOut isShutdown)) else none

/-- The steps of `AdmitInbound` and of the leases. -/
def stepItem (s : ServerState) (i : Nat) (item : AdmissionItem) :
    AdmissionLabel → Option ServerState
  | .check _ => if item.pc = .arrived then some (s.check i item) else none
  | .push _ => if item.pc = .counted then some (s.push i item) else none
  | .unwind _ =>
    match item.pc with
    | .rejected _ => some ((s.release i).goto i .unwound)
    | _ => none
  | .release _ => if item.pc = .handed then some (s.release i) else none
  | .settleRelease _ => if item.lease.pc = .releasing then some (s.settleRelease i item) else none
  | _ => none

/-- The steps of the worker. -/
def stepWorker (s : ServerState) : AdmissionLabel → Option ServerState
  | .pop =>
    if s.worker = .idle then
      match s.queue with
      | [] => none
      | i :: rest =>
        s.items[i]?.map fun item =>
          { s.goto i .handed with
            queue := rest, queueBytes := s.queueBytes - item.bytes, worker := .handling i }
    else none
  | .handle returned =>
    match s.worker with
    | .handling i =>
      let handled := returned.getD (.error (err .internalError "admission handler threw"))
      some { s with worker := .concluding i handled }
    | _ => none
  | .conclude =>
    match s.worker with
    | .concluding i handled => s.items[i]?.map fun item => s.conclude i item handled
    | _ => none
  | .workerExit =>
    if s.worker = .idle ∧ s.queue = [] ∧ s.queueClosed then some { s with worker := .exited }
    else none
  | _ => none

/-- The steps of a drain or shutdown. -/
def stepDrain (s : ServerState) (d : Nat) (drain : Drain) : AdmissionLabel → Option ServerState
  | .drainClose _ =>
    if drain.pc = .closing then
      some { s with drains := s.drains.set d { drain with pc := .waiting }, queueClosed := true }
    else none
  | .drainCheck _ late =>
    if drain.pc = .waiting then
      (s.drainResult drain.isShutdown late).map fun result =>
        { s with drains := s.drains.set d { drain with pc := .returned result } }
    else none
  | _ => none

/-- One step of the server. -/
def step (s : ServerState) (label : AdmissionLabel) : Option ServerState :=
  match label with
  | .arrive session lane bytes isCall =>
    some { s with items := s.items ++ [{ session, bytes, isCall, lease := { lane } }] }
  | .check i | .push i | .unwind i | .release i | .settleRelease i =>
    s.items[i]?.bind fun item => s.stepItem i item label
  | .pop | .handle _ | .conclude | .workerExit => s.stepWorker label
  | .closeQueue => some { s with queueClosed := true }
  | .sealServer reason => some (s.sealServer reason)
  | .drain => some (s.addDrain false .closing)
  | .shutdown => some s.shutdown
  | .drainClose d | .drainCheck d _ => s.drains[d]?.bind fun drain => s.stepDrain d drain label
  | .linkUp => some { s with links := s.links ++ [0] }
  | .wrote link outstanding =>
    if link < s.links.length then some { s with links := s.links.set link outstanding } else none

/-- A server as `Create` and `Start` leave it. -/
def machine (options : ServerOptions) : Machine ServerState AdmissionLabel where
  start s := options.validate = .ok () ∧ s = { options }
  step := step

end ServerState

end BbtInfra.Rpc
