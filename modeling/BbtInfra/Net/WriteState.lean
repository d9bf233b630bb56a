import BbtInfra.Net.OutboundQueue
import BbtInfra.Lib.Machine

/-!
# The write side of a connection

`ConnectionState` takes writes from any thread, hands their bytes to a sink on the owner's
thread and settles every write with one `CompletedWrite`. One label is one critical section of
`m_write_mutex`. Records are shared with the callers: they stay in the state, in the order of
their acceptance, and `m_ops` names the active ones by their ids.
-/
namespace BbtInfra.Net

open Lib

/-- `AcceptanceState`. -/
inductive AcceptanceState
  | open' | settling | closed
  deriving DecidableEq, Repr

/-- `make_error_code(NetErrc::Closed)`. -/
def netClosed : StdErrorCode := .net 6

/-- `make_error_code(NetErrc::WriteSettling)`. -/
def writeSettling : StdErrorCode := .net 4

/-- `WriteOpRecord`. -/
structure WriteOpRecord where
  id : Nat
  total : Nat := 0
  terminal : Bool := false
  sent : Nat := 0
  remaining : Nat := 0
  error : StdErrorCode := .success
  deriving DecidableEq, Repr

/-- A record and the bytes of its write, which only the queue keeps. -/
structure AcceptedWrite extends WriteOpRecord where
  data : Bytes
  deriving DecidableEq, Repr

namespace AcceptedWrite

/-- The record of a write of no bytes. -/
def zero (id : Nat) : AcceptedWrite := { id, terminal := true, data := [] }

/-- The record of a write of some bytes. -/
def begin' (id : Nat) (data : Bytes) : AcceptedWrite :=
  { id, total := data.length, remaining := data.length, data }

/-- A record that bytes were sent of. -/
def attributed (op : AcceptedWrite) (taken : Nat) : AcceptedWrite :=
  if op.remaining = taken then
    { op with remaining := 0, sent := op.sent + taken, terminal := true, error := .success }
  else { op with remaining := op.remaining - taken, sent := op.sent + taken }

/-- A record that `FailCurrentLocked` settles. -/
def fail (error : StdErrorCode) (op : AcceptedWrite) : AcceptedWrite :=
  { op with terminal := true, error, remaining := 0 }

/-- A record that `MarkClosed` settles. -/
def cancel (error : StdErrorCode) (op : AcceptedWrite) : AcceptedWrite :=
  { op with terminal := true, error }

end AcceptedWrite

/-- `CompletedWrite`. -/
structure CompletedWrite where
  id : Nat
  sent : Nat
  error : StdErrorCode
  deriving DecidableEq, Repr

/-- The `boost::circular_buffer` of completed writes, by what it holds. Only a `push_back` that finds
room is promised anything. -/
class CompletionBuffer where
  pushBack : Nat → List CompletedWrite → CompletedWrite → List CompletedWrite
  /-- The write goes behind the others. -/
  pushBack_room : ∀ {capacity buffer} (write : CompletedWrite), buffer.length < capacity →
    pushBack capacity buffer write = buffer ++ [write]

/-- A full one loses its first write. -/
instance CompletionBuffer.overwriting : CompletionBuffer where
  pushBack capacity buffer write :=
    if buffer.length < capacity then buffer ++ [write] else buffer.tail ++ [write]
  pushBack_room _ room := if_pos room

variable [CompletionBuffer]

/-- What the sink answers when it is offered bytes. -/
inductive SinkAnswer
  | sent (bytes : Nat)
  | failed (errno : Int)
  deriving DecidableEq, Repr

/-- `EAGAIN` and `EWOULDBLOCK`. -/
def eagain : Int := 11

/-- `EINTR`. -/
def eintr : Int := 4

/-- `ConnectionState::kMaxViews`. -/
def kMaxViews : Nat := 4

/-- Where an allocation of `AcceptWrite` fails. -/
inductive AcceptAlloc
  | fine | record | slot | append
  deriving DecidableEq, Repr

/-- The part of `ConnectionState` that `m_write_mutex` guards, with the history of it. -/
structure WriteSide where
  outboundMax : Nat
  maxOps : Nat
  /-- The records handed out, in the order of acceptance. -/
  records : List AcceptedWrite := []
  ops : List Nat := []
  queue : OutboundQueue
  nextOp : Nat := 1
  acceptance : AcceptanceState := .open'
  closeRequested : Bool := false
  readClosedPublished : Bool := false
  lastError : StdErrorCode := .success
  lastErrorOp : Nat := 0
  closeReason : StdErrorCode := .success
  pendingTerminal : List CompletedWrite := []
  serviceSealed : Bool := false
  /-- Calls of `MarkClosed` between their two critical sections. -/
  publishing : Nat := 0
  /-- The bytes the sink took. -/
  handed : Bytes := []
  /-- What `TryPopTerminal` returned. -/
  popped : List CompletedWrite := []
  deriving DecidableEq, Repr

/-- `SendResult`. -/
structure SendResult where
  bytes : Nat := 0
  needWriteWait : Bool := false
  terminalChanged : Bool := false
  capacityFreed : Bool := false
  deriving DecidableEq, Repr

namespace WriteSide

/-- The constructor. -/
def make (outboundMax maxOps : Nat) : WriteSide :=
  { outboundMax, maxOps
    queue := .make (min outboundMax (64 * 1024)) outboundMax maxOps }

/-- The capacity of `m_pending_terminal`. -/
def pendingCapacity (s : WriteSide) : Nat := max 1 s.maxOps

/-- The record of an id. -/
def record (s : WriteSide) (id : Nat) : Option AcceptedWrite := s.records.find? (·.id = id)

/-- A change of the record of an id. -/
def revise (s : WriteSide) (id : Nat) (change : AcceptedWrite → AcceptedWrite) : WriteSide :=
  { s with records := s.records.map fun op => if op.id = id then change op else op }

/-- `m_pending_terminal.push_back`. -/
def pushTerminal (s : WriteSide) (write : CompletedWrite) : WriteSide :=
  { s with pendingTerminal := CompletionBuffer.pushBack s.pendingCapacity s.pendingTerminal write }

/-- A settled write leaves the front of `m_ops`. -/
def settleFront (s : WriteSide) (id : Nat) (later : List Nat)
    (change : AcceptedWrite → AcceptedWrite) (write : CompletedWrite) : WriteSide :=
  { s.revise id change with ops := later }.pushTerminal write

/-- The gate of `AcceptWrite`, with what it read of the service seal before it took the lock. -/
def acceptRefusal (s : WriteSide) (sealSeen : Bool) : Option StdErrorCode :=
  if sealSeen then some netClosed
  else if s.closeRequested then some netClosed
  else if s.acceptance = .closed then some netClosed
  else if s.acceptance = .settling then some writeSettling
  else if s.maxOps ≤ s.ops.length + s.pendingTerminal.length then some noBufferSpace
  else none

/-- `AcceptWrite` of no bytes: the write is complete at once. -/
def acceptEmpty (s : WriteSide) (alloc : AcceptAlloc) : StdErrorCode × WriteSide :=
  if alloc = .record then (notEnoughMemory, s)
  else
    (.success, { s with
      nextOp := s.nextOp + 1
      records := s.records ++ [.zero s.nextOp]
      pendingTerminal :=
        CompletionBuffer.pushBack s.pendingCapacity s.pendingTerminal ⟨s.nextOp, 0, .success⟩ })

/-- `AcceptWrite` of some bytes. An id is used up also when the write is taken back. -/
def acceptBytes (s : WriteSide) (data : Bytes) (alloc : AcceptAlloc) : StdErrorCode × WriteSide :=
  if s.outboundMax - s.queue.totalBytes < data.length then (noBufferSpace, s)
  else if alloc = .record then (notEnoughMemory, s)
  else
    let undone := { s with nextOp := s.nextOp + 1 }
    if alloc = .slot then (notEnoughMemory, undone)
    else
      match s.queue.append data (alloc = .append) with
      | none => (notEnoughMemory, undone)
      | some (error, queue) =>
        if error.failed then (error, undone)
        else
          (.success, { undone with
            records := s.records ++ [.begin' s.nextOp data]
            ops := s.ops ++ [s.nextOp]
            queue })

/-- `AcceptWrite`. -/
def acceptWrite (s : WriteSide) (data : Bytes) (alloc : AcceptAlloc) (sealSeen : Bool) :
    StdErrorCode × WriteSide :=
  match s.acceptRefusal sealSeen with
  | some error => (error, s)
  | none => if data.isEmpty then s.acceptEmpty alloc else s.acceptBytes data alloc

/-- `AttributeSentLocked`: along `m_ops`, and whether a write was completed. -/
def attributeSentLocked (s : WriteSide) : List Nat → Nat → Bool × WriteSide
  | [], _ => (false, s)
  | id :: later, bytes =>
    if bytes = 0 then (false, s)
    else
      match s.record id with
      | none => (false, s)
      | some op =>
        let taken := min bytes op.remaining
        let change := (AcceptedWrite.attributed · taken)
        if op.remaining = taken then
          let settled := s.settleFront id later change ⟨id, op.sent + taken, .success⟩
          (true, (settled.attributeSentLocked later (bytes - taken)).2)
        -- less than the rest of the write: no byte is left to attribute
        else (false, s.revise id change)

/-- The loops of `FailCurrentLocked` and `MarkClosed` over `m_ops`. -/
def settleOps (s : WriteSide) (error : StdErrorCode) (change : AcceptedWrite → AcceptedWrite) :
    List Nat → WriteSide
  | [] => s
  | id :: later =>
    match s.record id with
    | none => s
    | some op =>
      (s.settleFront id later change ⟨id, op.sent, error⟩).settleOps error change later

/-- The queue is emptied when it holds bytes. -/
def drainQueue (s : WriteSide) : WriteSide :=
  if s.queue.totalBytes ≠ 0 then { s with queue := (s.queue.consumeSent s.queue.totalBytes).2 }
  else s

/-- `FailCurrentLocked`. -/
def failCurrentLocked (s : WriteSide) (error : StdErrorCode) : WriteSide :=
  if s.ops = [] then s
  else
    let settled := (s.settleOps error (AcceptedWrite.fail error) s.ops).drainQueue
    { settled with
      lastError := error
      lastErrorOp := s.ops.getLast?.getD s.lastErrorOp
      acceptance :=
        if s.closeRequested then .settling else if s.serviceSealed then .closed else .open' }

/-- The bytes the sink took leave the queue and are attributed. -/
def sendRound (s : WriteSide) (result : SendResult) (views : List Bytes) (bytes : Nat) :
    SendResult × WriteSide :=
  let consumed := { s with
    queue := (s.queue.consumeSent bytes).2
    handed := s.handed ++ views.flatten.take bytes }
  let attributed := consumed.attributeSentLocked s.ops bytes
  ({ result with
    terminalChanged := result.terminalChanged || attributed.1
    bytes := result.bytes + bytes
    capacityFreed := true }, attributed.2)

/-- The loop of `PumpWrites`, with the answers of the sink; none when it is asked once more than
it answers, or answers what `send` never does: no byte of some offered, more than offered, or a
failure without an error. -/
def pumpRounds : Nat → Nat → SendResult → WriteSide → List SinkAnswer →
    Option (SendResult × WriteSide)
  | 0, _, result, s, _ => some (result, s)
  | rounds + 1, byteBudget, result, s, answers =>
    if byteBudget ≤ result.bytes then some (result, s)
    else
      let views := s.queue.gatherViews kMaxViews
      if views.isEmpty then some (result, s)
      else
        match answers with
        | [] => none
        | .sent bytes :: later =>
          if 0 < bytes ∧ bytes ≤ views.flatten.length then
            let round := s.sendRound result views bytes
            pumpRounds rounds byteBudget round.1 round.2 later
          else none
        | .failed errno :: later =>
          if errno = 0 then none
          else if errno = eagain then some ({ result with needWriteWait := true }, s)
          else if errno = eintr then pumpRounds rounds byteBudget result s later
          else some ({ result with terminalChanged := true }, s.failCurrentLocked (.system errno))

/-- `PumpWrites`. -/
def pumpWrites (s : WriteSide) (maxRounds byteBudget : Nat) (answers : List SinkAnswer) :
    Option (SendResult × WriteSide) :=
  (pumpRounds maxRounds byteBudget {} s answers).map fun (result, next) =>
    ({ result with
      terminalChanged := result.terminalChanged || !next.pendingTerminal.isEmpty }, next)

/-- `TryPopTerminal`. -/
def tryPopTerminal (s : WriteSide) : Option CompletedWrite × WriteSide :=
  match s.pendingTerminal with
  | [] => (none, s)
  | write :: later =>
    (some write, { s with pendingTerminal := later, popped := s.popped ++ [write] })

/-- `RequestClose` under the lock; the call of `MarkClosed` behind it is a step of its own. -/
def requestClose (s : WriteSide) (reason : StdErrorCode) : WriteSide :=
  if s.readClosedPublished then s
  else { s with
    closeRequested := true
    closeReason := if s.closeRequested then s.closeReason else reason
    acceptance := if s.acceptance = .open' then .settling else s.acceptance }

/-- The first critical section of `MarkClosed`. -/
def markClosed (s : WriteSide) (reason : StdErrorCode) : WriteSide :=
  if s.acceptance = .closed ∧ s.ops = [] ∧ s.readClosedPublished then s
  else
    let reason := if s.closeRequested then s.closeReason else reason
    let settle := if reason.failed then reason else operationCanceled
    let settled := (s.settleOps settle (AcceptedWrite.cancel settle) s.ops).drainQueue
    { settled with
      closeReason := reason
      closeRequested := true
      acceptance := .closed
      lastError := if s.ops = [] then reason else settle
      publishing := if s.readClosedPublished then s.publishing else s.publishing + 1 }

end WriteSide

/-- The steps on the write side. -/
inductive WriteLabel
  | accept (data : Bytes) (alloc : AcceptAlloc) (sealSeen : Bool)
  | pump (maxRounds byteBudget : Nat) (answers : List SinkAnswer)
  | popTerminal
  | requestClose (reason : StdErrorCode)
  | markClosed (reason : StdErrorCode)
  /-- `MarkClosed` sets `m_read_closed_published`. -/
  | publishReadClosed
  | sealService
  deriving DecidableEq, Repr

/-- The write side after a step. -/
def WriteSide.step (s : WriteSide) : WriteLabel → Option WriteSide
  | .accept data alloc sealSeen =>
    if sealSeen ∧ ¬ s.serviceSealed then none else some (s.acceptWrite data alloc sealSeen).2
  | .pump maxRounds byteBudget answers => (s.pumpWrites maxRounds byteBudget answers).map Prod.snd
  | .popTerminal => some s.tryPopTerminal.2
  | .requestClose reason => some (s.requestClose reason)
  | .markClosed reason => some (s.markClosed reason)
  | .publishReadClosed =>
    if s.publishing = 0 then none
    else some { s with readClosedPublished := true, publishing := s.publishing - 1 }
  | .sealService => some { s with serviceSealed := true }

/-- The write sides of all connections. -/
def writeMachine : Machine WriteSide WriteLabel where
  start s := ∃ outboundMax maxOps, s = WriteSide.make outboundMax maxOps
  step := WriteSide.step

end BbtInfra.Net
