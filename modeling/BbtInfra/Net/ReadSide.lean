import BbtInfra.Net.EventRingBuffer
import BbtInfra.Lib.Machine

/-!
# The read side of a connection

Bytes from the socket pass through four places: the receive buffer of the owner (`m_recv_hold`),
the detached bytes of a closing connection, the pending bytes and the ring. The owner runs the
pump of `ConnCore`; any number of consumers call `TryRead`, `TryPopAll` and `TryAccess`. A label
is one critical section or one access to an atomic. Consumers are anonymous: at most one is
inside the data lock, the others have at most a wake of the owner left to do.
-/
namespace BbtInfra.Net

open Lib

/-- The calls that take the data lock to read. -/
inductive ReadEntry
  | read | popAll | access
  deriving DecidableEq, Repr

/-- What a call returns. -/
inductive ReadOutcome
  | ok | wouldBlock | eof
  | streamError (error : StdErrorCode)
  | outOfMemory
  deriving DecidableEq, Repr

/-- Where a consumer stands that holds the data lock. -/
inductive Inside
  | entered (entry : ReadEntry)
  /-- `FlushPendingLocked` merged the pending bytes. -/
  | pendingFlushed (entry : ReadEntry)
  /-- `FlushPendingLocked` merged the detached bytes. -/
  | detachedFlushed (entry : ReadEntry)
  /-- `FlushPendingLocked` stored `m_pending_size`. -/
  | pendingStored (entry : ReadEntry)
  /-- `FlushPendingLocked` has returned. -/
  | flushed (entry : ReadEntry)
  /-- `TerminalLocked` is about to load `m_error`, `m_eof` or `m_closed`. -/
  | loadError (entry : ReadEntry)
  | loadEof (entry : ReadEntry)
  | loadClosed (entry : ReadEntry)
  /-- `CopyConsumeLocked`. -/
  | consuming
  | consumed
  /-- `BuildTakeoutLocked`. -/
  | taking
  | taken
  | takenPending
  /-- A `ReadAccess`, and one that consumed and has not stored `m_size` yet. -/
  | guarded
  | guardConsumed
  | leaving (outcome : ReadOutcome)
  deriving DecidableEq, Repr

/-- Who called `DoReadsOwner`. -/
inductive Via
  | pump | ready
  deriving DecidableEq, Repr

/-- Where the owner stands. The index of `SubmitReceivedOwner` is the round of the loop it
submits for, and none for the held bytes. -/
inductive OwnerPc
  | idle
  | pump
  | lowWater
  | reads (via : Via)
  /-- `SubmitReceivedOwner` before `TryAppend`, and before `AppendDeferred`. -/
  | append (via : Via) (round : Option Nat)
  | defer (via : Via) (round : Option Nat)
  /-- The check of `PendingSize` after a submission. -/
  | checkPending (via : Via) (round : Option Nat)
  | loop (via : Via) (round : Nat)
  | reserve (via : Via) (round want : Nat)
  | receive (via : Via) (round granted : Nat)
  /-- About to set `m_read_paused`. -/
  | pausing (via : Via)
  /-- `DoReadsOwner` has returned. -/
  | arm (via : Via)
  | retry
  /-- The phases of `ShutdownOwner`. -/
  | stage
  | closing
  | markClosed
  | finishing
  deriving DecidableEq, Repr

/-- What `recv` returns. -/
inductive RecvAnswer
  | data (bytes : Bytes)
  | eof | again | interrupted
  | error (error : StdErrorCode)
  deriving DecidableEq, Repr

/-- `kReadChunk`. -/
def kReadChunk : Nat := 16 * 1024

/-- `kReadBudget`. -/
def kReadBudget : Nat := 8

/-- `ReceiveRing` and the read half of `ConnCore`. -/
structure ReadSide where
  ring : EventRingBuffer
  pending : Bytes := []
  detached : Bytes := []
  size : Nat := 0
  pendingSize : Nat := 0
  detachedSize : Nat := 0
  eof : Bool := false
  closed : Bool := false
  error : Option StdErrorCode := none
  rawRetry : Bool := false
  /-- The consumer that holds the data lock. -/
  inside : Option Inside := none
  /-- Consumers that left the data lock and have not woken the owner yet. -/
  waking : Nat := 0
  owner : OwnerPc := .idle
  /-- The bytes of `m_recv_buf` that are in no other place: those that `m_recv_hold` counts, and
  those that `SubmitReceivedOwner` was called with. -/
  hold : Bytes := []
  readWaiting : Bool := false
  readPaused : Bool := false
  readStopped : Bool := false
  connClosed : Bool := false
  backendClosed : Bool := false
  ringClosed : Bool := false
  dirtyQueued : Bool := false
  closeRequested : Bool := false
  sealed : Bool := false
  /-- The bytes the socket gave. -/
  received : Bytes := []
  /-- The bytes the consumers took. -/
  delivered : Bytes := []
  /-- A consumer was told that the stream has ended. -/
  eofSeen : Bool := false
  deriving DecidableEq, Repr

namespace ReadSide

/-- A connection with a limit. -/
def make (maxBytes : Nat) : ReadSide := { ring := { maxBytes } }

/-- `Reactor::ReadLowWater`. -/
def readLowWater (s : ReadSide) : Nat := s.ring.maxBytes / 2

/-- `ReceiveRing::Size`. -/
def totalSize (s : ReadSide) : Nat := s.size + s.detachedSize

/-- `TerminalLocked` finds a terminal. -/
def terminal (s : ReadSide) : Bool := s.error.isSome || s.eof || s.closed

/-- `MarkDirty`. -/
def markDirty (s : ReadSide) : ReadSide := if s.sealed then s else { s with dirtyQueued := true }

/-- The consumer inside goes on. -/
def move (s : ReadSide) (inside : Inside) : ReadSide := { s with inside := some inside }

/-- The owner goes on. -/
def go (s : ReadSide) (owner : OwnerPc) : ReadSide := { s with owner }

/-- The first half of `FlushPendingLocked`; an allocation that throws leaves the call, and no
notification is made. -/
def flushPending (s : ReadSide) (entry : ReadEntry) (allocFails : Bool) : ReadSide :=
  if s.pending.isEmpty then s.move (.pendingFlushed entry)
  else
    match s.ring.append s.pending allocFails with
    | none => { s with inside := none }
    | some (error, ring) =>
      if error.failed then s.move (.pendingFlushed entry)
      else { s with ring, pending := [], inside := some (.pendingFlushed entry) }

/-- The second half of `FlushPendingLocked`; a failed allocation is swallowed. -/
def flushDetached (s : ReadSide) (entry : ReadEntry) (allocFails : Bool) : ReadSide :=
  if s.detachedSize = 0 ∨ s.detached = [] then s.move (.detachedFlushed entry)
  else
    match s.ring.append s.detached allocFails with
    | none => s.move (.detachedFlushed entry)
    | some (error, ring) =>
      if error.failed then s.move (.detachedFlushed entry)
      else { s with
        ring, detached := [], detachedSize := 0, inside := some (.detachedFlushed entry) }

/-- `BuildTakeoutLocked` up to the last detached byte. -/
def takeAll (s : ReadSide) : ReadSide :=
  { s with
    ring := if s.ring.size = 0 then s.ring else s.ring.taken
    pending := []
    detached := []
    detachedSize := 0
    delivered := s.delivered ++ s.ring.storage ++ s.pending ++ s.detached
    inside := some .taken }

/-- The consumer inside takes its next step. -/
def advance (s : ReadSide) (allocFails : Bool) : Inside → Option ReadSide
  | .entered .popAll =>
    if s.ring.size + s.pending.length + s.detachedSize = 0 then some (s.move (.loadError .popAll))
    else some (s.move .taking)
  | .entered entry => some (s.flushPending entry allocFails)
  | .pendingFlushed entry => some (s.flushDetached entry allocFails)
  | .detachedFlushed entry =>
    some { s with pendingSize := s.pending.length, inside := some (.pendingStored entry) }
  | .pendingStored entry =>
    some { s with
      size := s.ring.size + s.pending.length, inside := some (.flushed entry) }
  | .flushed entry =>
    if s.ring.size = 0 then some (s.move (.loadError entry))
    else if entry = .access then some (s.move .guarded)
    else some (s.move .consuming)
  | .loadError entry =>
    match s.error with
    | some error => some (s.move (.leaving (.streamError error)))
    | none => some (s.move (.loadEof entry))
  | .loadEof entry =>
    if s.eof then some { s.move (.leaving .eof) with eofSeen := true }
    else some (s.move (.loadClosed entry))
  | .loadClosed _ =>
    if s.closed then some { s.move (.leaving .eof) with eofSeen := true }
    else some (s.move (.leaving .wouldBlock))
  | .consuming =>
    if allocFails then some (s.move (.leaving .outOfMemory))
    else
      some { s with
        ring := (s.ring.discard s.ring.size).2
        delivered := s.delivered ++ s.ring.storage
        inside := some .consumed }
  | .consumed =>
    some { s with size := s.ring.size + s.pendingSize, inside := some (.leaving .ok) }
  | .taking => if allocFails then some (s.move (.leaving .outOfMemory)) else some s.takeAll
  | .taken => some { s with pendingSize := 0, inside := some .takenPending }
  | .takenPending => some { s with size := 0, inside := some (.leaving .ok) }
  | .guarded => none
  | .guardConsumed =>
    some { s with size := s.ring.size + s.pendingSize, inside := some .guarded }
  | .leaving _ => some { s with inside := none, waking := s.waking + 1 }

/-- `ReadAccess::Consume`. -/
def guardConsume (s : ReadSide) (count : Nat) : ReadSide :=
  if s.ring.size < count then s
  else { s with
    ring := (s.ring.discard count).2
    delivered := s.delivered ++ s.ring.storage.take count
    inside := some .guardConsumed }

/-- `ReadAccess::ConsumeInto`. -/
def guardConsumeInto (s : ReadSide) (allocFails : Bool) : ReadSide :=
  if allocFails then s else s.guardConsume s.ring.size

/-- `SubmitReceivedOwner` has committed the bytes. -/
def submitted (s : ReadSide) (via : Via) (round : Option Nat) : ReadSide :=
  { s with hold := [], owner := .checkPending via round }

/-- `TryAppend` of the held bytes, which stay held when it fails. -/
def tryAppend (s : ReadSide) (via : Via) (round : Option Nat) (allocFails : Bool) : ReadSide :=
  match s.ring.append s.hold allocFails with
  | none => s.go (.arm via)
  | some (error, ring) =>
    if error.failed then s.go (.arm via)
    else { s with ring, size := ring.size + s.pending.length }.submitted via round

/-- `AppendDeferred` of the held bytes, which stay held when it fails. -/
def appendDeferred (s : ReadSide) (via : Via) (round : Option Nat) (allocFails : Bool) :
    ReadSide :=
  if allocFails then s.go (.arm via)
  else
    let pending := s.pending ++ s.hold
    { s with pending, pendingSize := pending.length, size := s.ring.size + pending.length }.submitted
      via round

/-- `TryReserveForAppend`; an allocation that throws leaves the pump. -/
def tryReserve (s : ReadSide) (via : Via) (round want : Nat) (allocFails : Bool) : ReadSide :=
  let used := s.ring.size + s.pending.length + s.detachedSize
  let granted := min want (s.ring.maxBytes - used)
  if granted = 0 then s.go (.pausing via)
  else
    match s.ring.reserve (used + granted) allocFails with
    | none => s.go .idle
    | some (error, ring) =>
      if error.failed then s.go (.pausing via)
      else { s with ring, owner := .receive via round granted }

/-- What the owner does with the answer of `recv`. -/
def received' (s : ReadSide) (via : Via) (round granted : Nat) : RecvAnswer → Option ReadSide
  | .data bytes =>
    if bytes ≠ [] ∧ bytes.length ≤ granted ∧ s.backendClosed = false then
      some { s with
        received := s.received ++ bytes, hold := bytes, owner := .append via (some round) }
    else none
  | .eof => some { s with readStopped := true, eof := true, owner := .arm via }
  | .again => some (s.go (.arm via))
  | .interrupted => some (s.go (.loop via (round + 1)))
  | .error error => some { s with readStopped := true, error := some error, owner := .arm via }

/-- `ArmReadOwner`. -/
def armRead (s : ReadSide) : ReadSide :=
  if s.readWaiting || s.readStopped || s.connClosed then s else { s with readWaiting := true }

/-- The owner takes its next step; `busy` says that it does not get the data lock. -/
def ownerStep (s : ReadSide) (busy allocFails : Bool) (answer : RecvAnswer) :
    OwnerPc → Option ReadSide
  | .idle => none
  | .pump =>
    if s.connClosed then some (s.go .idle)
    else if s.closeRequested || s.sealed then some (s.go .stage)
    else some (s.go .lowWater)
  | .lowWater =>
    let resumed := decide (s.readPaused ∧ s.totalSize < s.readLowWater)
    let next := { s with readPaused := s.readPaused && !resumed }
    if next.readPaused || next.readStopped then some (next.go .retry)
    else some (next.go (.reads .pump))
  | .reads via =>
    if s.connClosed || s.readPaused || s.readStopped then some (s.go (.arm via))
    else if s.hold.isEmpty then some (s.go (.checkPending via none))
    else some (s.go (.append via none))
  | .append via round =>
    if busy then some (s.go (.defer via round))
    else if s.inside.isSome then none
    else some (s.tryAppend via round allocFails)
  | .defer via round =>
    if busy then some (s.go (.arm via))
    else if s.inside.isSome then none
    else some (s.appendDeferred via round allocFails)
  | .checkPending via none =>
    if s.pendingSize ≠ 0 then some (s.go (.arm via)) else some (s.go (.loop via 0))
  | .checkPending via (some round) =>
    if s.pendingSize ≠ 0 then some (s.go (.pausing via)) else some (s.go (.loop via (round + 1)))
  | .loop via round =>
    if kReadBudget ≤ round then some (s.go (.arm via))
    else if s.ring.maxBytes ≤ s.totalSize then some (s.go (.pausing via))
    else some (s.go (.reserve via round (min kReadChunk (s.ring.maxBytes - s.totalSize))))
  | .reserve via round want =>
    if busy then some (s.go (.arm via))
    else if s.inside.isSome then none
    else some (s.tryReserve via round want allocFails)
  | .receive via round granted => s.received' via round granted answer
  | .pausing via => some { s with readPaused := true, owner := .arm via }
  | .arm .pump => some ((if s.readStopped then s else s.armRead).go .retry)
  | .arm .ready => some ((if s.readPaused || s.readStopped then s else s.armRead).go .idle)
  | .retry => some { s with rawRetry := false, owner := .idle }
  | .stage =>
    if s.connClosed then some (s.go .idle)
    else if s.backendClosed then some (s.go .markClosed)
    else if s.hold.isEmpty then some (s.go .closing)
    else if allocFails then some (s.go .idle)
    else
      let detached := s.detached ++ s.hold
      some { s with detached, detachedSize := detached.length, hold := [], owner := .closing }
  | .closing => some { s with backendClosed := true, owner := .markClosed }
  | .markClosed =>
    if s.ringClosed then some (s.go .finishing)
    else some { s with closed := true, ringClosed := true, owner := .finishing }
  | .finishing => some { s with connClosed := true, owner := .idle }

/-- The handler of `ArmReadOwner`, with the error that the wait ended with. -/
def readReady (s : ReadSide) (failure : Option StdErrorCode) (aborted : Bool) : ReadSide :=
  let s := { s with readWaiting := false }
  if s.connClosed || aborted then s
  else
    match failure with
    | some error => { s with readStopped := true, error := some error }
    | none => s.go (.reads .ready)

end ReadSide

/-- The steps on the read side. -/
inductive ReadLabel
  /-- A consumer takes the data lock, or is told that it is busy. -/
  | lock (entry : ReadEntry)
  | busy (entry : ReadEntry)
  | advance (allocFails : Bool)
  | consume (count : Nat)
  | consumeInto (allocFails : Bool)
  | release
  /-- A consumer that left the lock wakes the owner. -/
  | wake
  /-- Anybody wakes the owner, asks for the close or seals the service. -/
  | markDirty
  | requestClose
  | sealService
  /-- The reactor runs the pump of the connection, for its dirty mark or for all connections. -/
  | dequeue
  | pumpAll
  | shutdown
  | readReady (failure : Option StdErrorCode) (aborted : Bool)
  | owner (busy allocFails : Bool) (answer : RecvAnswer)
  deriving DecidableEq, Repr

/-- The read side after a step. -/
def ReadSide.step (s : ReadSide) : ReadLabel → Option ReadSide
  | .lock entry => if s.inside = none then some (s.move (.entered entry)) else none
  | .busy entry => some { s with rawRetry := s.rawRetry || decide (entry ≠ .access) }
  | .advance allocFails => s.inside.bind (s.advance allocFails)
  | .consume count => if s.inside = some .guarded then some (s.guardConsume count) else none
  | .consumeInto allocFails =>
    if s.inside = some .guarded then some (s.guardConsumeInto allocFails) else none
  | .release => if s.inside = some .guarded then some (s.move (.leaving .ok)) else none
  | .wake => if s.waking = 0 then none else some { s.markDirty with waking := s.waking - 1 }
  | .markDirty => some s.markDirty
  | .requestClose => some { s with closeRequested := true }
  | .sealService => some { s with sealed := true }
  | .dequeue =>
    if s.owner = .idle ∧ s.dirtyQueued then some { s with dirtyQueued := false, owner := .pump }
    else none
  | .pumpAll => if s.owner = .idle then some (s.go .pump) else none
  | .shutdown => if s.owner = .idle then some (s.go .stage) else none
  | .readReady failure aborted =>
    if s.owner = .idle ∧ s.readWaiting then some (s.readReady failure aborted) else none
  | .owner busy allocFails answer => s.ownerStep busy allocFails answer s.owner

/-- The read sides of connections with a limit. -/
def readMachine (maxBytes : Nat) : Machine ReadSide ReadLabel where
  start s := s = ReadSide.make maxBytes
  step := ReadSide.step

end BbtInfra.Net
