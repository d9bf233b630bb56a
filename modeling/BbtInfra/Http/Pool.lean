import BbtInfra.Lib.Machine
import BbtInfra.NetError

/-!
# The connection pool of the HTTP client

`ConnectionPool` with any number of running `Acquire` calls and leases. A label is one critical
section under the mutex of the pool, or what a call does between two of them: it waits, dials or
reads the clock. The network changes its connections at any time. A wait may end in each of its
ways at any time, so that a `Notify` needs no step of its own.
-/
namespace BbtInfra.Http

open Lib

/-- `Origin`. -/
structure Origin where
  scheme : Bytes
  host : Bytes
  port : UInt16
  deriving DecidableEq, Repr

/-- `PoolLimits`, with the times in milliseconds. -/
structure PoolLimits where
  maxConnections : Nat := 8
  maxKeepaliveConnections : Nat := 4
  keepaliveExpiry : Option Nat := some 15000
  maxQueue : Nat := 32
  deriving DecidableEq, Repr

/-- `ConnectionPool::Phase`. -/
inductive PoolPhase
  | open' | draining | closed
  deriving DecidableEq, Repr

/-- `Entry::Phase`. -/
inductive EntryPhase
  | dialing | active | idle | retiring
  deriving DecidableEq, Repr

/-- `Entry`. A connection and the receipt of its dial are named by the number of the dial; the
time of expiry is none for the end of time. -/
structure Entry where
  /-- Where the entry is in memory. -/
  id : Nat
  phase : EntryPhase := .dialing
  origin : Origin
  connection : Option Nat := none
  reclaim : Option Nat := none
  expireAt : Option Nat := none
  deriving DecidableEq, Repr

/-- What a submitted dial has become, as far as the pool can see it. -/
structure NetConn where
  /-- The origin whose address was dialled. -/
  origin : Origin
  closed : Bool := false
  readEof : Bool := false
  readError : Bool := false
  readableBytes : Nat := 0
  released : Bool := false
  deriving DecidableEq, Repr

/-- Nothing speaks against reading the next response from this connection. -/
def NetConn.fresh (conn : NetConn) : Bool :=
  !conn.closed && !conn.readEof && !conn.readError && decide (conn.readableBytes = 0)

/-- What the network does to a connection. -/
inductive NetChange
  | closed | readEof | readError
  | readable (bytes : Nat)
  | released
  deriving DecidableEq, Repr

/-- The connection afterwards. -/
def NetChange.apply : NetChange → NetConn → NetConn
  | .closed, conn => { conn with closed := true }
  | .readEof, conn => { conn with readEof := true }
  | .readError, conn => { conn with readError := true }
  | .readable bytes, conn => { conn with readableBytes := bytes }
  | .released, conn => { conn with closed := true, released := true }

/-- `bbt::coroutine::WaitStatus`. -/
inductive WaitStatus
  | completed | timedOut | cancelled | unavailable
  deriving DecidableEq, Repr

/-- What `DialReserved` gets from `CheckCall` and `CoDial`. -/
inductive DialAnswer
  /-- An error before anything was submitted. -/
  | refused (error : StdErrorCode)
  | failed (error : StdErrorCode)
  | connected
  deriving DecidableEq, Repr

/-- `ConnectionResult`, with the record behind the receipt. -/
inductive DialResult
  | failed (error : StdErrorCode) (record : Option Nat)
  | connected (record : Nat)
  deriving DecidableEq, Repr

/-- How an `Acquire` fails. -/
inductive AcquireExit
  /-- `CheckCall` at the entrance. -/
  | gate (error : StdErrorCode)
  /-- `ClosedErrorLocked`. -/
  | closed (reason : Error)
  | poolTimeout
  | waiterAlloc
  | queueFull
  | cancelled
  | unavailable
  | connect (error : StdErrorCode)
  /-- `make_shared` of the connection has thrown. -/
  | thrown (what : Bytes)
  deriving DecidableEq, Repr

/-- `error == std::errc::operation_canceled`. -/
def isCancelled (error : StdErrorCode) : Bool :=
  decide (error = .generic 125 ∨ error = .system 125)

/-- `error == std::errc::timed_out`. -/
def isTimedOut (error : StdErrorCode) : Bool :=
  decide (error = .generic 110 ∨ error = .system 110)

/-- The error that the caller gets; `message` is `error_code::message`. -/
def AcquireExit.error (message : StdErrorCode → Bytes) : AcquireExit → Error
  | .gate error =>
    makeError (if isCancelled error then .cancelled else .timedOut)
      (text "http pool: call ended before acquisition")
  | .closed reason => reason
  | .poolTimeout => makeError .timedOut (text "http pool: pool wait timeout")
  | .waiterAlloc => makeError .internalError (text "http pool: waiter alloc failed")
  | .queueFull => makeError .overloaded (text "http pool: queue full")
  | .cancelled => makeError .cancelled (text "http pool: acquire cancelled")
  | .unavailable => makeError .internalError (text "http pool: wait unavailable")
  | .connect error =>
    if isCancelled error then makeError .cancelled (text "http pool: connect cancelled")
    else if isTimedOut error then makeError .timedOut (text "http pool: connect timeout")
    else netToError error (text "http pool: connect failed: " ++ message error)
  | .thrown what => makeError .internalError what

/-- Where a call of `Acquire` stands, and its lease behind it. -/
inductive CallPc
  /-- Counted; before `CheckCall`. -/
  | entered
  /-- Before the fast path. -/
  | fast
  /-- Before the section that dials within the budget. -/
  | reserve
  /-- At the top of the loop. -/
  | slice
  | enqueue (sliceEnd : Nat)
  /-- In `WaitWithCallback`, before the callback. -/
  | registering (sliceEnd : Nat)
  | parked (sliceEnd : Nat)
  | woken (status : WaitStatus)
  /-- Behind the section that claims what was handed over. -/
  | judge (status : WaitStatus)
  | dialing (entry : Nat)
  | dialled (entry : Nat) (result : DialResult)
  /-- `AcquireBody` has returned an error. -/
  | failing (exit : AcquireExit)
  | returned (exit : AcquireExit)
  | leased (connection : Nat)
  | released
  deriving DecidableEq, Repr

/-- A call of `Acquire` with the `Waiter` of its slice. -/
structure Call where
  origin : Origin
  /-- `deadlines.pool`. -/
  deadline : Option Nat := none
  pc : CallPc := .entered
  /-- `handed` of the waiter, with `has_handed`. -/
  handed : Option Nat := none
  /-- It was in the queue once. -/
  admitted : Bool := false
  deriving DecidableEq, Repr

/-- A call of `Shutdown`. -/
inductive ShutdownPc
  | waiting
  /-- It returned ok when this many were in flight. -/
  | ok (inflight : Nat)
  | err (error : Error)
  deriving DecidableEq, Repr

/-- An existing connection goes to a call, with what the critical section saw of it. -/
structure Give where
  caller : Nat
  connection : Nat
  seen : Option NetConn
  deriving DecidableEq, Repr

/-- `ConnectionPool::State` with its calls and the connections of the engine. -/
structure PoolState where
  limits : PoolLimits
  phase : PoolPhase := .open'
  closeReason : Option Error := none
  inflight : Nat := 0
  entries : List Entry := []
  /-- The queued calls. -/
  waiters : List Nat := []
  calls : List Call := []
  shutdowns : List ShutdownPc := []
  conns : List NetConn := []
  /-- Where the next entry will be in memory. -/
  nextEntry : Nat := 0
  now : Nat := 0
  given : List Give := []
  /-- A dial has written to an entry that was freed. -/
  dangling : Bool := false
  deriving DecidableEq, Repr

/-- `PoolStats`. -/
structure PoolStats where
  active : Nat
  idle : Nat
  dialing : Nat
  retiring : Nat
  budget : Nat
  waiting : Nat
  deriving DecidableEq, Repr

namespace PoolState

/-- A pool with limits. -/
def make (limits : PoolLimits) : PoolState := { limits }

/-- `ClosedErrorLocked`. -/
def closedErrorLocked (s : PoolState) : Error :=
  s.closeReason.getD (makeError .closed (text "http pool: closed"))

/-- `FindLocked`. -/
def findLocked (s : PoolState) (connection : Nat) : Option Entry :=
  s.entries.find? fun entry => decide (entry.connection = some connection)

/-- `DequeueLocked`. -/
def dequeueLocked (s : PoolState) (i : Nat) : PoolState := { s with waiters := s.waiters.erase i }

/-- Write to the entry at this place in memory. -/
def updateEntry (s : PoolState) (id : Nat) (f : Entry → Entry) : PoolState :=
  { s with entries := s.entries.map fun entry => if entry.id = id then f entry else entry }

/-- Write to a call. -/
def setCall (s : PoolState) (i : Nat) (call : Call) : PoolState :=
  { s with calls := s.calls.set i call }

/-- An entry behind `RetireLocked`. The request to close reaches the connection by and by. -/
def retired (entry : Entry) : Entry := { entry with phase := .retiring }

/-- `RetireLocked`. -/
def retireLocked (s : PoolState) (id : Nat) : PoolState := s.updateEntry id retired

/-- `Released` of a connection or a receipt. -/
def isReleased (s : PoolState) (record : Nat) : Bool := (s.conns[record]?).all NetConn.released

/-- `SweepLocked` may erase this retiring entry. -/
def reclaimed (s : PoolState) (entry : Entry) : Bool :=
  match entry.connection with
  | some connection => s.isReleased connection
  | none => entry.reclaim.all s.isReleased

/-- The public observations of `SweepLocked` speak against this idle entry. -/
def stale (s : PoolState) (entry : Entry) : Bool :=
  (entry.connection.bind fun connection => s.conns[connection]?).any fun conn => !conn.fresh

/-- The keepalive of an idle entry has expired. -/
def expired (s : PoolState) (entry : Entry) : Bool :=
  s.limits.keepaliveExpiry.isSome && entry.expireAt.any fun time => decide (time ≤ s.now)

/-- What `SweepLocked` makes of one entry. -/
def sweepEntry (s : PoolState) (entry : Entry) : Option Entry :=
  match entry.phase with
  | .retiring => if s.reclaimed entry then none else some entry
  | .idle => if s.stale entry || s.expired entry then some (retired entry) else some entry
  | .dialing | .active => some entry

/-- `SweepLocked`. -/
def sweepLocked (s : PoolState) : PoolState :=
  { s with entries := s.entries.filterMap s.sweepEntry }

/-- The first idle entry of an origin, with its connection. -/
def findIdle (s : PoolState) (origin : Origin) : Option (Entry × Nat) :=
  (s.entries.find? fun entry => decide (entry.phase = .idle ∧ entry.origin = origin)).bind
    fun entry => entry.connection.map fun connection => (entry, connection)

/-- An entry that `TakeIdleLocked` takes. -/
def taken (entry : Entry) : Entry := { entry with phase := .active, expireAt := none }

/-- A connection goes to a call. -/
def give (s : PoolState) (caller connection : Nat) (seen : Option NetConn) : PoolState :=
  { s with given := s.given ++ [{ caller, connection, seen }] }

/-- `TakeIdleLocked` behind the sweep of its section, for the call that gets the connection. -/
def takeIdleLocked (s : PoolState) (i : Nat) (entry : Entry) (connection : Nat) : PoolState :=
  (s.updateEntry entry.id taken).give i connection s.conns[connection]?

/-- The number of entries in a phase. -/
def count (s : PoolState) (phase : EntryPhase) : Nat :=
  s.entries.countP fun entry => decide (entry.phase = phase)

/-- `AdmitToIdleLocked`. -/
def admitToIdleLocked (s : PoolState) (id : Nat) : PoolState :=
  if s.phase ≠ .open' then s.retireLocked id
  else if s.count .idle < s.limits.maxKeepaliveConnections then
    s.updateEntry id fun entry =>
      { entry with phase := .idle, expireAt := s.limits.keepaliveExpiry.map (s.now + ·) }
  else s.retireLocked id

/-- The first queued call of an origin. -/
def nextWaiter (s : PoolState) (origin : Origin) : Option (Nat × Call) :=
  (s.waiters.find? fun i => (s.calls[i]?).any fun call => decide (call.origin = origin)).bind
    fun i => (s.calls[i]?).map fun call => (i, call)

/-- The connection of this entry goes to a queued call. -/
def handOver (s : PoolState) (id connection i : Nat) (call : Call) : PoolState :=
  (((s.updateEntry id fun entry => { entry with phase := .active }).setCall i
    { call with handed := some connection }).dequeueLocked i).give i connection none

/-- What `Release` and `AdmitHandedLocked` do with the connection. -/
def returnLocked (s : PoolState) (connection : Nat) (healthy : Bool) : PoolState :=
  match s.findLocked connection with
  | none => s
  | some entry =>
    if !healthy || decide (s.phase ≠ .open') then s.retireLocked entry.id
    else
      match s.nextWaiter entry.origin with
      | some (i, call) => s.handOver entry.id connection i call
      | none => s.admitToIdleLocked entry.id

/-- `AdmitHandedLocked`, of a connection that its waiter does not hold any more. -/
def admitHandedLocked (s : PoolState) (connection : Nat) : PoolState :=
  s.returnLocked connection true

/-- `RetireOtherIdleLocked`. -/
def retireOtherIdleLocked (s : PoolState) (origin : Origin) : PoolState :=
  match s.entries.find? fun entry => decide (entry.phase = .idle ∧ entry.origin ≠ origin) with
  | some entry => s.retireLocked entry.id
  | none => s

/-- The call goes on. -/
def move (s : PoolState) (i : Nat) (call : Call) (pc : CallPc) : PoolState :=
  s.setCall i { call with pc }

/-- The call reserves an entry and goes to `DialReserved`. -/
def reserveDial (s : PoolState) (i : Nat) (call : Call) : PoolState :=
  { s.move i call (.dialing s.nextEntry) with
    entries := s.entries ++ [{ id := s.nextEntry, origin := call.origin }]
    nextEntry := s.nextEntry + 1 }

/-- The fast path. -/
def fastPath (s : PoolState) (i : Nat) (call : Call) : PoolState :=
  if s.phase ≠ .open' then s.move i call (.failing (.closed s.closedErrorLocked))
  else
    match s.sweepLocked.findIdle call.origin with
    | some (entry, connection) =>
      (s.sweepLocked.takeIdleLocked i entry connection).move i call (.leased connection)
    | none => s.sweepLocked.move i call .reserve

/-- The section that dials within the budget. -/
def dialWithinBudget (s : PoolState) (i : Nat) (call : Call) : PoolState :=
  if s.phase ≠ .open' then s.move i call (.failing (.closed s.closedErrorLocked))
  else if s.entries.length < s.limits.maxConnections then s.reserveDial i call
  else s.move i call .slice

/-- The deadline of the pool phase has passed. -/
def late (s : PoolState) (call : Call) : Bool := call.deadline.any fun time => decide (time ≤ s.now)

/-- The end of the slice that begins now. -/
def sliceEnd (s : PoolState) (call : Call) : Nat :=
  (call.deadline.map (min (s.now + 20))).getD (s.now + 20)

/-- The section of the loop that enters the queue. -/
def enqueueSection (s : PoolState) (i : Nat) (call : Call) (sliceEnd : Nat) : PoolState :=
  if s.phase ≠ .open' then s.move i call (.failing (.closed s.closedErrorLocked))
  else
    match s.sweepLocked.findIdle call.origin with
    | some (entry, connection) =>
      (s.sweepLocked.takeIdleLocked i entry connection).move i call (.leased connection)
    | none =>
      if s.sweepLocked.entries.length < s.limits.maxConnections then s.sweepLocked.reserveDial i call
      else if s.limits.maxQueue ≤ s.waiters.length then
        (s.sweepLocked.retireOtherIdleLocked call.origin).move i call (.failing .queueFull)
      else
        { (s.sweepLocked.retireOtherIdleLocked call.origin).setCall i
            { call with pc := .registering sliceEnd, handed := none, admitted := true } with
          waiters := s.waiters ++ [i] }

/-- The callback of `WaitWithCallback`. -/
def callbackSection (s : PoolState) (i : Nat) (call : Call) (sliceEnd : Nat) : PoolState :=
  if call.handed.isSome || decide (s.phase ≠ .open') then s.move i call (.parked sliceEnd)
  else
    match s.sweepLocked.findIdle call.origin with
    | some (entry, connection) =>
      ((s.sweepLocked.takeIdleLocked i entry connection).setCall i
        { call with pc := .parked sliceEnd, handed := some connection }).dequeueLocked i
    | none => s.sweepLocked.move i call (.parked sliceEnd)

/-- The section behind the wait. -/
def claimSection (s : PoolState) (i : Nat) (call : Call) (status : WaitStatus) : PoolState :=
  let s := s.dequeueLocked i
  match call.handed with
  | none => s.move i call (.judge status)
  | some connection =>
    if status = .completed then
      s.setCall i { call with pc := .leased connection, handed := none }
    else
      (s.setCall i { call with pc := .judge status, handed := none }).admitHandedLocked connection

/-- What follows from the end of the wait. -/
def judgement (s : PoolState) (call : Call) (status : WaitStatus) : CallPc :=
  if status = .cancelled then .failing .cancelled
  else if s.late call then .failing .poolTimeout
  else if status ≠ .completed ∧ status ≠ .timedOut then .failing .unavailable
  else .slice

/-- The section of `DialReserved`. Its writes go to wherever the entry was. -/
def settleDial (s : PoolState) (i : Nat) (call : Call) (id : Nat) (result : DialResult)
    (thrown : Option Bytes) : PoolState :=
  let s := { s with dangling := s.dangling || !s.entries.any fun entry => decide (entry.id = id) }
  match result with
  | .failed error record =>
    (s.updateEntry id fun entry => { entry with reclaim := record, phase := .retiring }).move i call
      (.failing (.connect error))
  | .connected record =>
    let dialled := fun (phase : EntryPhase) =>
      s.updateEntry id fun entry => { entry with connection := record, reclaim := record, phase }
    if s.phase ≠ .open' then
      (dialled .retiring).move i call (.failing (.closed s.closedErrorLocked))
    else
      match thrown with
      | some what => (dialled .retiring).move i call (.failing (.thrown what))
      | none => (dialled .active).move i call (.leased record)

/-- The answer of `CoDial` for a call that reserved an entry. -/
def dialAnswer (s : PoolState) (i : Nat) (call : Call) (id : Nat) : DialAnswer → Option PoolState
  | .refused error =>
    if error.failed then some (s.move i call (.dialled id (.failed error none))) else none
  | .failed error =>
    if error.failed then
      some { s.move i call (.dialled id (.failed error s.conns.length)) with
        conns := s.conns ++ [{ origin := call.origin }] }
    else none
  | .connected =>
    some { s.move i call (.dialled id (.connected s.conns.length)) with
      conns := s.conns ++ [{ origin := call.origin }] }

/-- `Lease::Release`. -/
def release (s : PoolState) (i : Nat) (call : Call) (connection : Nat) (healthy : Bool) :
    PoolState :=
  ({ s with inflight := s.inflight - 1 }.move i call .released).returnLocked connection healthy

/-- What `Stats` returns behind its sweep. -/
def stats (s : PoolState) : PoolStats where
  active := s.sweepLocked.count .active
  idle := s.sweepLocked.count .idle
  dialing := s.sweepLocked.count .dialing
  retiring := s.sweepLocked.count .retiring
  budget := s.sweepLocked.entries.length
  waiting := s.waiters.length

/-- `Close`. -/
def close (s : PoolState) (reason : Error) : PoolState :=
  let s := { s with closeReason := some (s.closeReason.getD reason) }
  if s.phase = .closed then s
  else { s with phase := .closed, entries := s.entries.map retired, waiters := [] }

/-- `Shutdown` up to its loop. -/
def shutdown (s : PoolState) : PoolState :=
  match s.phase with
  | .closed => { s with shutdowns := s.shutdowns ++ [.err s.closedErrorLocked] }
  | .draining =>
    { s with
      shutdowns := s.shutdowns ++
        [if s.inflight = 0 then .ok s.inflight
          else .err (makeError .overloaded (text "http pool: shutdown already in progress"))] }
  | .open' =>
    { s with phase := .draining, waiters := [], shutdowns := s.shutdowns ++ [.waiting] }

/-- One round of the loop of `Shutdown`. -/
def drainRound (s : PoolState) (late : Bool) : ShutdownPc :=
  if s.inflight = 0 then .ok s.inflight
  else
    match s.closeReason with
    | some reason => .err reason
    | none =>
      if late then .err (makeError .timedOut (text "http pool: shutdown deadline expired"))
      else .waiting

end PoolState

/-- The steps of a pool. -/
inductive PoolLabel
  /-- `Acquire` up to its count. -/
  | acquire (origin : Origin) (deadline : Option Nat)
  /-- `CheckCall` at the entrance of `AcquireBody`. -/
  | check (i : Nat) (failure : Option StdErrorCode)
  /-- The next section of a call; `thrown` says that its allocation fails. -/
  | act (i : Nat) (thrown : Option Bytes)
  | callback (i : Nat)
  | resume (i : Nat) (status : WaitStatus)
  | dial (i : Nat) (answer : DialAnswer)
  | release (i : Nat) (healthy : Bool)
  | stats
  | close (reason : Error)
  | shutdown
  | drain (j : Nat) (late : Bool)
  | tick
  | net (connection : Nat) (change : NetChange)
  deriving DecidableEq, Repr

namespace PoolState

/-- The next section of a call. -/
def act (s : PoolState) (i : Nat) (call : Call) (thrown : Option Bytes) : Option PoolState :=
  match call.pc with
  | .fast => some (s.fastPath i call)
  | .reserve => some (s.dialWithinBudget i call)
  | .slice =>
    if s.late call then some (s.move i call (.failing .poolTimeout))
    else if thrown.isSome then some (s.move i call (.failing .waiterAlloc))
    else some (s.move i call (.enqueue (s.sliceEnd call)))
  | .enqueue sliceEnd => some (s.enqueueSection i call sliceEnd)
  | .woken status => some (s.claimSection i call status)
  | .judge status => some (s.move i call (s.judgement call status))
  | .dialled id result => some (s.settleDial i call id result thrown)
  | .failing exit => some ({ s with inflight := s.inflight - 1 }.move i call (.returned exit))
  | _ => none

/-- The end of the wait of a call. -/
def resume (s : PoolState) (i : Nat) (call : Call) (status : WaitStatus) : Option PoolState :=
  match call.pc with
  | .registering sliceEnd | .parked sliceEnd =>
    if status = .timedOut ∧ s.now < sliceEnd then none else some (s.move i call (.woken status))
  | _ => none

/-- The pool after a step. -/
def step (s : PoolState) : PoolLabel → Option PoolState
  | .acquire origin deadline =>
    if s.phase ≠ .open' then
      some { s with
        calls := s.calls ++ [{ origin, deadline, pc := .returned (.closed s.closedErrorLocked) }] }
    else some { s with calls := s.calls ++ [{ origin, deadline }], inflight := s.inflight + 1 }
  | .check i failure =>
    (s.calls[i]?).bind fun call =>
      if call.pc = .entered then
        some (s.move i call ((failure.map fun error => CallPc.failing (.gate error)).getD .fast))
      else none
  | .act i thrown => (s.calls[i]?).bind fun call => s.act i call thrown
  | .callback i =>
    (s.calls[i]?).bind fun call =>
      match call.pc with
      | .registering sliceEnd => some (s.callbackSection i call sliceEnd)
      | _ => none
  | .resume i status => (s.calls[i]?).bind fun call => s.resume i call status
  | .dial i answer =>
    (s.calls[i]?).bind fun call =>
      match call.pc with
      | .dialing id => s.dialAnswer i call id answer
      | _ => none
  | .release i healthy =>
    (s.calls[i]?).bind fun call =>
      match call.pc with
      | .leased connection => some (s.release i call connection healthy)
      | _ => none
  | .stats => some s.sweepLocked
  | .close reason => some (s.close reason)
  | .shutdown => some s.shutdown
  | .drain j late =>
    if s.shutdowns[j]? = some .waiting then
      some { s with shutdowns := s.shutdowns.set j (s.drainRound late) }
    else none
  | .tick => some { s with now := s.now + 1 }
  | .net connection change => some { s with conns := s.conns.modify connection change.apply }

end PoolState

/-- The pools with these limits. -/
def poolMachine (limits : PoolLimits) : Machine PoolState PoolLabel where
  start s := s = PoolState.make limits
  step := PoolState.step

end BbtInfra.Http
