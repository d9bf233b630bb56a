import BbtInfra.Lib.Machine

/-!
# Consul client

The adapter owns one HTTP client and closes it when the last operation has left. A step of the
model is one critical section of `Client::State::mutex`, or one stretch of code between two of
them. `OpScope` and `Close` are the two kinds of callers; a call of `CompleteHttpClose`, or of
`WakeAll` behind a publication, has a place of its own that its caller waits for.
-/
namespace BbtInfra.Consul

open Lib

/-- A `CoWaiter`. -/
inductive Waiting
  /-- `WaitWithCallback` has not registered it. -/
  | idle
  /-- It is registered, and its coroutine runs the callback or is about to park. -/
  | pending
  | parked
  | notified
  /-- `WaitWithCallback` has returned or thrown. -/
  | over'
  deriving DecidableEq, Repr

/-- `CoWaiter::Notify`, as `docs/decisions/0002-co-network-contract.md` has it: a wait hears it from its
registration on, also before it parks. Every other waiter stays as it is (`WakeAll` says so). -/
def Waiting.notify : Waiting → Waiting
  | .pending | .parked => .notified
  | waiting => waiting

/-- A waiter of the heap, with the `Close` that created it. -/
structure CoWaiter where
  owner : Nat
  waiting : Waiting := .idle
  deriving DecidableEq, Repr

/-- Where a call of `CompleteHttpClose` stands, or one of `WakeAll`. -/
inductive Publishing
  /-- `http->Close()` is next. -/
  | http
  /-- The critical section behind it. -/
  | publish
  /-- `idle.notify_all()`, before the waiters are notified. -/
  | notify (woken : List Nat)
  | wake (woken : List Nat)
  | done
  deriving DecidableEq, Repr

/-- Where an operation with its `OpScope` stands. -/
inductive OpPc
  | enter
  | refused
  | inside
  /-- `~OpScope` is in `CompleteHttpClose` or `WakeAll`. -/
  | publishing (d : Nat)
  | left
  deriving DecidableEq, Repr

/-- It was admitted and has not left. -/
def OpPc.isInside : OpPc → Bool
  | .inside => true
  | _ => false

/-- Where a `Close` stands. -/
inductive ClosePc
  | seal'
  | publishing (d : Nat)
  /-- `WaitTerminal`. -/
  | await
  | create
  /-- There is a waiter, and `terminal` is looked at. -/
  | register (w : Nat)
  /-- `WaitWithCallback` is called. -/
  | begin' (w : Nat)
  /-- The callback runs. -/
  | armed (w : Nat)
  /-- The callback has found `terminal` and notifies. -/
  | hail (w : Nat)
  /-- The callback has returned. -/
  | park (w : Nat)
  | parked (w : Nat)
  /-- The wait has returned; `tired` when it was cancelled or not available. -/
  | erase (w : Nat) (tired : Bool)
  /-- The wait has thrown. -/
  | withdraw (w : Nat)
  | yield
  /-- `idle.wait`, at its predicate. -/
  | host
  | blocked
  | returned
  deriving DecidableEq, Repr

/-- A call of `Close`, from a coroutine or from a host thread. -/
structure Closer where
  coroutine : Bool
  pc : ClosePc := .seal'
  deriving DecidableEq, Repr

/-- `notify_all` of the condition variable. -/
def Closer.stir (closer : Closer) : Closer :=
  { closer with pc := if closer.pc = .blocked then .host else closer.pc }

/-- What `WaitWithCallback` does at its start. -/
inductive Began
  | waits
  /-- It returns at once: cancelled before, or no runtime. -/
  | refused
  | threw
  deriving DecidableEq, Repr

/-- What happens in a step of `Close`. -/
inductive CloseMove
  | go
  | create (fits : Bool)
  | begin' (began : Began)
  /-- `WaitWithCallback` throws. -/
  | raise
  /-- The wait is cancelled. -/
  | cancel
  /-- The wait on `idle` ends by itself. -/
  | stir
  deriving DecidableEq, Repr

/-- `Client::State`, with its callers. -/
structure ClientState where
  closed : Bool := false
  httpCloseStarted : Bool := false
  httpClosed : Bool := false
  terminal : Bool := false
  inflight : Nat := 0
  coWaiters : List Nat := []
  /-- All waiters, in the order of their creation. -/
  heap : List CoWaiter := []
  /-- How often `http->Close()` was called. -/
  httpCloses : Nat := 0
  /-- How often `terminal` was set. -/
  publications : Nat := 0
  publishing : List Publishing := []
  ops : List OpPc := []
  closers : List Closer := []
  deriving DecidableEq, Repr

/-- The steps of a client. -/
inductive ClientLabel
  | enter
  | op (k : Nat)
  | publishing (d : Nat)
  | close (coroutine : Bool)
  | act (c : Nat) (move : CloseMove)
  deriving DecidableEq, Repr

namespace ClientState

variable (s : ClientState)

/-- `MarkTerminalLocked`, with the waiters it takes off the list when it publishes. -/
def markTerminalLocked : ClientState × Option (List Nat) :=
  if s.terminal ∨ s.inflight ≠ 0 ∨ s.closed = false ∨ s.httpClosed = false then (s, none)
  else
    ({ s with terminal := true, publications := s.publications + 1, coWaiters := [] },
      some s.coWaiters)

/-- `BeginHttpCloseLocked`. -/
def beginHttpCloseLocked : ClientState × Bool :=
  if s.closed = false ∨ s.inflight ≠ 0 ∨ s.httpCloseStarted then (s, false)
  else ({ s with httpCloseStarted := true }, true)

/-- A call of `CompleteHttpClose` or `WakeAll` begins. -/
def spawn (p : Publishing) : ClientState := { s with publishing := s.publishing ++ [p] }

/-- Such a call goes on. -/
def publisher (d : Nat) (p : Publishing) : ClientState :=
  { s with publishing := s.publishing.set d p }

/-- `Notify` of one waiter. -/
def notify (w : Nat) : ClientState :=
  { s with heap := s.heap.modify w fun waiter =>
      { waiter with waiting := waiter.waiting.notify } }

/-- A write to a waiter by its own `Close`. -/
def setWaiting (w : Nat) (waiting : Waiting) : ClientState :=
  { s with heap := s.heap.modify w fun waiter => { waiter with waiting } }

/-- The waiter is registered and was not notified. -/
def unheard (w : Nat) : Bool :=
  s.heap[w]?.any fun waiter => waiter.waiting == .pending || waiter.waiting == .parked

/-- A step of `CompleteHttpClose` or `WakeAll`. -/
def publish (d : Nat) : Publishing → Option ClientState
  | .http => some { s.publisher d .publish with httpCloses := s.httpCloses + 1 }
  | .publish =>
    let (next, woken) := markTerminalLocked { s with httpClosed := true }
    some (next.publisher d (match woken with
      | some woken => .notify woken
      | none => .done))
  | .notify woken =>
    some { s.publisher d (.wake woken) with closers := s.closers.map Closer.stir }
  | .wake [] => some (s.publisher d .done)
  | .wake (w :: woken) => some ((s.notify w).publisher d (.wake woken))
  | .done => none

/-- An operation goes on elsewhere. -/
def opTo (k : Nat) (pc : OpPc) : ClientState := { s with ops := s.ops.set k pc }

/-- `~OpScope` of an admitted operation. -/
def leave (k : Nat) : ClientState :=
  let s := { s with inflight := s.inflight - 1 }
  let d := s.publishing.length
  let (next, closeHttp) := s.beginHttpCloseLocked
  if closeHttp then (next.spawn .http).opTo k (.publishing d)
  else
    let (next, woken) := next.markTerminalLocked
    match woken with
    | some woken => (next.spawn (.notify woken)).opTo k (.publishing d)
    | none => next.opTo k .left

/-- A step of an operation. -/
def operate (k : Nat) : OpPc → Option ClientState
  | .enter =>
    if s.closed then some (s.opTo k .refused)
    else some { s.opTo k .inside with inflight := s.inflight + 1 }
  | .inside => some (s.leave k)
  | .publishing d => if s.publishing[d]? = some .done then some (s.opTo k .left) else none
  | .refused | .left => none

/-- A `Close` goes on elsewhere. -/
def closeTo (c : Nat) (pc : ClosePc) : ClientState :=
  { s with closers := s.closers.modify c fun closer => { closer with pc } }

/-- `CoWaiter::Create`. -/
def create (c : Nat) : ClientState := { s with heap := s.heap ++ [{ owner := c }] }

/-- `co_waiters.push_back`. -/
def enlist (w : Nat) : ClientState := { s with coWaiters := s.coWaiters ++ [w] }

/-- The `erase` of a waiter from `co_waiters`. -/
def delist (w : Nat) : ClientState := { s with coWaiters := s.coWaiters.filter (· ≠ w) }

/-- The first critical section of `Close`. -/
def seal' (c : Nat) : ClientState :=
  let s := { s with closed := true }
  let (next, closeHttp) := s.beginHttpCloseLocked
  if closeHttp then (next.spawn .http).closeTo c (.publishing s.publishing.length)
  else next.closeTo c .await

/-- A step of `Close`. -/
def act (c : Nat) (coroutine : Bool) : ClosePc → CloseMove → Option ClientState
  | .seal', .go => some (s.seal' c)
  | .publishing d, .go =>
    if s.publishing[d]? = some .done then some (s.closeTo c .await) else none
  | .await, .go => some (s.closeTo c (if coroutine then .create else .host))
  | .create, .create fits =>
    if fits then some ((s.create c).closeTo c (.register s.heap.length))
    else some (s.closeTo c .host)
  | .register w, .go =>
    if s.terminal then some (s.closeTo c .returned)
    else some ((s.enlist w).closeTo c (.begin' w))
  | .begin' w, .begin' began =>
    match began with
    | .waits => some ((s.setWaiting w .pending).closeTo c (.armed w))
    | .refused => some ((s.setWaiting w .over').closeTo c (.erase w true))
    | .threw => some ((s.setWaiting w .over').closeTo c (.withdraw w))
  | .armed w, .go => some (s.closeTo c (if s.terminal then .hail w else .park w))
  | .hail w, .go => some ((s.notify w).closeTo c (.park w))
  | .park w, .go =>
    if s.unheard w then some ((s.setWaiting w .parked).closeTo c (.parked w))
    else some ((s.setWaiting w .over').closeTo c (.erase w false))
  | .parked w, .go =>
    if s.unheard w then none
    else some ((s.setWaiting w .over').closeTo c (.erase w false))
  | .park w, .cancel | .parked w, .cancel =>
    some ((s.setWaiting w .over').closeTo c (.erase w true))
  | .armed w, .raise | .hail w, .raise | .park w, .raise =>
    some ((s.setWaiting w .over').closeTo c (.withdraw w))
  | .erase w tired, .go =>
    some ((s.delist w).closeTo c
      (if s.terminal then .returned else if tired then .yield else .create))
  | .withdraw w, .go => some ((s.delist w).closeTo c .host)
  | .yield, .go => some (s.closeTo c .create)
  | .host, .go => some (s.closeTo c (if s.terminal then .returned else .blocked))
  | .blocked, .stir => some (s.closeTo c .host)
  | _, _ => none

/-- The state after one step. -/
def step : ClientLabel → Option ClientState
  | .enter => some { s with ops := s.ops ++ [.enter] }
  | .op k => (s.ops[k]?).bind (s.operate k)
  | .publishing d => (s.publishing[d]?).bind (s.publish d)
  | .close coroutine => some { s with closers := s.closers ++ [{ coroutine }] }
  | .act c move => (s.closers[c]?).bind fun closer => s.act c closer.coroutine closer.pc move

end ClientState

/-- A client from its creation on. -/
def clientMachine : Machine ClientState ClientLabel where
  start s := s = {}
  step := ClientState.step

end BbtInfra.Consul
