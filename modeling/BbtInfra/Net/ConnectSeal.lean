import BbtInfra.Lib.Census
import BbtInfra.Lib.Machine

/-!
# Pending connects and the seal of a reactor

One owner runs `BeginConnectOnOwner`, the callbacks of the connects it has begun and the seal, each
from its beginning to its end. `m_pending_connect_callbacks` is counted up when a connect begins and
down by hand on every exit; the seal leaves its completion for the last of them. What a system call
or a wait came to, and what a reading of the engine's own seal saw, is chosen by the label.
-/
namespace BbtInfra.Net

open Lib (Machine)

/-- Where a connect stands: which callback it waits for, or that it was resolved. -/
inductive ConnectStage
  /-- The timer of the start. -/
  | startDelay
  /-- `async_wait` on the socket. -/
  | connecting
  /-- The timer of a delayed delivery. -/
  | delivering
  | resolved
  /-- Its delivery timer has failed, and nothing is to come. -/
  | stranded
  deriving DecidableEq, Repr

/-- One call of `BeginConnectOnOwner`. -/
structure Connect where
  stage : ConnectStage
  /-- Whether the call was counted, or refused before. -/
  begun : Bool := true
  /-- `ConnectPending::canceled`. -/
  canceled : Bool := false
  /-- How often `FinishConnectCallback` was called for it. -/
  finishes : Nat := 0
  deriving DecidableEq, Repr

/-- A connection in `m_conns`. -/
structure RegisteredConn where
  id : Nat
  closed : Bool := false
  deriving DecidableEq, Repr

/-- What a completion of the seal found. -/
structure SealReport where
  pending : Nat
  unresolved : Nat
  registered : Nat
  deriving DecidableEq, Repr

/-- A reactor as far as its connects and its seal go. -/
structure ConnectReactor where
  sealed : Bool := false
  pendingCallbacks : Nat := 0
  /-- `m_on_pending_zero` holds the completion. -/
  onPendingZero : Bool := false
  connects : List Connect := []
  conns : List RegisteredConn := []
  nextConnId : Nat := 1
  /-- The seal was posted, once for each reactor. -/
  sealPosted : Bool := false
  /-- `FinishConnectCallback` found the counter at zero. -/
  finishedAtZero : Bool := false
  completions : List SealReport := []

/-- A connect that was counted and is not resolved. -/
def Connect.unresolved (connect : Connect) : Bool :=
  connect.begun && decide (connect.stage ≠ .resolved)

/-- Resolved by `ResolveConnect`. -/
def Connect.resolve (connect : Connect) : Connect := { connect with stage := .resolved }

/-- One more call of `FinishConnectCallback`. -/
def Connect.finish (connect : Connect) : Connect :=
  { connect with finishes := connect.finishes + 1 }

/-- `canceled` is set for what stands in `m_pending_connects`. -/
def Connect.cancel (connect : Connect) : Connect :=
  match connect.stage with
  | .startDelay | .connecting => { connect with canceled := true }
  | .delivering | .resolved | .stranded => connect

/-- What `StartConnectSocketOnOwner` meets. -/
structure StartChoices where
  engineSealed : Bool := false
  socketError : Bool := false
  assignError : Bool := false
  waitThrows : Bool := false

/-- What `AdoptFdOnOwner` meets. -/
structure AdoptChoices where
  engineSealed : Bool := false
  deliveryDelay : Bool := false
  assignError : Bool := false
  nonBlockingError : Bool := false
  sealedAtDelivery : Bool := false
  /-- `ResolveConnect` finds nobody. -/
  abandoned : Bool := false

/-- What `ShutdownOwner` does to one connection: it is closed, it stays open because the bytes that
it holds cannot be staged, or an exception leaves it. -/
inductive ShutdownOutcome
  | closed | kept | threw
  deriving DecidableEq, Repr

/-- How the loop of the seal ends. -/
inductive LoopEnd
  | done | kept | threw
  deriving DecidableEq, Repr

/-- The loop of the seal over `m_conns`. A connection that is closed already takes no outcome. -/
def sealLoop : List RegisteredConn → List ShutdownOutcome → List RegisteredConn × LoopEnd
  | [], _ => ([], .done)
  | conn :: rest, outcomes =>
    if conn.closed then sealLoop rest outcomes
    else
      match outcomes with
      | [] => sealLoop rest []
      | .closed :: more => sealLoop rest more
      | .kept :: _ => (conn :: rest, .kept)
      | .threw :: _ => (conn :: rest, .threw)

namespace ConnectReactor

variable (s : ConnectReactor)

/-- The connects that have been begun and not been resolved. -/
def unresolved : Nat := s.connects.countP Connect.unresolved

/-- The completion of the seal runs. -/
def complete : ConnectReactor :=
  { s with completions := s.completions ++
      [{ pending := s.pendingCallbacks, unresolved := s.unresolved
         registered := s.conns.length }] }

/-- A connect is written. -/
def write (k : Nat) (f : Connect → Connect) : ConnectReactor :=
  { s with connects := s.connects.modify k f }

/-- `FinishConnectCallback`, on behalf of one connect. -/
def finishConnectCallback (k : Nat) : ConnectReactor :=
  let s := s.write k Connect.finish
  if s.pendingCallbacks = 0 then { s with finishedAtZero := true }
  else
    let s := { s with pendingCallbacks := s.pendingCallbacks - 1 }
    if s.pendingCallbacks = 0 ∧ s.onPendingZero = true then
      { s with onPendingZero := false }.complete
    else s

/-- `ResolveConnect`, then `FinishConnectCallback`. -/
def conclude (k : Nat) : ConnectReactor :=
  (s.write k Connect.resolve).finishConnectCallback k

/-- A new connection is registered. -/
def register (closed : Bool) : ConnectReactor :=
  { s with
    conns := s.conns ++ [{ id := s.nextConnId, closed }]
    nextConnId := s.nextConnId + 1 }

/-- A connect waits for another callback. -/
def await (k : Nat) (stage : ConnectStage) : ConnectReactor :=
  s.write k fun connect => { connect with stage }

/-- `AdoptFdOnOwner` for a connect. A fresh connection holds no bytes, so that both ways of shutting
it down close it. -/
def adoptFdOnOwner (k : Nat) (delayedDelivery : Bool) (choices : AdoptChoices) : ConnectReactor :=
  if s.sealed || choices.engineSealed then s.conclude k
  else if !delayedDelivery && choices.deliveryDelay then s.await k .delivering
  else if choices.assignError then s.conclude k
  else if choices.nonBlockingError then s.conclude k
  else if choices.sealedAtDelivery then (s.register true).conclude k
  else if choices.abandoned then (s.register true).conclude k
  else (s.register false).conclude k

/-- `StartConnectSocketOnOwner`. Where `async_wait` throws, the counter is settled before the connect
is resolved. -/
def startConnectSocketOnOwner (k : Nat) (choices : StartChoices) : ConnectReactor :=
  if s.sealed || choices.engineSealed then s.conclude k
  else if choices.socketError then s.conclude k
  else if choices.assignError then s.conclude k
  else if choices.waitThrows then (s.finishConnectCallback k).write k Connect.resolve
  else s.await k .connecting

/-- `BeginConnectOnOwner`. -/
def beginConnectOnOwner (engineSealed startDelay : Bool) (choices : StartChoices) :
    ConnectReactor :=
  if s.sealed || engineSealed then
    { s with connects := s.connects ++ [{ stage := .resolved, begun := false }] }
  else
    let counted :=
      { s with
        pendingCallbacks := s.pendingCallbacks + 1
        connects := s.connects ++ [{ stage := .startDelay }] }
    if startDelay then counted
    else counted.startConnectSocketOnOwner s.connects.length choices

/-- The callback of the start timer. -/
def startTimer (k : Nat) (connect : Connect) (failed engineSealed : Bool)
    (choices : StartChoices) : ConnectReactor :=
  if failed then s.conclude k
  else if s.sealed || engineSealed || connect.canceled then s.conclude k
  else s.startConnectSocketOnOwner k choices

/-- The callback of `async_wait`. -/
def waited (k : Nat) (connect : Connect) (waitError socketError : Bool) (choices : AdoptChoices) :
    ConnectReactor :=
  if connect.canceled then s.conclude k
  else if waitError then s.conclude k
  else if socketError then s.conclude k
  else s.adoptFdOnOwner k false choices

/-- The callback of a delayed delivery. Its error path neither resolves the connect nor settles the
counter. -/
def delivered (k : Nat) (failed : Bool) (choices : AdoptChoices) : ConnectReactor :=
  if failed then s.await k .stranded else s.adoptFdOnOwner k true choices

/-- One call of `SealServiceOnOwner`, and whether an exception leaves it. -/
def sealServiceOnOwner (outcomes : List ShutdownOutcome) : ConnectReactor × Bool :=
  let s := { s with sealed := true, connects := s.connects.map Connect.cancel }
  let looped := sealLoop s.conns outcomes
  let s := { s with conns := looped.1 }
  if looped.2 = .threw then (s, true)
  else if s.pendingCallbacks = 0 then (s.complete, false)
  else ({ s with onPendingZero := true }, false)

/-- The seal as it is posted: a call that is left by an exception is repeated once. -/
def postedSeal (throwsEarly : Bool) (first second : List ShutdownOutcome) : ConnectReactor :=
  let attempt := if throwsEarly then (s, true) else s.sealServiceOnOwner first
  if attempt.2 then (attempt.1.sealServiceOnOwner second).1 else attempt.1

end ConnectReactor

/-- One handler of the owner. -/
inductive ConnectLabel
  | beginConnect (engineSealed startDelay : Bool) (choices : StartChoices)
  | startTimer (k : Nat) (failed engineSealed : Bool) (choices : StartChoices)
  | waited (k : Nat) (waitError socketError : Bool) (choices : AdoptChoices)
  | delivered (k : Nat) (failed : Bool) (choices : AdoptChoices)
  /-- A connect in `m_pending_connects` is canceled. -/
  | cancelConnect (k : Nat)
  /-- An accepted connection is registered. -/
  | adoptAccepted
  /-- A connection is shut down by its own owner work. -/
  | closeConn (id : Nat)
  /-- `RemoveConn` of a closed connection. -/
  | removeConn (id : Nat)
  | sealService (throwsEarly : Bool) (first second : List ShutdownOutcome)

/-- A callback comes to a connect that waits for it. -/
def ConnectReactor.callback (s : ConnectReactor) (k : Nat) (stage : ConnectStage)
    (run : Connect → ConnectReactor) : Option ConnectReactor :=
  match s.connects[k]? with
  | some connect => if connect.stage = stage then some (run connect) else none
  | none => none

/-- One step of the owner, when it is there to be taken. -/
def ConnectReactor.step (s : ConnectReactor) : ConnectLabel → Option ConnectReactor
  | .beginConnect engineSealed startDelay choices =>
    some (s.beginConnectOnOwner engineSealed startDelay choices)
  | .startTimer k failed engineSealed choices =>
    s.callback k .startDelay fun connect => s.startTimer k connect failed engineSealed choices
  | .waited k waitError socketError choices =>
    s.callback k .connecting fun connect => s.waited k connect waitError socketError choices
  | .delivered k failed choices =>
    s.callback k .delivering fun _ => s.delivered k failed choices
  | .cancelConnect k => some (s.write k Connect.cancel)
  | .adoptAccepted => some (if s.sealed then s else s.register false)
  | .closeConn id =>
    some { s with conns := s.conns.map fun conn =>
      if conn.id = id then { conn with closed := true } else conn }
  | .removeConn id =>
    some { s with conns := s.conns.filter fun conn => !(decide (conn.id = id) && conn.closed) }
  | .sealService throwsEarly first second =>
    if s.sealPosted then none
    else some ({ s with sealPosted := true }.postedSeal throwsEarly first second)

/-- A reactor from its construction on. -/
def connectReactor : Machine ConnectReactor ConnectLabel where
  start s := s = {}
  step s label := s.step label

end BbtInfra.Net
