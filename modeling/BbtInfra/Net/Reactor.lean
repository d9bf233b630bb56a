import BbtInfra.Lib.Links
import BbtInfra.Lib.Machine

/-!
# A reactor, its dirty list and its driver

Any thread calls `MarkDirty`, which links a connection into the intrusive dirty list and wakes the
driver. The owner thread runs `OnTick` and `Wait` of the driver, whose hook is `PumpOwner`, and the
handlers that register connections, remove them and seal the service. The control domain runs
`FinalizeControl` once the owner is unbound. A label is one critical section or one access to an
atomic; the clock, the handlers and the choice of a connection are chosen by the label. Connections
are known by their ids.
-/
namespace BbtInfra.Net

open Lib

/-- `kPumpBudget`. -/
def kPumpBudget : Nat := 32

/-- What became of a call of `MarkDirty`. -/
inductive MarkResult
  /-- Sealed, or the connection is not registered. -/
  | refused
  /-- The connection was queued already. -/
  | coalesced
  | woken
  deriving DecidableEq, Repr

/-- Where a call of `MarkDirty` stands. -/
inductive MarkPc
  /-- Before it loads `m_sealed`, and before `IsSealed`. -/
  | check
  | checkImpl
  /-- Before it claims `m_dirty_queued`. -/
  | claim
  /-- Before it takes `m_dirty_mutex`. -/
  | link
  /-- `Wake` before it sets the latch, and before it stops the context. -/
  | wake
  | stop
  | returned (result : MarkResult)
  deriving DecidableEq, Repr

/-- A call of `MarkDirty`. -/
structure Mark where
  core : Nat
  pc : MarkPc := .check
  deriving DecidableEq, Repr

/-- Who called the tick hook: `OnTick`, or `RunBounded` behind a handler. -/
inductive HookVia
  | tick
  | bounded (canBlock : Bool) (ran : Nat)
  deriving DecidableEq, Repr

/-- Where `SealServiceOnOwner` stands. -/
inductive SealPc
  /-- The chain is cleared, and `m_sealed` is next. -/
  | cleared
  /-- Before the next connection is chosen. -/
  | closing
  /-- This connection was shut down. -/
  | shut (core : Nat)
  deriving DecidableEq, Repr

/-- Where the owner thread stands. -/
inductive DriverPc
  /-- `OnTick(BeforeSchedule)` is next. -/
  | before
  /-- `PumpOwner` before it looks at the chain. -/
  | pump (via : HookVia) (pumped : Nat)
  /-- It has unlinked the head and not yet looked it up. -/
  | popped (via : HookVia) (pumped core : Nat)
  | pumping (via : HookVia) (pumped core : Nat)
  /-- The connection was pumped, and the clock is next. -/
  | pumped (via : HookVia) (pumped : Nat)
  /-- The hook behind a handler has returned. -/
  | hooked (canBlock : Bool) (ran : Nat)
  /-- `RunBounded` before it restarts a stopped context. -/
  | restart (canBlock : Bool)
  /-- Before it looks at the latch. -/
  | loop (canBlock : Bool) (ran : Nat)
  /-- Before `run_one_for` with this time left, or before `poll_one`. -/
  | run (canBlock : Bool) (ran remaining : Nat)
  /-- A handler runs. -/
  | handling (canBlock : Bool) (ran : Nat)
  | sealing (canBlock : Bool) (ran : Nat) (pc : SealPc)
  /-- `OnTick(AfterSchedule)` is next. -/
  | after
  /-- The runtime waits or ticks again. -/
  | idle
  deriving DecidableEq, Repr

/-- Where the hook returns to. -/
def HookVia.next : HookVia → DriverPc
  | .tick => .restart false
  | .bounded canBlock ran => .hooked canBlock ran

/-- Where the control domain stands. -/
inductive ControlPc
  | running
  /-- `FinalizeControl` has cleared the chain, and `m_sealed` is next. -/
  | cleared
  | sealed'
  | finalized
  /-- `ReleaseDriver`. -/
  | released
  deriving DecidableEq, Repr

/-- `Reactor` with its driver and the calls of all threads. -/
structure Reactor where
  /-- The keys of `m_conns`, and those that have been in it. -/
  conns : List Nat := []
  gone : List Nat := []
  /-- `m_dirty_head`, `m_dirty_tail`, `m_dirty_next` and `m_dirty_linked`. -/
  links : Links Nat := {}
  /-- `m_dirty_queued`. -/
  queued : Nat → Bool := fun _ => false
  sealed' : Bool := false
  implSealed : Bool := false
  marks : List Mark := []
  owner : DriverPc := .before
  bound : Bool := true
  control : ControlPc := .running
  /-- `m_wake_latch`, and whether the context is stopped. -/
  latch : Bool := false
  stopped : Bool := false
  /-- The call that has linked a connection last. -/
  inserter : Nat → Option Nat := fun _ => none
  /-- Since the connection was linked last, a tick has taken the latch, or a pump has run out of
  its budget with the latch clear. -/
  missed : Nat → Bool := fun _ => false

/-- The steps of a reactor. -/
inductive ReactorLabel
  /-- A thread calls `MarkDirty`, and the next step of such a call. -/
  | mark (core : Nat)
  | act (j : Nat)
  /-- The next step of the owner; the environment answers and chooses. -/
  | own (yes : Bool) (choice : Nat)
  /-- A handler registers a connection, removes one, or starts `SealServiceOnOwner`. -/
  | register (core : Nat)
  | remove (core : Nat)
  | sealService
  /-- `SealService` of the engine. -/
  | sealImpl
  | unbind
  /-- The next step of the control domain. -/
  | control
  deriving DecidableEq, Repr

namespace Reactor

variable (tickBudget : Nat)

/-- The owner goes on. -/
def go (s : Reactor) (owner : DriverPc) : Reactor := { s with owner }

/-- A call of `MarkDirty` goes on. -/
def setMark (s : Reactor) (j : Nat) (mark : Mark) (pc : MarkPc) : Reactor :=
  { s with marks := s.marks.set j { mark with pc } }

/-- Write to `m_dirty_queued`. -/
def setQueued (s : Reactor) (core : Nat) (value : Bool) : Reactor :=
  { s with queued := Function.update s.queued core value }

/-- The section of `MarkDirty` under both locks. -/
def linkDirty (s : Reactor) (j : Nat) (mark : Mark) : Reactor :=
  if s.sealed' then (s.setQueued mark.core false).setMark j mark (.returned .refused)
  else if !s.conns.contains mark.core then
    (s.setQueued mark.core false).setMark j mark (.returned .refused)
  else
    { s.setMark j mark .wake with
      links := s.links.push mark.core
      inserter := Function.update s.inserter mark.core (some j)
      missed := Function.update s.missed mark.core false }

/-- The next step of a `MarkDirty`. -/
def actMark (s : Reactor) (j : Nat) (mark : Mark) : Option Reactor :=
  match mark.pc with
  | .check => some (s.setMark j mark (if s.sealed' then .returned .refused else .checkImpl))
  | .checkImpl => some (s.setMark j mark (if s.implSealed then .returned .refused else .claim))
  | .claim =>
    if s.queued mark.core then some (s.setMark j mark (.returned .coalesced))
    else some ((s.setQueued mark.core true).setMark j mark .link)
  | .link => some (s.linkDirty j mark)
  | .wake =>
    if s.control = .released || s.latch then some (s.setMark j mark (.returned .woken))
    else some { s.setMark j mark .stop with latch := true }
  | .stop => some { s.setMark j mark (.returned .woken) with stopped := true }
  | .returned _ => none

/-- `RemoveConn`. -/
def removeConn (s : Reactor) (core : Nat) : Option Reactor :=
  (s.links.remove s.marks.length core).map fun links =>
    { s.setQueued core false with
      links, conns := s.conns.erase core
      gone := if s.conns.contains core then core :: s.gone else s.gone }

/-- All nodes leave the chain. -/
def clearDirty (s : Reactor) : Option Reactor :=
  (s.links.clear s.marks.length).map fun (links, visited) =>
    { s with links, queued := fun core => s.queued core && !visited.contains core }

/-- Where `RunBounded` returns to. -/
def finish (canBlock : Bool) : DriverPc := if canBlock then .before else .after

/-- `PumpOwner` runs out of its budget. -/
def leavePump (s : Reactor) (via : HookVia) : Reactor :=
  { s.go via.next with missed := fun core => s.missed core || (s.links.linked core && !s.latch) }

/-- The next step of `PumpOwner`. -/
def pumpOwner (s : Reactor) (via : HookVia) (pumped : Nat) : Reactor :=
  if pumped < kPumpBudget then
    match s.links.pop with
    | none => s.go via.next
    | some (core, links) => { (s.setQueued core false).go (.popped via pumped core) with links }
  else s.leavePump via

/-- The loop of `RunBounded` up to the context. -/
def runBounded (s : Reactor) (canBlock : Bool) (ran : Nat) (late : Bool) (remaining : Nat) :
    Reactor :=
  if ran < tickBudget then
    if s.latch then
      { s.go (finish canBlock) with
        latch := false
        missed := fun core => s.missed core || (!canBlock && s.links.linked core) }
    else if late then s.go (finish canBlock)
    else s.go (.run canBlock ran remaining)
  else s.go (finish canBlock)

/-- The next step of the owner. -/
def actOwner (s : Reactor) (yes : Bool) (choice : Nat) : Option Reactor :=
  match s.owner with
  | .before => some (s.go (.pump .tick 0))
  | .pump via pumped => some (s.pumpOwner via pumped)
  | .popped via pumped core =>
    if s.conns.contains core then some (s.go (.pumping via pumped core))
    else some (s.go (.pump via pumped))
  | .pumping via pumped core =>
    -- `yes` says that the connection has closed.
    if yes then (s.removeConn core).map (·.go (.pumped via (pumped + 1)))
    else some (s.go (.pumped via (pumped + 1)))
  | .pumped via pumped =>
    if yes then some (s.leavePump via) else some (s.go (.pump via pumped))
  | .hooked canBlock ran => some (s.go (if yes then finish canBlock else .loop canBlock ran))
  | .restart canBlock => some { s.go (.loop canBlock 0) with stopped := false }
  | .loop canBlock ran => some (s.runBounded tickBudget canBlock ran yes choice)
  | .run canBlock ran _ =>
    if yes then if s.stopped then none else some (s.go (.handling canBlock ran))
    else some (s.go (finish canBlock))
  | .handling canBlock ran =>
    -- The handler returns, or it throws.
    some (s.go (if yes then .pump (.bounded canBlock (ran + 1)) 0 else finish canBlock))
  | .sealing canBlock ran .cleared =>
    some { s.go (.sealing canBlock ran .closing) with sealed' := true }
  | .sealing canBlock ran .closing =>
    if s.conns.isEmpty then some (s.go (.handling canBlock ran))
    else if s.conns.contains choice then
      -- `yes` says that `ShutdownOwner` has closed it.
      some (s.go (if yes then .sealing canBlock ran (.shut choice) else .handling canBlock ran))
    else none
  | .sealing canBlock ran (.shut core) =>
    some { s.go (.sealing canBlock ran .closing) with
      conns := s.conns.erase core, gone := core :: s.gone }
  | .after => some (s.go .idle)
  | .idle => some (s.go (if yes then .restart true else .before))

/-- The owner thread is in none of its calls. -/
def resting (s : Reactor) : Bool :=
  match s.owner with
  | .before | .after | .idle => true
  | _ => false

/-- The next step of the control domain. -/
def actControl (s : Reactor) : Option Reactor :=
  match s.control with
  | .running => s.clearDirty.map fun s => { s with control := .cleared }
  | .cleared => some { s with sealed' := true, control := .sealed' }
  | .sealed' => some { s with conns := [], gone := s.conns ++ s.gone, control := .finalized }
  | .finalized =>
    if s.marks.any fun mark => decide (mark.pc = .stop) then none
    else some { s with control := .released }
  | .released => none

/-- The connection that a running handler may use. -/
def handler (s : Reactor) : Option (Bool × Nat) :=
  match s.owner with
  | .handling canBlock ran => some (canBlock, ran)
  | _ => none

/-- The reactor after a step. -/
def step (s : Reactor) : ReactorLabel → Option Reactor
  | .mark core => some { s with marks := s.marks ++ [{ core }] }
  | .act j => (s.marks[j]?).bind fun mark => s.actMark j mark
  | .own yes choice => if s.bound then s.actOwner tickBudget yes choice else none
  | .register core =>
    if s.bound && s.handler.isSome && !s.conns.contains core && !s.gone.contains core then
      some { s with conns := s.conns ++ [core] }
    else none
  | .remove core =>
    if s.bound && s.handler.isSome && (s.conns.contains core || s.gone.contains core) then
      s.removeConn core
    else none
  | .sealService =>
    if s.bound then
      s.handler.bind fun (canBlock, ran) =>
        s.clearDirty.map (·.go (.sealing canBlock ran .cleared))
    else none
  | .sealImpl => some { s with implSealed := true }
  | .unbind => if s.resting then some { s with bound := false } else none
  | .control => if s.bound then none else s.actControl

end Reactor

/-- The reactors with a driver of this tick budget. -/
def reactorMachine (tickBudget : Nat) : Machine Reactor ReactorLabel where
  start s := s = {}
  step := Reactor.step tickBudget

end BbtInfra.Net
