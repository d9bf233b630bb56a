import BbtInfra.Lib.Machine
import BbtInfra.Result

/-!
# HTTP server

`Server` accepts connections in one task and serves each of them in a task of its own. A step of
the model is one critical section of `Server::State::mutex`, or one stretch of code between two of
them; the environment decides what the engine, the handler and the writes do in it. A task counts
until its `TaskLease` is destroyed, by the runtime that holds its callback or by the `Submit` that
registered it, whichever is last.
-/
namespace BbtInfra.Http

open Lib

/-- What the ledger reads of `ServerOptions`, and whether `CreateStreaming` made the server. -/
structure ServerConfig where
  maxConnections : Nat
  maxInflight : Nat
  streaming : Bool := false

/-- `TaskLease`: who holds it, and whether it has its `state` and so counts. -/
structure TaskLease where
  counted : Bool := false
  /-- The local variable of `Submit`. -/
  held : Bool := false
  /-- The callback of the task. -/
  captured : Bool := false
  deriving DecidableEq, Repr

namespace TaskLease

/-- It is not destroyed yet. -/
def live (lease : TaskLease) : Bool := lease.held || lease.captured

/-- It is not destroyed yet, and it counts. -/
def counts (lease : TaskLease) : Bool := lease.counted && lease.live

end TaskLease

/-- How a `Submit` ends. -/
inductive SubmitOutcome
  | registered | refused | threw
  deriving DecidableEq, Repr

/-- Where a `Submit` stands. -/
inductive SubmitPc
  /-- The lease is to be allocated. -/
  | make
  | count
  | register
  /-- The local lease goes out of scope. -/
  | drop (outcome : SubmitOutcome)
  deriving DecidableEq, Repr

/-- What happens in a step of `Submit`. -/
inductive SubmitMove
  | make (fits : Bool)
  | count
  | register (outcome : SubmitOutcome)
  | drop
  deriving DecidableEq, Repr

/-- Where the task of a session stands. -/
inductive ServePc
  /-- No task is registered. -/
  | absent
  | ready
  /-- `Serve` before it looks at `stopping`. -/
  | gate
  /-- The parser is fed, and the connection is read. -/
  | read
  /-- A valid request is there. -/
  | authorize (keepAlive : Bool)
  | handle (keepAlive : Bool)
  /-- The handler has returned. -/
  | alive (keepAlive : Bool)
  | reply (keepAlive : Bool)
  /-- `ServeStream` before it registers its source. -/
  | source (keepAlive : Bool)
  | stream (keepAlive : Bool)
  | cancelSource (keepAlive : Bool)
  /-- The reply is written or given up. -/
  | written (keepAlive sent streamed : Bool)
  | settle (keepAlive sent streamed : Bool)
  /-- `Serve` has returned or thrown. -/
  | leave
  | release
  /-- The callback has returned and is not destroyed yet. -/
  | ended
  | gone
  deriving DecidableEq, Repr

/-- The callback of the task exists. -/
def ServePc.active : ServePc → Bool
  | .absent | .gone => false
  | _ => true

/-- The task holds a request whose reply is not settled. -/
def ServePc.serving : ServePc → Bool
  | .handle _ | .alive _ | .reply _ | .source _ | .stream _ | .cancelSource _ | .written _ _ _
  | .settle _ _ _ => true
  | _ => false

/-- What happens in a step of the task of a session. -/
inductive ServeMove
  | run | look | again | quit
  | complete (keepAlive : Bool)
  | authorize (late : Bool)
  | handled
  /-- An exception leaves `Serve`. -/
  | raise
  | alive
  | buffered (sent : Bool)
  | stream | source
  | streamed (sent : Bool)
  | abandon | cancelSource | close | settle | leave | release | destroy
  deriving DecidableEq, Repr

/-- `Server::State::Session`, with its connection and its task. -/
structure ServerSession where
  /-- `RequestClose` was called on the connection. -/
  closeRequested : Bool := false
  /-- `Released` of the connection. -/
  released : Bool := false
  authorized : Bool := false
  taskDone : Bool := false
  /-- `source` is set. -/
  source : Bool := false
  sourceCancelled : Bool := false
  lease : TaskLease := {}
  task : ServePc := .absent
  deriving DecidableEq, Repr

/-- Where the accept task stands. -/
inductive AcceptPc
  /-- No task is registered. -/
  | absent
  | ready
  | gate
  /-- The session is to be allocated. -/
  | make
  | take
  /-- There is a connection. -/
  | place
  | submit (k : Nat) (pc : SubmitPc)
  | refuse (k : Nat)
  | caught (k : Nat)
  | mark (k : Nat)
  /-- `Stop(false)`, before and behind its critical section. -/
  | seal' | sealed
  /-- The callback has returned and is not destroyed yet. -/
  | ended
  | gone
  deriving DecidableEq, Repr

/-- The callback of the accept task exists. -/
def AcceptPc.active : AcceptPc → Bool
  | .absent | .gone => false
  | _ => true

/-- What `CoAccept` returns. -/
inductive Accepted
  | connection | timedOut | failed | threw
  deriving DecidableEq, Repr

/-- What happens in a step of the accept task. -/
inductive AcceptMove
  | run | look
  | make (fits : Bool)
  | take (accepted : Accepted)
  | place
  | submit (move : SubmitMove)
  | refuse | caught | mark | seal' | sealed | destroy
  deriving DecidableEq, Repr

/-- The calls from outside. `Close` may be the destructor. -/
inductive ServerCall
  | start | stopAccepting
  | close (reason : Error)
  | shutdown | drain | waitStopped
  deriving DecidableEq, Repr

/-- Where a call stands. -/
inductive ServerCallPc
  | start
  | startSubmit (pc : SubmitPc)
  | startSeal | startSealed
  /-- `StopAccepting`, or `Close` with its reason. -/
  | stop (reason : Option Error)
  | stopped (reason : Option Error)
  | shutdown | shutdownSeal | shutdownSealed | shutdownWait
  | drain | drainWait
  | waitStopped | waitStoppedAgain
  | returned (call : ServerCall) (result : Except Error Unit)
  deriving DecidableEq

/-- What happens in a step of a call. -/
inductive ServerCallMove
  /-- `Start` finds the engine ready, or not. -/
  | start (ready : Bool)
  | submit (move : SubmitMove)
  | go
  /-- A wait, at its deadline or before it. -/
  | wait (expired : Bool)
  deriving DecidableEq, Repr

/-- `Server::State`, with all its tasks and calls. `sessions` names sessions by their index in
`heap`, which keeps those that were removed from it. -/
structure ServerState where
  started : Bool := false
  stopping : Bool := false
  closing : Bool := false
  draining : Bool := false
  closeReason : Option Error := none
  failNextTask : Bool := false
  accepted : Nat := 0
  requests : Nat := 0
  inflight : Nat := 0
  tasks : Nat := 0
  sessions : List Nat := []
  heap : List ServerSession := []
  /-- `AcceptingStopped` of the engine. -/
  acceptingStopped : Bool := false
  acceptLease : TaskLease := {}
  accept : AcceptPc := .absent
  calls : List ServerCallPc := []
  deriving DecidableEq

/-- The steps of a server and of what surrounds it. -/
inductive ServerLabel
  /-- A call from a thread that is a native host, or is not. -/
  | call (call : ServerCall) (host : Bool)
  | act (c : Nat) (move : ServerCallMove)
  | accept (move : AcceptMove)
  | serve (k : Nat) (move : ServeMove)
  /-- The connection of a session is released. -/
  | released (k : Nat)
  /-- The engine has stopped to accept. -/
  | acceptingStopped
  /-- `Stats`. -/
  | stats
  /-- `ServerTestAccess::FailNextTask`. -/
  | failNextTask
  deriving DecidableEq

namespace ServerState

variable (o : ServerConfig) (s : ServerState)

/-- A write to one session. -/
def put (k : Nat) (f : ServerSession → ServerSession) : ServerState :=
  { s with heap := s.heap.modify k f }

/-- A session can be removed. -/
def swept (k : Nat) : Bool :=
  s.heap[k]?.any fun session => session.taskDone && session.released

/-- `Sweep`. -/
def sweep : ServerState := { s with sessions := s.sessions.filter fun k => !s.swept k }

/-- The loop of `Stop` over one session. -/
def sealSession (closing : Bool) (session : ServerSession) : ServerSession :=
  { session with
    closeRequested := session.closeRequested || closing || !session.authorized
    sourceCancelled := session.sourceCancelled || (closing && session.source) }

/-- The critical section of `Stop`. -/
def seal' (force : Bool) (reason : Option Error) : ServerState :=
  let closing := s.closing || force
  { s with
    stopping := true
    closing
    closeReason := s.closeReason <|> reason
    heap := s.heap.mapIdx fun k session =>
      if k ∈ s.sessions then sealSession closing session else session }

/-- The lease of the accept task or of the task of a session. -/
def lease : Option Nat → TaskLease
  | none => s.acceptLease
  | some k => (s.heap[k]?.map ServerSession.lease).getD {}

/-- A write to a lease. -/
def setLease (lease : TaskLease) : Option Nat → ServerState
  | none => { s with acceptLease := lease }
  | some k => s.put k fun session => { session with lease }

/-- `task_done` of the session, if there is one. -/
def markDone : Option Nat → ServerState
  | none => s
  | some k => s.put k fun session => { session with taskDone := true }

/-- A reference to a lease is dropped. `~TaskLease` runs when it was the last one. -/
def dropLease (target : Option Nat) (left : TaskLease) : ServerState :=
  if left.counted && !left.live then
    { (s.setLease left target).markDone target with tasks := s.tasks - 1 }
  else s.setLease left target

/-- The runtime takes the task. -/
def registerTask (lease : TaskLease) : Option Nat → ServerState
  | none => { s with acceptLease := { lease with captured := true }, accept := .ready }
  | some k => s.put k fun session =>
      { session with lease := { lease with captured := true }, task := .ready }

/-- `Submit`. -/
def submit (target : Option Nat) :
    SubmitPc → SubmitMove → Option (ServerState × (SubmitPc ⊕ SubmitOutcome))
  | .make, .make fits =>
    if fits then some (s.setLease { held := true } target, .inl .count) else some (s, .inr .threw)
  | .count, .count =>
    if s.stopping then some ((s.setLease {} target).markDone target, .inr .refused)
    -- the count of an injected failure is taken back at once
    else if s.failNextTask then
      some ({ (s.setLease {} target).markDone target with failNextTask := false }, .inr .refused)
    else
      some ({ s.setLease { counted := true, held := true } target with tasks := s.tasks + 1 },
        .inl .register)
  | .register, .register outcome =>
    if outcome = .registered then
      some (s.registerTask (s.lease target) target, .inl (.drop .registered))
    else some (s, .inl (.drop outcome))
  | .drop outcome, .drop =>
    some (s.dropLease target { s.lease target with held := false }, .inr outcome)
  | _, _ => none

/-- A step of the accept task. -/
def actAccept : AcceptPc → AcceptMove → Option ServerState
  | .ready, .run => some { s with accept := .gate }
  | .gate, .look =>
    let swept := s.sweep
    if s.stopping then some { swept with accept := .ended }
    else if swept.sessions.length ≥ o.maxConnections then some { swept with accept := .gate }
    else some { swept with accept := .make }
  | .make, .make fits => some { s with accept := if fits then .take else .seal' }
  | .take, .take accepted =>
    match accepted with
    | .connection => some { s with accept := .place }
    | .timedOut => some { s with accept := .gate }
    | .failed | .threw => some { s with accept := .seal' }
  | .place, .place =>
    let session : ServerSession :=
      if s.stopping then { closeRequested := true, taskDone := true } else {}
    some { s with
      accepted := s.accepted + 1
      heap := s.heap ++ [session]
      sessions := s.sessions ++ [s.heap.length]
      accept := if s.stopping then .ended else .submit s.heap.length .make }
  | .submit k pc, .submit move =>
    (s.submit (some k) pc move).map fun (next, result) =>
      { next with
        accept :=
          match result with
          | .inl pc => .submit k pc
          | .inr .registered => .gate
          | .inr .refused => .refuse k
          | .inr .threw => .caught k }
  | .refuse k, .refuse =>
    some { s.put k fun session => { session with closeRequested := true } with accept := .gate }
  | .caught k, .caught =>
    some { s.put k fun session => { session with closeRequested := true } with accept := .mark k }
  | .mark k, .mark =>
    some { s.put k fun session => { session with taskDone := true } with accept := .gate }
  | .seal', .seal' => some { s.seal' false none with accept := .sealed }
  | .sealed, .sealed => some { s with accept := .ended }
  | .ended, .destroy =>
    some { s.dropLease none { s.acceptLease with captured := false } with accept := .gone }
  | _, _ => none

/-- The task of a session goes on elsewhere. -/
def goTo (k : Nat) (task : ServePc) : ServerState :=
  s.put k fun session => { session with task }

/-- A step of the task of a session. -/
def serve (k : Nat) (session : ServerSession) : ServePc → ServeMove → Option ServerState
  | .ready, .run => some (s.goTo k .gate)
  | .gate, .look => some (s.goTo k (if s.stopping then .leave else .read))
  | .read, .again => some (s.goTo k .gate)
  | .read, .quit => some (s.goTo k .leave)
  | .read, .complete keepAlive => some (s.goTo k (.authorize keepAlive))
  | .authorize keepAlive, .authorize late =>
    if s.stopping ∨ late ∨ s.inflight ≥ o.maxInflight then some (s.goTo k .leave)
    else
      some { s.put k fun session =>
          { session with authorized := true, task := .handle keepAlive } with
        requests := s.requests + 1
        inflight := s.inflight + 1 }
  -- an exception of the handler becomes a reply
  | .handle keepAlive, .handled => some (s.goTo k (.alive keepAlive))
  | .alive keepAlive, .alive => some (s.goTo k (.reply (keepAlive && !s.stopping)))
  | .reply keepAlive, .buffered sent => some (s.goTo k (.written keepAlive sent false))
  | .reply keepAlive, .stream =>
    if o.streaming then some (s.goTo k (.source keepAlive)) else none
  | .source keepAlive, .source =>
    let cancelNow := s.closing && !session.sourceCancelled
    some (s.put k fun session =>
      { session with
        source := true
        sourceCancelled := session.sourceCancelled || cancelNow
        task := if cancelNow then .written keepAlive false true else .stream keepAlive })
  | .stream keepAlive, .streamed sent => some (s.goTo k (.written keepAlive sent true))
  | .stream keepAlive, .abandon => some (s.goTo k (.cancelSource keepAlive))
  | .cancelSource keepAlive, .cancelSource =>
    some (s.put k fun session =>
      { session with sourceCancelled := true, task := .written keepAlive false true })
  | .written keepAlive sent streamed, .close =>
    some (s.put k fun session =>
      { session with
        closeRequested := session.closeRequested || !sent
        task := .settle keepAlive sent streamed })
  | .settle keepAlive sent streamed, .settle =>
    some { s.put k fun session =>
        { session with
          authorized := false
          source := session.source && !streamed
          task := if sent ∧ keepAlive ∧ s.stopping = false then .gate else .leave } with
      inflight := s.inflight - 1 }
  | .leave, .leave =>
    some (s.put k fun session => { session with closeRequested := true, task := .release })
  | .release, .release =>
    if session.authorized then
      some { s.put k fun session => { session with authorized := false, task := .ended } with
        inflight := s.inflight - 1 }
    else some (s.goTo k .ended)
  | .ended, .destroy =>
    some ((s.dropLease (some k) { session.lease with captured := false }).goTo k .gone)
  | pc, .raise => if pc = .read ∨ pc.serving then some (s.goTo k .leave) else none
  | _, _ => none

/-- A call goes on elsewhere. -/
def call (c : Nat) (pc : ServerCallPc) : ServerState := { s with calls := s.calls.set c pc }

/-- What a wait for the requests in flight returns, when it returns. -/
def drained (expired : Bool) (what : String) : Option (Except Error Unit) :=
  if s.inflight = 0 then some (.ok ())
  else
    match s.closeReason with
    | some reason => some (.error reason)
    | none => if expired then some (.error (makeError .timedOut (text what))) else none

/-- A call of `Drain` in its wait. -/
def drainWait (c : Nat) (expired : Bool) : ServerState :=
  match s.drained expired "Drain deadline expired; handler/reply responsibility retained" with
  | some result => s.call c (.returned .drain result)
  | none => s.call c .drainWait

/-- A call of `Shutdown` in its wait. -/
def shutdownWait (c : Nat) (expired : Bool) : ServerState :=
  match s.drained expired "Shutdown deadline expired; server remains sealed" with
  | some result => s.call c (.returned .shutdown result)
  | none => s.call c .shutdownWait

/-- A turn of the loop of `WaitStopped`. -/
def stoppedWait (c : Nat) (expired : Bool) : ServerState :=
  let swept := s.sweep
  if swept.tasks = 0 ∧ swept.sessions = [] ∧ swept.acceptingStopped then
    swept.call c (.returned .waitStopped (.ok ()))
  else if expired then
    swept.call c (.returned .waitStopped
      (.error (makeError .timedOut (text "Server physical stop deadline expired"))))
  else swept.call c .waitStoppedAgain

/-- A step of a call. -/
def actCall (c : Nat) : ServerCallPc → ServerCallMove → Option ServerState
  | .start, .start ready =>
    if s.stopping ∨ s.started then
      some (s.call c (.returned .start
        (.error (makeError .closed (text "Server already started or sealed")))))
    else if ready then some { s.call c (.startSubmit .make) with started := true }
    else
      some (s.call c (.returned .start (.error
        (makeError .invalidContext (text "Server::Start requires Running listening Engine")))))
  | .startSubmit pc, .submit move =>
    (s.submit none pc move).map fun (next, result) =>
      next.call c
        (match result with
          | .inl pc => .startSubmit pc
          | .inr .registered => .returned .start (.ok ())
          | .inr _ => .startSeal)
  | .startSeal, .go => some ((s.seal' false none).call c .startSealed)
  | .startSealed, .go =>
    some (s.call c (.returned .start
      (.error (makeError .runtimeUnavailable (text "accept task registration failed")))))
  | .stop reason, .go => some ((s.seal' reason.isSome reason).call c (.stopped reason))
  | .stopped none, .go => some (s.call c (.returned .stopAccepting (.ok ())))
  | .stopped (some reason), .go => some (s.call c (.returned (.close reason) (.ok ())))
  | .shutdown, .go =>
    match s.closeReason with
    | some reason => some (s.call c (.returned .shutdown (.error reason)))
    | none =>
      if s.draining then
        if s.inflight = 0 then some (s.call c (.returned .shutdown (.ok ())))
        else
          some (s.call c (.returned .shutdown
            (.error (makeError .overloaded (text "shutdown already in progress")))))
      else some { s.call c .shutdownSeal with draining := true }
  | .shutdownSeal, .go => some ((s.seal' false none).call c .shutdownSealed)
  | .shutdownSealed, .wait expired | .shutdownWait, .wait expired =>
    some (s.shutdownWait c expired)
  | .drain, .wait expired =>
    if s.stopping then some (s.drainWait c expired)
    else
      some (s.call c (.returned .drain
        (.error (makeError .invalidArgument (text "StopAccepting before Drain")))))
  | .drainWait, .wait expired => some (s.drainWait c expired)
  | .waitStopped, .wait expired =>
    if s.stopping then some (s.stoppedWait c expired)
    else
      some (s.call c (.returned .waitStopped
        (.error (makeError .invalidArgument (text "StopAccepting before WaitStopped")))))
  | .waitStoppedAgain, .wait expired => some (s.stoppedWait c expired)
  | _, _ => none

/-- Where a call begins. Three of them are refused outside a native host. -/
def begin' (host : Bool) : ServerCall → ServerCallPc
  | .start => .start
  | .stopAccepting => .stop none
  | .close reason => .stop (some reason)
  | .shutdown =>
    if host then .shutdown
    else .returned .shutdown
      (.error (makeError .invalidContext (text "Shutdown requires native host")))
  | .drain =>
    if host then .drain
    else .returned .drain (.error (makeError .invalidContext (text "Drain requires native host")))
  | .waitStopped =>
    if host then .waitStopped
    else .returned .waitStopped
      (.error (makeError .invalidContext (text "WaitStopped requires native host")))

/-- The state after one step. -/
def step : ServerLabel → Option ServerState
  | .call call host => some { s with calls := s.calls ++ [begin' host call] }
  | .act c move => (s.calls[c]?).bind fun pc => s.actCall c pc move
  | .accept move => s.actAccept o s.accept move
  | .serve k move => (s.heap[k]?).bind fun session => s.serve o k session session.task move
  | .released k => some (s.put k fun session => { session with released := true })
  | .acceptingStopped => some { s with acceptingStopped := true }
  | .stats => some s.sweep
  | .failNextTask => some { s with failNextTask := true }

end ServerState

/-- A server with these options, from its creation on. -/
def serverMachine (o : ServerConfig) : Machine ServerState ServerLabel where
  start s := s = {}
  step := ServerState.step o

end BbtInfra.Http
