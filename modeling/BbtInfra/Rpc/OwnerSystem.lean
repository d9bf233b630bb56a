import BbtInfra.Lib.Machine
import BbtInfra.Rpc.Owner

/-!
# The owner under any interleaving

The coroutines that use one session owner, each with its own program counter: callers of
`GetSession`, which may run `EstablishOutbound`, and accepted links on their way through
`ServeInbound` into `InstallSession`. One event is one critical section or one atomic
operation of one of them, or an act of the environment: a dial or handshake that ends, an
exception that escapes, a session that is killed, a coroutine that returns, a connection
that is physically released, a seal.
-/
namespace BbtInfra.Rpc

open Lib

/-- The way a session reaches `InstallSession`: out of an establishing record, or accepted. -/
inductive Way
  | outbound (record : Nat)
  | inbound
  deriving DecidableEq

/-- The record of an outbound way. -/
def Way.record : Way → Option Nat
  | .outbound record => some record
  | .inbound => none

/-- How a waiter left the waiter loop of `GetSession`. -/
inductive WaitEnd
  /-- It saw its record done. -/
  | sawDone (result : Except Error Nat)
  /-- It reached its own deadline. -/
  | timedOut
  /-- It was cancelled. -/
  | cancelled
  deriving DecidableEq

/-- How a coroutine came to return. -/
inductive Exit
  /-- Refused in the first critical section of `GetSession`. -/
  | refused (error : Error)
  /-- An installed session was found for the endpoint. -/
  | live (session : Nat)
  /-- This call waited for the establishment that another call ran. -/
  | waited (record : Nat) (ending : WaitEnd)
  /-- This call ran the establishment; the connection is the one it dialled. -/
  | established (conn : Option Nat) (made : Except Error Nat)
  /-- An accepted link was published or turned away. -/
  | inbound
  deriving DecidableEq

/-- Program counters of `GetSession`, `EstablishOutbound` and `InstallSession`. -/
inductive Pc
  /-- Before the first critical section of `GetSession`. -/
  | entering
  /-- In the waiter loop; `polled` after a look at the record that was not done. -/
  | waiting (record : Nat) (polled : Bool)
  /-- In `CoDial`. -/
  | dialing (record : Nat)
  /-- Dialled, the record does not know the connection yet. -/
  | dialed (record conn : Nat)
  /-- Before the hook checkpoint. -/
  | gated (record conn : Nat)
  /-- In `OutboundHandshake`. -/
  | shaking (record conn : Nat)
  /-- An accepted link in `InboundHandshake`. -/
  | greeting (conn : Nat)
  /-- Before the critical section of `InstallSession`. -/
  | installing (way : Way) (session conn : Nat)
  /-- Installed, before `evicted->Kill`. -/
  | evicting (way : Way) (session conn : Nat) (evicted : Option Nat)
  /-- Before the registration of reader and writer. -/
  | starting (way : Way) (session conn : Nat)
  /-- Before the last critical section of `GetSession`. -/
  | settling (record : Nat) (conn : Option Nat) (made : Except Error Nat)
  /-- After it, before `abandoned.RequestClose`. -/
  | abandoning (conn : Option Nat) (abandoned : Option Nat) (made : Except Error Nat)
  /-- `ServeInbound` closes a link that was not installed. -/
  | rejecting (conn : Nat)
  | returned (exit : Exit)
  deriving DecidableEq

/-- The record whose establishment a coroutine runs. -/
def Pc.record? : Pc → Option Nat
  | .dialing record | .dialed record _ | .gated record _ | .shaking record _
  | .settling record _ _ => some record
  | .installing way _ _ | .evicting way _ _ _ | .starting way _ _ => way.record
  | _ => none

/-- The connection of a coroutine that has not built its session yet. -/
def Pc.bareConn? : Pc → Option Nat
  | .dialed _ conn | .gated _ conn | .shaking _ conn | .greeting conn => some conn
  | _ => none

/-- The session that a coroutine built and nobody else knows yet. -/
def Pc.handle? : Pc → Option Nat
  | .installing _ session _ => some session
  | _ => none

/-- Where a coroutine goes when its own link was not installed: an establishment is settled,
an accepted link is closed by `ServeInbound`. -/
def Way.failed (way : Way) (conn : Nat) (error : Error) : Pc :=
  match way with
  | .outbound record => .settling record (some conn) (.error error)
  | .inbound => .rejecting conn

/-- Where a coroutine goes with the session that `InstallSession` returned. -/
def Way.finished (way : Way) (conn session : Nat) : Pc :=
  match way with
  | .outbound record => .settling record (some conn) (.ok session)
  | .inbound => .returned .inbound

/-- `EstablishOutbound` closes the connection itself when `InstallSession` refuses it. -/
def Way.refuse (way : Way) (owner : SessionOwnerState) (conn : Nat) : SessionOwnerState :=
  match way with
  | .outbound _ => owner.requestClose conn
  | .inbound => owner

/-- A coroutine and the endpoint key it was called with, empty for an accepted link. -/
structure Caller where
  key : Bytes
  pc : Pc
  deriving DecidableEq

/-- The owner, the coroutines that use it, and what a seal still has to close. -/
structure OwnerSystem where
  owner : SessionOwnerState
  callers : List Caller := []
  /-- Sessions that a seal collected and has not killed yet. -/
  sealedSessions : List Nat := []
  /-- Handshake connections that a seal collected and has not closed yet. -/
  sealedConns : List Nat := []
  deriving DecidableEq

/-- One critical section or atomic operation, with the choices of the environment in it. -/
inductive OwnerEvent
  /-- A coroutine calls `GetSession`. -/
  | call (key : Bytes)
  /-- A link is accepted and `ServeInbound` starts on it. -/
  | accept
  | enter (caller : Nat)
  | poll (caller : Nat)
  | timeOut (caller : Nat)
  | cancel (caller : Nat)
  | dial (caller : Nat) (outcome : Except Error Unit)
  | publish (caller : Nat)
  | gate (caller : Nat) (verdict : Except Error Unit)
  | handshake (caller : Nat) (outcome : Except Error Bytes)
  /-- An exception escapes `EstablishOutbound` or `ServeInbound`. -/
  | throws (caller : Nat) (error : Error)
  | install (caller : Nat)
  | evict (caller : Nat)
  | begin (caller : Nat) (reader writer : Bool)
  | settle (caller : Nat)
  | abandon (caller : Nat)
  | reject (caller : Nat)
  | kill (session : Nat)
  | killExit (session : Nat)
  | taskExit (session : Nat)
  | release (session : Nat)
  /-- `WaitStopped` drives the release of a link that its server knows. -/
  | sweep (session : Nat)
  | connReleased (conn : Nat)
  | seal (reason : Error)
  | sealKill
  | sealClose
  deriving DecidableEq

namespace OwnerSystem

/-- The coroutine goes on at `pc` over the given owner. -/
def resume (s : OwnerSystem) (t : Nat) (key : Bytes) (owner : SessionOwnerState) (pc : Pc) :
    OwnerSystem :=
  { s with owner, callers := s.callers.set t { key, pc } }

/-- The first critical section of `GetSession`. -/
def enterStep (s : OwnerSystem) (t : Nat) (key : Bytes) : OwnerSystem :=
  let (owner, entered) := s.owner.enterLocked key
  s.resume t key owner <| match entered with
    | .refused error => .returned (.refused error)
    | .live session => .returned (.live session)
    | .establisher record => .dialing record
    | .waiter record => .waiting record false

/-- One look of a waiter at its record. -/
def pollStep (s : OwnerSystem) (t : Nat) (key : Bytes) (record : Nat) : OwnerSystem :=
  s.resume t key s.owner <| match s.owner.records[record]? with
    | some r =>
      if r.done then .returned (.waited record (.sawDone (s.owner.waiterResult r))) else .waiting record true
    | none => .waiting record true

/-- The critical section after the dial. -/
def publishStep (s : OwnerSystem) (t : Nat) (key : Bytes) (record conn : Nat) : OwnerSystem :=
  match s.owner.publishConn record conn with
  | (owner, .ok _) => s.resume t key owner (.gated record conn)
  | (owner, .error error) => s.resume t key owner (.settling record (some conn) (.error error))

/-- The critical section of `InstallSession`. -/
def installStep (s : OwnerSystem) (t : Nat) (key : Bytes) (way : Way) (id conn : Nat)
    (session : Session) : OwnerSystem :=
  match s.owner.installLocked id session key way.record with
  | (owner, .refused error) => s.resume t key (way.refuse owner conn) (way.failed conn error)
  | (owner, .fenced winner) => s.resume t key owner (way.finished conn winner)
  | (owner, .won evicted) => s.resume t key owner (.evicting way id conn evicted)

/-- The registration of reader and writer. -/
def beginStep (s : OwnerSystem) (t : Nat) (key : Bytes) (way : Way) (id conn : Nat)
    (reader writer : Bool) : OwnerSystem :=
  match s.owner.startTasks id reader writer with
  | (owner, .ok session) => s.resume t key owner (way.finished conn session)
  | (owner, .error error) => s.resume t key (way.refuse owner conn) (way.failed conn error)

/-- The last critical section of `GetSession`. -/
def settleStep (s : OwnerSystem) (t : Nat) (key : Bytes) (record : Nat) (conn : Option Nat)
    (made : Except Error Nat) : OwnerSystem :=
  let (owner, abandoned) := s.owner.settleLocked key record made
  s.resume t key owner (.abandoning conn abandoned made)

/-- A session object for a finished handshake. -/
def newSession (owner : SessionOwnerState) (conn : Nat) (peer : Bytes) (outbound : Bool) :
    SessionOwnerState :=
  { owner with heap := owner.heap ++ [{ conn, peerIdentity := peer, outbound }] }

/-- The critical section of `SessionOwnerSeal`: the first seal collects what it will close. -/
def sealStep (s : OwnerSystem) (reason : Error) : OwnerSystem :=
  let owner := { s.owner with closeReason := s.owner.closeReason.or (some reason) }
  if owner.closed then { s with owner }
  else
    { s with
      owner := { owner with closed := true }
      sealedSessions := s.sealedSessions ++ owner.byIdentity.values
      sealedConns := s.sealedConns ++ owner.establishing.values.filterMap fun record =>
        (owner.records[record]?.map Establishing.conn).getD none }

/-- The step of one coroutine, at its program counter. -/
def callerStep (s : OwnerSystem) (t : Nat) (key : Bytes) : Pc → OwnerEvent → Option OwnerSystem
  | .entering, .enter _ => some (s.enterStep t key)
  | .waiting record _, .poll _ => some (s.pollStep t key record)
  | .waiting record true, .timeOut _ =>
    some (s.resume t key s.owner (.returned (.waited record .timedOut)))
  | .waiting record true, .cancel _ =>
    some (s.resume t key s.owner (.returned (.waited record .cancelled)))
  | .dialing record, .dial _ (.error error) =>
    some (s.resume t key s.owner (.settling record none (.error error)))
  | .dialing record, .dial _ (.ok _) =>
    some (s.resume t key { s.owner with conns := s.owner.conns ++ [{}] }
      (.dialed record s.owner.conns.length))
  | .dialing record, .throws _ error =>
    some (s.resume t key s.owner (.settling record none (.error error)))
  | .dialed record conn, .publish _ =>
    some (s.publishStep t key record conn)
  | .gated record conn, .gate _ (.ok _) => some (s.resume t key s.owner (.shaking record conn))
  | .gated record conn, .gate _ (.error error) =>
    some (s.resume t key (s.owner.requestClose conn) (.settling record (some conn) (.error error)))
  | .gated record conn, .throws _ error =>
    some (s.resume t key s.owner (.settling record (some conn) (.error error)))
  | .shaking record conn, .handshake _ (.ok peer) =>
    -- both handshakes refuse a peer that carries the local identity
    if peer = s.owner.options.localIdentity then none
    else
      some (s.resume t key (newSession s.owner conn peer true)
        (.installing (.outbound record) s.owner.heap.length conn))
  | .shaking record conn, .handshake _ (.error error) =>
    some (s.resume t key (s.owner.requestClose conn) (.settling record (some conn) (.error error)))
  | .shaking record conn, .throws _ error =>
    some (s.resume t key s.owner (.settling record (some conn) (.error error)))
  | .greeting conn, .handshake _ (.ok peer) =>
    if peer = s.owner.options.localIdentity then none
    else
      some (s.resume t key (newSession s.owner conn peer false)
        (.installing .inbound s.owner.heap.length conn))
  | .greeting conn, .handshake _ (.error _) => some (s.resume t key s.owner (.rejecting conn))
  | .greeting conn, .throws _ _ => some (s.resume t key s.owner (.rejecting conn))
  | .installing way id conn, .install _ =>
    (s.owner.heap[id]?).map fun session => s.installStep t key way id conn session
  | .installing way _ conn, .throws _ error => some (s.resume t key s.owner (way.failed conn error))
  | .evicting way id conn evicted, .evict _ =>
    some (s.resume t key (evicted.elim s.owner s.owner.kill) (.starting way id conn))
  | .evicting way _ conn _, .throws _ error => some (s.resume t key s.owner (way.failed conn error))
  | .starting way id conn, .begin _ reader writer =>
    some (s.beginStep t key way id conn reader writer)
  | .starting way _ conn, .throws _ error => some (s.resume t key s.owner (way.failed conn error))
  | .settling record conn made, .settle _ =>
    some (s.settleStep t key record conn made)
  | .abandoning conn abandoned made, .abandon _ =>
    some (s.resume t key (abandoned.elim s.owner s.owner.requestClose)
      (.returned (.established conn made)))
  | .rejecting conn, .reject _ =>
    some (s.resume t key (s.owner.requestClose conn) (.returned .inbound))
  | _, _ => none

/-- The coroutine that an event belongs to. -/
def caller? : OwnerEvent → Option Nat
  | .enter t | .poll t | .timeOut t | .cancel t | .dial t _ | .publish t | .gate t _
  | .handshake t _ | .throws t _ | .install t | .evict t | .begin t _ _ | .settle t
  | .abandon t | .reject t => some t
  | _ => none

/-- The step of the environment: new coroutines, and the retirement of sessions. -/
def environmentStep (s : OwnerSystem) : OwnerEvent → Option OwnerSystem
  | .call key =>
    if key = [] then none
    else some { s with callers := s.callers ++ [{ key, pc := .entering }] }
  | .accept =>
    some { s with
      owner := { s.owner with conns := s.owner.conns ++ [{}] }
      callers := s.callers ++ [{ key := [], pc := .greeting s.owner.conns.length }] }
  | .kill session =>
    -- nobody holds a session that is still on its way into `InstallSession`
    if s.callers.any fun caller => caller.pc.handle? == some session then none
    else some { s with owner := s.owner.kill session }
  | .killExit session => (s.owner.heap[session]?).bind fun target =>
    if target.killTail then some { s with owner := s.owner.killExit session } else none
  | .taskExit session => (s.owner.heap[session]?).bind fun target =>
    -- a reader or writer returns only after the death of its session
    if target.tasks ≠ 0 ∧ target.dead then some { s with owner := s.owner.taskExit session }
    else none
  | .release session => (s.owner.heap[session]?).bind fun target =>
    if target.releaseDue then some { s with owner := s.owner.releaseExit session } else none
  | .sweep session => some { s with owner := s.owner.releasedLocked session }
  | .connReleased conn => some { s with owner := s.owner.markReleased conn }
  | .seal reason => some (s.sealStep reason)
  | .sealKill =>
    match s.sealedSessions with
    | [] => none
    | session :: rest => some { s with owner := s.owner.kill session, sealedSessions := rest }
  | .sealClose =>
    match s.sealedConns with
    | [] => none
    | conn :: rest => some { s with owner := s.owner.requestClose conn, sealedConns := rest }
  | _ => none

/-- What a step of the environment does, event by event. -/
inductive EnvironmentTurn (s : OwnerSystem) : OwnerEvent → OwnerSystem → Prop
  | call {key : Bytes} (named : key ≠ []) : EnvironmentTurn s (.call key)
      { s with callers := s.callers ++ [{ key, pc := .entering }] }
  | accept : EnvironmentTurn s .accept { s with
      owner := { s.owner with conns := s.owner.conns ++ [{}] }
      callers := s.callers ++ [{ key := [], pc := .greeting s.owner.conns.length }] }
  | kill (session : Nat) :
      EnvironmentTurn s (.kill session) { s with owner := s.owner.kill session }
  | killExit (session : Nat) :
      EnvironmentTurn s (.killExit session) { s with owner := s.owner.killExit session }
  | taskExit (session : Nat) :
      EnvironmentTurn s (.taskExit session) { s with owner := s.owner.taskExit session }
  | release (session : Nat) :
      EnvironmentTurn s (.release session) { s with owner := s.owner.releaseExit session }
  | sweep (session : Nat) :
      EnvironmentTurn s (.sweep session) { s with owner := s.owner.releasedLocked session }
  | connReleased (conn : Nat) :
      EnvironmentTurn s (.connReleased conn) { s with owner := s.owner.markReleased conn }
  | sealing (reason : Error) : EnvironmentTurn s (.seal reason) (s.sealStep reason)
  | sealKill {session : Nat} {rest : List Nat} (queue : s.sealedSessions = session :: rest) :
      EnvironmentTurn s .sealKill
        { s with owner := s.owner.kill session, sealedSessions := rest }
  | sealClose {conn : Nat} {rest : List Nat} (queue : s.sealedConns = conn :: rest) :
      EnvironmentTurn s .sealClose
        { s with owner := s.owner.requestClose conn, sealedConns := rest }

/-- The environment does nothing else. -/
theorem environmentStep_turn {s s' : OwnerSystem} {event : OwnerEvent}
    (stepped : s.environmentStep event = some s') : EnvironmentTurn s event s' := by
  unfold environmentStep at stepped
  split at stepped
  · split at stepped
    · cases stepped
    case isFalse named =>
      cases stepped
      exact .call named
  · cases stepped
    exact .accept
  · split at stepped <;> cases stepped
    exact .kill _
  · obtain ⟨target, _, stepped⟩ := Option.bind_eq_some_iff.mp stepped
    obtain ⟨_, rfl⟩ := guarded_some stepped
    exact .killExit _
  · obtain ⟨target, _, stepped⟩ := Option.bind_eq_some_iff.mp stepped
    obtain ⟨_, rfl⟩ := guarded_some stepped
    exact .taskExit _
  · obtain ⟨target, _, stepped⟩ := Option.bind_eq_some_iff.mp stepped
    obtain ⟨_, rfl⟩ := guarded_some stepped
    exact .release _
  · cases stepped
    exact .sweep _
  · cases stepped
    exact .connReleased _
  · cases stepped
    exact .sealing _
  · split at stepped
    · cases stepped
    case h_2 queue =>
      cases stepped
      exact .sealKill queue
  · split at stepped
    · cases stepped
    case h_2 queue =>
      cases stepped
      exact .sealClose queue
  · cases stepped

/-- One step of the whole system. -/
def step (s : OwnerSystem) (event : OwnerEvent) : Option OwnerSystem :=
  match caller? event with
  | some t => (s.callers[t]?).bind fun caller => s.callerStep t caller.key caller.pc event
  | none => s.environmentStep event

/-- A fresh owner: accepted options and empty tables. -/
def IsStart (s : OwnerSystem) : Prop :=
  ∃ options : ClientOptions, options.validate = .ok () ∧ s = { owner := { options } }

/-- The interleavings of one session owner. -/
def machine : Machine OwnerSystem OwnerEvent where
  start := IsStart
  step := step

end OwnerSystem

end BbtInfra.Rpc
