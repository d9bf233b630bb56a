import BbtInfra.Lib.Table
import BbtInfra.Rpc.Options

/-!
# The session owner and its critical sections

`SessionOwnerState` with everything its mutex protects, and the objects its tables refer
to: sessions, establishing records and connections, each in a heap that only grows, so an
identifier never changes its meaning. Each function below is one critical section of
`Session.cc` under `owner->mu`, or one atomic operation outside of it.

`by_endpoint` holds weak pointers. Its values are always installed sessions
(`OwnerSystem.byEndpoint_installed`), so `lock()` never fails and no expiry is modelled.
-/
namespace BbtInfra.Rpc

open Lib

/-- The error text of this translation unit: `Err` adds the prefix. -/
def err (code : ErrorCode) (message : String) : Error :=
  makeError code (text ("rpc session: " ++ message))

/-- The state of one connection that sessions ask for or observe. -/
structure Connection where
  /-- `RequestClose` was called by the session layer. -/
  closeRequested : Bool := false
  /-- `IsReleased`: the descriptor is closed and its owner has let go. -/
  released : Bool := false
  deriving DecidableEq, Repr

/-- The fields of `SessionCore` that its owner and its retirement use. -/
structure Session where
  conn : Nat
  peerIdentity : Bytes
  outbound : Bool
  dead : Bool := false
  responsibilities : Int := 0
  quotaHeld : Bool := false
  /-- Reader and writer coroutines that were registered and have not returned. -/
  tasks : Nat := 0
  /-- `Kill` has published the death and its own `ExitDone` is still to come. -/
  killTail : Bool := false
  /-- `ExitDone` has reached zero and its critical section is still to come. -/
  releaseDue : Bool := false
  deriving DecidableEq, Repr

/-- `SessionOwnerState::Establishing`. -/
structure Establishing where
  session : Option Nat := none
  error : Error := err .internalError "unset"
  done : Bool := false
  reserved : Bool := false
  conn : Option Nat := none
  deriving DecidableEq, Repr

/-- The record at the end of its establishment: the outcome, no connection, done. -/
def Establishing.settled (record : Establishing) (made : Except Error Nat) : Establishing :=
  match made with
  | .ok session => { record with session := some session, conn := none, done := true }
  | .error error => { record with error, conn := none, done := true }

/-- `SessionOwnerState`, with the heaps its tables point into. -/
structure SessionOwnerState where
  options : ClientOptions
  closed : Bool := false
  closeReason : Option Error := none
  byEndpoint : Table Bytes Nat := ∅
  byIdentity : Table Bytes Nat := ∅
  establishing : Table Bytes Nat := ∅
  sessions : UInt64 := 0
  links : UInt64 := 0
  heap : List Session := []
  records : List Establishing := []
  conns : List Connection := []
  deriving DecidableEq

namespace SessionOwnerState

/-- `conn.RequestClose()`. -/
def requestClose (owner : SessionOwnerState) (conn : Nat) : SessionOwnerState :=
  { owner with conns := owner.conns.modify conn fun c => { c with closeRequested := true } }

/-- The network layer lets go of a connection. -/
def markReleased (owner : SessionOwnerState) (conn : Nat) : SessionOwnerState :=
  { owner with conns := owner.conns.modify conn fun c => { c with released := true } }

/-- Rewrite one session. -/
def modifySession (owner : SessionOwnerState) (id : Nat) (f : Session → Session) :
    SessionOwnerState :=
  { owner with heap := owner.heap.modify id f }

/-- Rewrite one establishing record. -/
def modifyRecord (owner : SessionOwnerState) (record : Nat) (f : Establishing → Establishing) :
    SessionOwnerState :=
  { owner with records := owner.records.modify record f }

/-- `session->dead.load()`; an id outside the heap is not a session. -/
def isDead (owner : SessionOwnerState) (id : Nat) : Bool :=
  (owner.heap[id]?.map Session.dead).getD false

/-- The record holds a reservation. -/
def isReserved (owner : SessionOwnerState) (record : Nat) : Bool :=
  (owner.records[record]?.map Establishing.reserved).getD false

/-- `conn.IsReleased()`. -/
def connReleased (owner : SessionOwnerState) (conn : Nat) : Bool :=
  (owner.conns[conn]?.map Connection.released).getD false

/-- `RequestClose` was called on the connection. -/
def closeAsked (owner : SessionOwnerState) (conn : Nat) : Bool :=
  (owner.conns[conn]?.map Connection.closeRequested).getD false

/-- Establishing records that hold a reservation. -/
def reservedCount (owner : SessionOwnerState) : Nat := owner.establishing.count owner.isReserved

/-- The `occupied` sum that both quota checks compute. -/
def occupied (owner : SessionOwnerState) : Nat := owner.byIdentity.size + owner.reservedCount

/-- Sessions that hold quota: installed and not yet physically released. -/
def quotaHolders (owner : SessionOwnerState) : Nat := owner.heap.countP Session.quotaHeld

/-- `SessionCore::ReleasedLocked`: give quota, gauges and table entries back, once, and only
after the connection is physically released. -/
def releasedLocked (owner : SessionOwnerState) (id : Nat) : SessionOwnerState :=
  match owner.heap[id]? with
  | none => owner
  | some session =>
    if owner.connReleased session.conn = false then owner
    else if session.quotaHeld = false then owner
    else
      { owner.modifySession id fun s => { s with quotaHeld := false } with
        links := owner.links - 1
        sessions := owner.sessions - 1
        byIdentity := owner.byIdentity.filterValues fun other => other ≠ id
        byEndpoint := owner.byEndpoint.filterValues fun other => other ≠ id }

/-- The sweep at the head of `GetSession`: `DriveReleaseLocked` on every installed session,
collected before the first of them can erase its entry. -/
def driveRelease (owner : SessionOwnerState) : SessionOwnerState :=
  owner.byIdentity.values.foldl releasedLocked owner

/-- `SessionCore::Kill` as the owner sees it: the first caller publishes the death, asks the
connection to close and owes one `ExitDone`. -/
def kill (owner : SessionOwnerState) (id : Nat) : SessionOwnerState :=
  match owner.heap[id]? with
  | none => owner
  | some session =>
    if session.dead then owner
    else
      (owner.modifySession id fun s => { s with dead := true, killTail := true }).requestClose
        session.conn

/-- The decrement of `SessionCore::ExitDone`; whoever reaches zero goes on to take the lock. -/
def exitDone (owner : SessionOwnerState) (id : Nat) : SessionOwnerState :=
  owner.modifySession id fun s =>
    { s with
      responsibilities := s.responsibilities - 1
      releaseDue := s.releaseDue || s.responsibilities == 1 }

/-- The `ExitDone` at the end of `Kill`. -/
def killExit (owner : SessionOwnerState) (id : Nat) : SessionOwnerState :=
  (owner.modifySession id fun s => { s with killTail := false }).exitDone id

/-- The `ExitDone` at the end of a reader or writer coroutine. -/
def taskExit (owner : SessionOwnerState) (id : Nat) : SessionOwnerState :=
  (owner.modifySession id fun s => { s with tasks := s.tasks - 1 }).exitDone id

/-- The critical section of the `ExitDone` that reached zero. -/
def releaseExit (owner : SessionOwnerState) (id : Nat) : SessionOwnerState :=
  (owner.modifySession id fun s => { s with releaseDue := false }).releasedLocked id

/-- How the first critical section of `GetSession` ends. -/
inductive Entered
  | refused (error : Error)
  | live (session : Nat)
  | establisher (record : Nat)
  | waiter (record : Nat)
  deriving DecidableEq

/-- A new establishing record for this endpoint, its quota reserved. -/
def reserve (owner : SessionOwnerState) (key : Bytes) : SessionOwnerState :=
  { owner with
    records := owner.records ++ [{ reserved := true }]
    establishing := owner.establishing.insert key owner.records.length }

/-- `GetSession`, the part after the endpoint table: join the establishment of this endpoint
or start one, reserving quota in the same critical section. -/
def joinOrReserve (owner : SessionOwnerState) (key : Bytes) : SessionOwnerState × Entered :=
  match owner.establishing.lookup key with
  | some record => (owner, .waiter record)
  | none =>
    if owner.occupied ≥ owner.options.maxSessions then
      (owner, .refused (err .overloaded "max sessions reached (pre-dial)"))
    else (owner.reserve key, .establisher owner.records.length)

/-- `GetSession`, its first critical section. -/
def enterLocked (owner : SessionOwnerState) (key : Bytes) : SessionOwnerState × Entered :=
  if owner.closed then (owner, .refused (err .closed "owner closed"))
  else
    let owner := owner.driveRelease
    match owner.byEndpoint.lookup key with
    | some session =>
      if owner.isDead session then
        joinOrReserve { owner with byEndpoint := owner.byEndpoint.erase key } key
      else (owner, .live session)
    | none => owner.joinOrReserve key

/-- `EstablishOutbound`, the critical section after the dial: the record learns the
connection, and a closed owner has it closed again. -/
def publishConn (owner : SessionOwnerState) (record conn : Nat) :
    SessionOwnerState × Except Error Unit :=
  let owner := owner.modifyRecord record fun r => { r with conn := some conn }
  if owner.closed then (owner.requestClose conn, .error (err .closed "owner closed"))
  else (owner, .ok ())

/-- How the critical section of `InstallSession` ends. -/
inductive Installed
  | refused (error : Error)
  | fenced (winner : Nat)
  | won (evicted : Option Nat)
  deriving DecidableEq

/-- `keep_outbound`: of two links to one peer, the end with the smaller identity keeps the
one it dialled. -/
def keepOutbound (owner : SessionOwnerState) (peer : Bytes) : Bool :=
  owner.options.localIdentity < peer

/-- The common tail of the two winning branches of `InstallSession`: hold quota, map the
endpoint, take over the endpoints of an evicted session, count the link. -/
def adoptLocked (owner : SessionOwnerState) (id : Nat) (endpoint : Bytes) (evicted : Option Nat) :
    SessionOwnerState :=
  let owner := owner.modifySession id fun s => { s with quotaHeld := true }
  let mapped := if endpoint = [] then owner.byEndpoint else owner.byEndpoint.insert endpoint id
  { owner with
    byEndpoint := match evicted with
      | none => mapped
      | some old => mapped.mapValues fun other => if other = old then id else other
    links := owner.links + 1
    sessions := owner.sessions + 1 }

/-- The losing branch of `InstallSession`: the new link is fenced in favour of the entry. -/
def fenceLocked (owner : SessionOwnerState) (id conn : Nat) (endpoint : Bytes) (winner : Nat) :
    SessionOwnerState :=
  let owner := (owner.modifySession id fun s => { s with dead := true }).requestClose conn
  if endpoint = [] then owner
  else { owner with byEndpoint := owner.byEndpoint.insert endpoint winner }

/-- The quota that `InstallSession` counts against a link to a new peer: its own reservation
is not counted, it turns into the table entry. -/
def occupiedByOthers (owner : SessionOwnerState) (record : Option Nat) : Nat :=
  match record with
  | none => owner.occupied
  | some own => if owner.isReserved own then owner.occupied - 1 else owner.occupied

/-- Turn the reservation of an outbound establishment into table membership. -/
def convertReservation (owner : SessionOwnerState) : Option Nat → SessionOwnerState
  | none => owner
  | some own => owner.modifyRecord own fun r => { r with reserved := false }

/-- Map a peer to a session. -/
def mapIdentity (owner : SessionOwnerState) (peer : Bytes) (id : Nat) : SessionOwnerState :=
  { owner with byIdentity := owner.byIdentity.insert peer id }

/-- `InstallSession`, its critical section, for the session object `session` at `id`.
`endpoint` is empty and `record` absent for an inbound link. -/
def installLocked (owner : SessionOwnerState) (id : Nat) (session : Session) (endpoint : Bytes)
    (record : Option Nat) : SessionOwnerState × Installed :=
  if owner.closed then (owner, .refused (err .closed "owner closed"))
  else
    match owner.byIdentity.lookup session.peerIdentity with
    | some winner =>
      if owner.keepOutbound session.peerIdentity = session.outbound then
        ((owner.mapIdentity session.peerIdentity id).adoptLocked id endpoint (some winner),
          .won (some winner))
      else (owner.fenceLocked id session.conn endpoint winner, .fenced winner)
    | none =>
      if owner.occupiedByOthers record ≥ owner.options.maxSessions then
        (owner, .refused (err .overloaded "max sessions reached"))
      else
        (((owner.convertReservation record).mapIdentity session.peerIdentity id).adoptLocked id
          endpoint none, .won none)

/-- `InstallSession` after its critical section: one physical responsibility, then the reader
and the writer coroutine; a coroutine that cannot be registered kills the session. -/
def startTasks (owner : SessionOwnerState) (id : Nat) (reader writer : Bool) :
    SessionOwnerState × Except Error Nat :=
  let registered : Nat := if reader then if writer then 2 else 1 else 0
  let owner := owner.modifySession id fun s =>
    { s with
      responsibilities := s.responsibilities + 1 + registered
      tasks := s.tasks + registered }
  if reader && writer then (owner, .ok id)
  else (owner.kill id, .error (err .runtimeUnavailable "session task registration failed"))

/-- `GetSession`, its last critical section: publish the outcome to the waiters and drop the
record. Also returns the connection that a failed establishment leaves behind. -/
def settleLocked (owner : SessionOwnerState) (key : Bytes) (record : Nat)
    (made : Except Error Nat) : SessionOwnerState × Option Nat :=
  let abandoned := match made with
    | .ok _ => none
    | .error _ => (owner.records[record]?.map Establishing.conn).getD none
  let owner := owner.modifyRecord record fun r => r.settled made
  (if owner.establishing.lookup key = some record then
      { owner with establishing := owner.establishing.erase key }
    else owner, abandoned)

/-- What a waiter of `GetSession` reads once its record is done. -/
def waiterResult (owner : SessionOwnerState) (record : Establishing) : Except Error Nat :=
  match record.session with
  | some session => if owner.isDead session then .error record.error else .ok session
  | none => .error record.error

end SessionOwnerState

end BbtInfra.Rpc
