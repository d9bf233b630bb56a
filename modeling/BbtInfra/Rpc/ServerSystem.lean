import BbtInfra.Rpc.OwnerLedger

/-!
# A server over its session owner

`ServerV2State` as far as the admission of connections goes: `AcceptLoop` with the
`MaxConnections` test, `ServeInbound` with its entries in `handshakes` and `links`, and the
coroutines of the owner under both. The work of a served coroutine on the owner is a step of
`OwnerSystem`; what it does under the mutex of the server is a label of its own. The owner may
have other servers, whose links are accepted by the owner alone.
-/
namespace BbtInfra.Rpc

open Lib

/-- A connection that `AcceptLoop` admitted, with the coroutine that runs `ServeInbound` on it. -/
structure ServedLink where
  conn : Nat
  caller : Nat
  /-- `live`: the session that `InstallSession` returned. -/
  live : Option Nat := none
  /-- The entry of `handshakes` has been erased. -/
  finished : Bool := false
  deriving DecidableEq

/-- `ServerV2State` over the owner. -/
structure ServerSystem where
  system : OwnerSystem
  options : ServerOptions
  stopping : Bool := false
  /-- Weak pointers, in the order in which they were pushed. -/
  links : List Nat := []
  /-- The keys of `handshakes`: connections whose `ServeInbound` is not over. -/
  handshakes : List Nat := []
  served : List ServedLink := []
  /-- Sessions whose last shared pointer is gone. -/
  expired : List Nat := []
  deriving DecidableEq

/-- One critical section under the mutex of the server, or one step of the owner. -/
inductive ServerEvent
  /-- `AcceptLoop` has accepted a connection and decides on it. -/
  | accept
  /-- A step under the owner, of a coroutine of this server or of anybody else. -/
  | owner (event : OwnerEvent)
  /-- The last critical section of `ServeInbound`. -/
  | publish (link : Nat)
  /-- `finish`, of a link that is not published. -/
  | finish (link : Nat)
  /-- The last shared pointer to a session goes. -/
  | destroy (session : Nat)
  /-- `RequestStopAccepting`, `Shutdown` or `Close`. -/
  | stop
  deriving DecidableEq

/-- The session that `InstallSession` returns to its caller in this step. -/
def OwnerSystem.handedBack (s : OwnerSystem) : OwnerEvent → Option Nat
  | .install t =>
    match s.callers[t]? with
    | some ⟨key, .installing way id _⟩ =>
      (s.owner.heap[id]?).bind fun session =>
        match (s.owner.installLocked id session key way.record).2 with
        | .fenced winner => some winner
        | _ => none
    | _ => none
  | .begin t reader writer =>
    match s.callers[t]? with
    | some ⟨_, .starting _ id _⟩ => (s.owner.startTasks id reader writer).2.toOption
    | _ => none
  | _ => none

/-- A coroutine has a shared pointer to this session. -/
def Pc.refersTo (id : Nat) : Pc → Bool
  | .installing _ session _ | .starting _ session _ => session == id
  | .evicting _ session _ evicted => session == id || evicted == some id
  | .settling _ _ (.ok session) => session == id
  | _ => false

/-- `ServeInbound` is past its work on the owner, and nothing was installed. -/
def Pc.turnedAway : Pc → Bool
  | .rejecting _ | .returned _ => true
  | _ => false

namespace ServedLink

/-- The link after a step under the owner. -/
def follow (s : OwnerSystem) (event : OwnerEvent) (link : ServedLink) : ServedLink :=
  if OwnerSystem.caller? event = some link.caller then { link with live := s.handedBack event }
  else link

end ServedLink

namespace ServerSystem

/-- The `MaxConnections` test of `AcceptLoop`. -/
def full (s : ServerSystem) : Bool :=
  s.options.maxConnections ≤ s.links.length + s.handshakes.length

/-- `AcceptLoop`: a connection is closed at once, or entered in `handshakes` and served. A
connection that is closed at once stays out of the model. -/
def acceptStep (s : ServerSystem) : Option ServerSystem :=
  if s.stopping || s.full then some s
  else
    (s.system.step .accept).map fun system =>
      { s with
        system
        handshakes := s.handshakes ++ [s.system.owner.conns.length]
        served := s.served ++
          [{ conn := s.system.owner.conns.length, caller := s.system.callers.length }] }

/-- Somebody has a shared pointer to the session: the identity table, its reader or writer, a
coroutine on its way through `InstallSession`, a seal, or `ServeInbound` before its end. Holders
outside of the owner are left to the environment. -/
def referenced (s : ServerSystem) (id : Nat) : Bool :=
  s.system.owner.byIdentity.values.contains id ||
    (s.system.owner.heap[id]?).any (fun session => session.tasks != 0) ||
    s.system.callers.any (fun caller => caller.pc.refersTo id) ||
    s.system.sealedSessions.contains id ||
    s.served.any fun link => link.live == some id && !link.finished

/-- The end of `ServeInbound` for one link: its entry of `handshakes` goes. -/
def endLink (s : ServerSystem) (i : Nat) (link : ServedLink) (links : List Nat) : ServerSystem :=
  { s with
    links
    handshakes := s.handshakes.erase link.conn
    served := s.served.set i { link with finished := true } }

/-- The last critical section of `ServeInbound`: push what `InstallSession` returned, then
sweep the weak pointers that have expired. -/
def publishStep (s : ServerSystem) (i : Nat) (link : ServedLink) (live : Nat) : ServerSystem :=
  s.endLink i link ((s.links ++ [live]).filter fun id => !s.expired.contains id)

/-- One step of the server. -/
def step (s : ServerSystem) : ServerEvent → Option ServerSystem
  | .accept => s.acceptStep
  | .owner event =>
    (s.system.step event).map fun system =>
      { s with system, served := s.served.map fun link => link.follow s.system event }
  | .publish i =>
    (s.served[i]?).bind fun link =>
      if link.finished then none else link.live.map fun live => s.publishStep i link live
  | .finish i =>
    (s.served[i]?).bind fun link =>
      if link.finished || link.live.isSome then none
      else if (s.system.callers[link.caller]?).any (fun caller => caller.pc.turnedAway) then
        some (s.endLink i link s.links)
      else none
  | .destroy id =>
    if s.referenced id then none else some { s with expired := s.expired ++ [id] }
  | .stop => some { s with stopping := true }

/-- A server with accepted options over a fresh owner. -/
def IsStart (s : ServerSystem) : Prop :=
  OwnerSystem.IsStart s.system ∧ s.options.validate = .ok () ∧
    s = { system := s.system, options := s.options }

/-- The interleavings of a server with its owner. -/
def machine : Machine ServerSystem ServerEvent where
  start := IsStart
  step := step

/-- Entries of `links` whose session still exists. -/
def liveLinks (s : ServerSystem) : List Nat := s.links.filter fun id => !s.expired.contains id

/-- The connections that this server accepted. -/
def acceptedConns (s : ServerSystem) : List Nat := s.served.map ServedLink.conn

/-- The session came in on a connection that this server accepted. -/
def Accepted (s : ServerSystem) (id : Nat) : Prop :=
  ∃ session, s.system.owner.heap[id]? = some session ∧ session.outbound = false ∧
    session.conn ∈ s.acceptedConns

/-- Accepted connections that are not yet released. -/
def unreleased (s : ServerSystem) : List Nat :=
  s.acceptedConns.filter fun conn => !s.system.owner.connReleased conn

/-- What the sum of the `MaxConnections` test is meant to count. -/
structure Counts (s : ServerSystem) : Prop where
  distinct : s.liveLinks.Nodup
  accepted : ∀ id ∈ s.liveLinks, s.Accepted id
  bounded : s.links.length + s.handshakes.length ≤ s.unreleased.length

/-- The connections that the sum counts: those of the sessions in `links`, and `handshakes`. -/
def counted (s : ServerSystem) : List Nat :=
  s.links.filterMap (fun id => (s.system.owner.heap[id]?).map Session.conn) ++ s.handshakes

end ServerSystem

/-- `InstallSession` would take its losing branch for this session. -/
def SessionOwnerState.fences (o : SessionOwnerState) (session : Session) : Bool :=
  !o.closed && (o.byIdentity.lookup session.peerIdentity).isSome && !decide (o.prefers session)

/-- The coroutine is about to lose the duplicate election. -/
def OwnerSystem.loses (s : OwnerSystem) (t : Nat) : Bool :=
  match s.callers[t]? with
  | some ⟨_, .installing _ id _⟩ => (s.owner.heap[id]?).any s.owner.fences
  | _ => false

namespace ServerSystem

/-- No link of this server loses the duplicate election in this step. -/
def elected (s : ServerSystem) : ServerEvent → Bool
  | .owner (.install t) => !(s.served.any fun link => link.caller == t) || !s.system.loses t
  | _ => true

/-- No connection is released in this step while the sum counts it. -/
def swept (s : ServerSystem) : ServerEvent → Bool
  | .owner (.connReleased conn) => !s.counted.contains conn
  | _ => true

/-- A step that leaves the count right. -/
def undisturbed (s : ServerSystem) (event : ServerEvent) : Bool := s.elected event && s.swept event

end ServerSystem

end BbtInfra.Rpc
