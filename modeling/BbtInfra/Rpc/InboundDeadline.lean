import Mathlib.Order.Lattice.Nat
import BbtInfra.Lib.Census
import BbtInfra.Lib.Machine
import BbtInfra.Rpc.Request

/-!
# The deadline of an inbound request

`DispatchInbound` bounds the budget of a request by the time-out of the server that accepted
the link; `AdmitInbound` takes that server, or the one that its owner knows. The servers of one
owner, the sessions of its links in both directions, and the requests on their way to the
admission handler. Servers are held by weak pointers, so each may be gone at either place.
-/
namespace BbtInfra.Rpc

open Lib List

/-- Nanoseconds of the steady clock in a millisecond. -/
def millisecond : Nat := 1000000

/-- A request between `DispatchInbound` and the handler. Which server bounded its deadline, when
it was received and with which budget are recorded for statements. -/
structure InboundRequest where
  request : Request
  receivedAt : Nat
  budget : UInt32
  bounded : Option Nat
  deriving DecidableEq

/-- `ServerV2State`, as far as requests get to it. -/
structure InboundServer where
  options : ServerOptions
  /-- Somebody still owns the server. -/
  alive : Bool := true
  /-- `ServerV2Start` has made the queue. -/
  started : Bool := false
  queue : List InboundRequest := []
  /-- Requests that the handler was called with. -/
  handled : List InboundRequest := []
  deriving DecidableEq

/-- `SessionCore`, as far as its reader dispatches requests. -/
structure InboundSession where
  peerIdentity : Bytes
  epoch : UInt64
  /-- The server that accepted the link; a link that was dialled has none. -/
  server : Option Nat
  /-- The reader is between `DispatchInbound` and `AdmitInbound`. -/
  dispatched : Option InboundRequest := none
  deriving DecidableEq

/-- One owner with its servers and its links. -/
structure InboundSystem where
  now : Nat := 0
  /-- `owner->inbound_server`. -/
  inboundServer : Option Nat := none
  servers : List InboundServer := []
  sessions : List InboundSession := []
  deriving DecidableEq

/-- One step of one party. -/
inductive InboundLabel
  | tick (elapsed : Nat)
  /-- `Server::Create`. -/
  | create (options : ServerOptions)
  /-- `ServerV2Start`. -/
  | start (server : Nat)
  /-- The last owner of a server lets go. -/
  | expire (server : Nat)
  /-- A dialled link is established. -/
  | dialled (peerIdentity : Bytes) (epoch : UInt64)
  /-- A server accepts a link. -/
  | accepted (server : Nat) (peerIdentity : Bytes) (epoch : UInt64)
  /-- `DispatchInbound` of a Call or Send frame. -/
  | dispatch (session : Nat) (frame : SessionFrame)
  /-- `AdmitInbound`; capacity and queue may refuse the request. -/
  | admitInbound (session : Nat) (taken : Bool)
  /-- The worker calls the handler. -/
  | handle (server : Nat)

namespace InboundSystem

/-- `lock()` of a weak pointer to a server. -/
def lock (s : InboundSystem) (server : Option Nat) : Option Nat :=
  server.filter fun i => s.servers[i]?.any InboundServer.alive

/-- The end of the time-out of a server for a request received now. -/
def timeoutOf (s : InboundSystem) (receivedAt : Nat) (server : Nat) : Deadline :=
  match s.servers[server]? with
  | some server => ((receivedAt + server.options.incomingTimeout.toNat * millisecond : Nat) : Deadline)
  | none => ⊤

/-- `local` of `DispatchInbound`. -/
def localBound (s : InboundSystem) (receivedAt : Nat) : Option Nat → Deadline
  | some server => s.timeoutOf receivedAt server
  | none => ⊤

/-- `remote` of `DispatchInbound`. -/
def remoteBound (receivedAt : Nat) (budget : UInt32) : Deadline :=
  ((receivedAt + budget.toNat * millisecond : Nat) : Deadline)

/-- The request that `DispatchInbound` makes of a frame. -/
def received (s : InboundSystem) (session : InboundSession) (frame : SessionFrame) :
    Except Error InboundRequest := do
  let bounded := s.lock session.server
  let request ← requestFromSessionFrame frame
    { deadline := min (remoteBound s.now frame.remainingBudgetMs) (s.localBound s.now bounded)
      peerIdentity := session.peerIdentity }
  return { request, receivedAt := s.now, budget := frame.remainingBudgetMs, bounded }

/-- `DispatchInbound` of a Call or Send frame that the decoder accepted. A frame of another
epoch is dropped. -/
def dispatch (s : InboundSystem) (i : Nat) (session : InboundSession) (frame : SessionFrame) :
    Option InboundSystem :=
  if (frame.validateKindRules true).isOk ∧ (frame.kind = .call ∨ frame.kind = .send) ∧
      session.dispatched = none then
    if frame.sessionEpoch ≠ session.epoch then some s
    else
      match s.received session frame with
      | .ok request =>
        some { s with sessions := s.sessions.set i { session with dispatched := some request } }
      | .error _ => some s
  else none

/-- The server that `AdmitInbound` admits to. -/
def admitting (s : InboundSystem) (session : InboundSession) : Option Nat :=
  (s.lock session.server).or (s.lock s.inboundServer)

/-- `AdmitInbound`. -/
def admitInbound (s : InboundSystem) (i : Nat) (session : InboundSession)
    (request : InboundRequest) (taken : Bool) : InboundSystem :=
  let next := { s with sessions := s.sessions.set i { session with dispatched := none } }
  match s.admitting session with
  | none => next
  | some server =>
    if taken ∧ s.servers[server]?.any InboundServer.started then
      { next with servers := s.servers.modify server fun target =>
          { target with queue := target.queue ++ [request] } }
    else next

/-- The worker takes the oldest request to the handler. -/
def handle (s : InboundSystem) (i : Nat) (server : InboundServer) : Option InboundSystem :=
  match server.queue with
  | [] => none
  | request :: rest =>
    let next := { server with queue := rest, handled := server.handled ++ [request] }
    some { s with servers := s.servers.set i next }

/-- One step of the system. -/
def step (s : InboundSystem) : InboundLabel → Option InboundSystem
  | .tick elapsed => some { s with now := s.now + elapsed }
  | .create options =>
    if options.validate.isOk then
      some { s with servers := s.servers ++ [{ options }], inboundServer := some s.servers.length }
    else none
  | .start i =>
    some { s with servers := s.servers.modify i fun server => { server with started := true } }
  | .expire i =>
    some { s with servers := s.servers.modify i fun server => { server with alive := false } }
  | .dialled peerIdentity epoch =>
    some { s with sessions := s.sessions ++ [{ peerIdentity, epoch, server := none }] }
  | .accepted server peerIdentity epoch =>
    if s.servers[server]?.any (fun server => server.alive && server.started) then
      some { s with sessions := s.sessions ++ [{ peerIdentity, epoch, server := some server }] }
    else none
  | .dispatch i frame => s.sessions[i]?.bind fun session => s.dispatch i session frame
  | .admitInbound i taken =>
    s.sessions[i]?.bind fun session =>
      session.dispatched.map fun request => s.admitInbound i session request taken
  | .handle i => s.servers[i]?.bind fun server => s.handle i server

/-- An owner without servers and links. -/
def machine : Machine InboundSystem InboundLabel where
  start s := s = {}
  step := step

variable {s s' : InboundSystem} {request : InboundRequest}

/-- The deadline of a request is the minimum of its two bounds, and a server that bounded it is
one of the servers. -/
structure Bounded (s : InboundSystem) (request : InboundRequest) : Prop where
  deadline : request.request.context.deadline =
    min (remoteBound request.receivedAt request.budget)
      (s.localBound request.receivedAt request.bounded)
  source : ∀ server, request.bounded = some server → server < s.servers.length

/-- Servers stay what they are but for their queues and their life. -/
def SameServers (s s' : InboundSystem) : Prop :=
  ∀ (i : Nat) (server : InboundServer), s.servers[i]? = some server →
    ∃ later, s'.servers[i]? = some later ∧ later.options = server.options

/-- Bounds of the past stay. -/
theorem Bounded.kept (bounded : s.Bounded request) (same : SameServers s s') :
    s'.Bounded request := by
  have present : ∀ server, request.bounded = some server →
      ∃ source later, s.servers[server]? = some source ∧ s'.servers[server]? = some later ∧
        later.options = source.options := by
    intro server by_
    have inside := bounded.source server by_
    obtain ⟨later, found, options⟩ := same server _ (List.getElem?_eq_getElem inside)
    exact ⟨_, later, List.getElem?_eq_getElem inside, found, options⟩
  constructor
  · rw [bounded.deadline]
    cases by_ : request.bounded with
    | none => rfl
    | some server =>
      obtain ⟨source, later, before, after, options⟩ := present server by_
      simp only [localBound, timeoutOf, before, after, options]
  · intro server by_
    obtain ⟨_, later, _, after, _⟩ := present server by_
    exact (List.getElem?_eq_some_iff.mp after).1

/-- What every step keeps. -/
structure Ledger (s : InboundSystem) : Prop where
  options : ∀ server ∈ s.servers, server.options.validate = .ok ()
  dispatched : ∀ session ∈ s.sessions, ∀ request, session.dispatched = some request →
    s.Bounded request
  queued : ∀ server ∈ s.servers, ∀ request ∈ server.queue, s.Bounded request
  handled : ∀ server ∈ s.servers, ∀ request ∈ server.handled, s.Bounded request

/-- A step that touches no server and brings no request. -/
theorem Ledger.sessions (ledger : s.Ledger) {now : Nat} {inboundServer : Option Nat}
    {sessions : List InboundSession}
    (old : ∀ session ∈ sessions, ∀ request, session.dispatched = some request →
      s.Bounded request) : Ledger { s with now, inboundServer, sessions } where
  options := ledger.options
  dispatched := fun session member request at_ =>
    (old session member request at_).kept fun _ server found => ⟨server, found, rfl⟩
  queued := fun server member request queued =>
    (ledger.queued server member request queued).kept fun _ server found => ⟨server, found, rfl⟩
  handled := fun server member request handled =>
    (ledger.handled server member request handled).kept fun _ server found => ⟨server, found, rfl⟩

/-- A step that rewrites one server and gives it no request that is not bounded. -/
theorem Ledger.modify (ledger : s.Ledger) {i : Nat} {f : InboundServer → InboundServer}
    (options : ∀ server, s.servers[i]? = some server → (f server).options = server.options)
    (queued : ∀ server, s.servers[i]? = some server →
      ∀ request ∈ (f server).queue, request ∈ server.queue ∨ s.Bounded request)
    (handled : ∀ server, s.servers[i]? = some server →
      ∀ request ∈ (f server).handled, request ∈ server.handled ∨ request ∈ server.queue) :
    Ledger { s with servers := s.servers.modify i f } := by
  have cases_ : ∀ server ∈ s.servers.modify i f, server ∈ s.servers ∨
      ∃ old, s.servers[i]? = some old ∧ server = f old := by
    intro server member
    obtain ⟨j, found⟩ := mem_iff_getElem?.mp member
    rcases getElem?_modify_cases found with ⟨rfl, old, present, same⟩ | ⟨_, old⟩
    · exact .inr ⟨old, present, same⟩
    · exact .inl (mem_of_getElem? old)
  have same : SameServers s { s with servers := s.servers.modify i f } := by
    intro j server found
    by_cases own : i = j
    · subst own
      exact ⟨f server, by simp [found], options server found⟩
    · exact ⟨server, by simpa [own] using found, rfl⟩
  refine
    { options := ?_
      dispatched := fun session member request at_ =>
        (ledger.dispatched session member request at_).kept same
      queued := ?_
      handled := ?_ }
  · intro server member
    rcases cases_ server member with old | ⟨old, found, rfl⟩
    · exact ledger.options server old
    · rw [options old found]
      exact ledger.options old (mem_of_getElem? found)
  · intro server member request inside
    rcases cases_ server member with old | ⟨old, found, rfl⟩
    · exact (ledger.queued server old request inside).kept same
    · rcases queued old found request inside with before | bounded
      · exact (ledger.queued old (mem_of_getElem? found) request before).kept same
      · exact bounded.kept same
  · intro server member request inside
    rcases cases_ server member with old | ⟨old, found, rfl⟩
    · exact (ledger.handled server old request inside).kept same
    · have present := mem_of_getElem? found
      rcases handled old found request inside with before | queue
      · exact (ledger.handled old present request before).kept same
      · exact (ledger.queued old present request queue).kept same

/-- A server that comes up keeps the ledger. -/
theorem Ledger.create (ledger : s.Ledger) {options : ServerOptions}
    (valid : options.validate = .ok ()) :
    Ledger { s with servers := s.servers ++ [{ options }]
                    inboundServer := some s.servers.length } := by
  have same : SameServers s { s with servers := s.servers ++ [{ options }] } :=
    fun _ server found => ⟨server, getElem?_push_old found, rfl⟩
  have cases_ : ∀ server ∈ s.servers ++ [({ options } : InboundServer)], server ∈ s.servers ∨
      server = ({ options } : InboundServer) := by
    intro server member
    rcases mem_append.mp member with old | new
    · exact .inl old
    · exact .inr (mem_singleton.mp new)
  refine
    { options := ?_
      dispatched := fun session member request at_ =>
        (ledger.dispatched session member request at_).kept same
      queued := ?_
      handled := ?_ }
  · intro server member
    rcases cases_ server member with old | rfl
    · exact ledger.options server old
    · exact valid
  · intro server member request inside
    rcases cases_ server member with old | rfl
    · exact (ledger.queued server old request inside).kept same
    · cases inside
  · intro server member request inside
    rcases cases_ server member with old | rfl
    · exact (ledger.handled server old request inside).kept same
    · cases inside

/-- A request carries the context it is read with. -/
theorem requestFromSessionFrame_context {frame : SessionFrame} {context : RequestContext}
    {request : Request} (read : requestFromSessionFrame frame context = .ok request) :
    request.context = context := by
  simp only [requestFromSessionFrame, checks_ok] at read
  cases read.2
  rfl

/-- What `DispatchInbound` makes of a frame has the minimum for its deadline. -/
theorem received_bounded {session : InboundSession} {frame : SessionFrame}
    (made : s.received session frame = .ok request) : s.Bounded request := by
  have alive : ∀ server, s.lock session.server = some server → server < s.servers.length := by
    intro server locked
    obtain ⟨_, live⟩ := Option.filter_eq_some_iff.mp locked
    obtain ⟨target, found, _⟩ := (Option.any_eq_true _ _).mp live
    exact (List.getElem?_eq_some_iff.mp found).1
  unfold received at made
  dsimp only at made
  cases read : requestFromSessionFrame frame
      { deadline := min (remoteBound s.now frame.remainingBudgetMs)
          (s.localBound s.now (s.lock session.server))
        peerIdentity := session.peerIdentity } with
  | error error =>
    rw [read] at made
    cases made
  | ok value =>
    rw [read] at made
    cases made
    have context := requestFromSessionFrame_context read
    exact { deadline := congrArg RequestContext.deadline context, source := alive }

/-- `AdmitInbound` keeps the ledger. -/
theorem Ledger.admitInbound (ledger : s.Ledger) {i : Nat} {session : InboundSession}
    (found : s.sessions[i]? = some session) (at_ : session.dispatched = some request)
    (taken : Bool) : (s.admitInbound i session request taken).Ledger := by
  have bounded := ledger.dispatched session (mem_of_getElem? found) request at_
  have idle : Ledger { s with sessions := s.sessions.set i { session with dispatched := none } } := by
    apply ledger.sessions
    intro other member request at_
    rcases mem_or_eq_of_mem_set member with old | rfl
    · exact ledger.dispatched other old request at_
    · cases at_
  unfold InboundSystem.admitInbound
  split
  · exact idle
  · split
    · apply idle.modify
      · exact fun _ _ => rfl
      · intro server _ other member
        rcases mem_append.mp member with before | new
        · exact .inl before
        · rw [mem_singleton.mp new]
          exact .inr (bounded.kept fun _ server found => ⟨server, found, rfl⟩)
      · exact fun _ _ _ member => .inl member
    · exact idle

/-- Every step keeps the ledger. -/
theorem Ledger.step (ledger : s.Ledger) {label : InboundLabel}
    (stepped : s.step label = some s') : s'.Ledger := by
  have pushed : ∀ session : InboundSession, session.dispatched = none →
      Ledger { s with sessions := s.sessions ++ [session] } := by
    intro session idle
    apply ledger.sessions
    intro other member request at_
    rcases mem_append.mp member with old | new
    · exact ledger.dispatched other old request at_
    · rw [mem_singleton.mp new, idle] at at_
      cases at_
  cases label with
  | tick elapsed =>
    cases stepped
    exact ledger.sessions ledger.dispatched
  | create options =>
    obtain ⟨accepted, rfl⟩ := guarded_some stepped
    apply ledger.create
    cases valid : options.validate with
    | ok value => rfl
    | error error =>
      rw [valid] at accepted
      cases accepted
  | start | expire =>
    cases stepped
    exact ledger.modify (fun _ _ => rfl) (fun _ _ _ member => .inl member)
      fun _ _ _ member => .inl member
  | dialled peerIdentity epoch =>
    cases stepped
    exact pushed _ rfl
  | accepted server peerIdentity epoch =>
    obtain ⟨_, rfl⟩ := guarded_some stepped
    exact pushed _ rfl
  | dispatch i frame =>
    obtain ⟨session, _, stepped⟩ := Option.bind_eq_some_iff.mp stepped
    unfold InboundSystem.dispatch at stepped
    split at stepped
    · split at stepped
      · cases stepped
        exact ledger
      · split at stepped
        · rename_i request made
          cases stepped
          apply ledger.sessions
          intro other member request at_
          rcases mem_or_eq_of_mem_set member with old | rfl
          · exact ledger.dispatched other old request at_
          · cases at_
            exact received_bounded made
        · cases stepped
          exact ledger
    · cases stepped
  | admitInbound i taken =>
    simp only [InboundSystem.step, Option.bind_eq_some_iff, Option.map_eq_some_iff] at stepped
    obtain ⟨session, found, request, at_, rfl⟩ := stepped
    exact ledger.admitInbound found at_ taken
  | handle i =>
    obtain ⟨server, found, stepped⟩ := Option.bind_eq_some_iff.mp stepped
    unfold InboundSystem.handle at stepped
    split at stepped
    · cases stepped
    · rename_i request rest queue
      cases stepped
      rw [set_eq_modify]
      apply ledger.modify
      · intro old present
        rw [found, Option.some.injEq] at present
        rw [present]
      · intro old present other member
        rw [found, Option.some.injEq] at present
        rw [← present, queue]
        exact .inl (mem_cons_of_mem _ member)
      · intro old present other member
        rw [found, Option.some.injEq] at present
        rw [← present, queue]
        rcases mem_append.mp member with before | new
        · exact .inl before
        · rw [mem_singleton.mp new]
          exact .inr mem_cons_self

/-- Every reachable state has its ledger. -/
theorem reachable_ledger (reachable : machine.Reachable s) : s.Ledger := by
  refine reachable.invariant Ledger ?_ fun _ _ _ ledger stepped => ledger.step stepped
  rintro _ rfl
  exact { options := nofun, dispatched := nofun, queued := nofun, handled := nofun }

/-- Time-outs are compared as their ends are. -/
theorem timeoutOf_le {server other : Nat} {target source : InboundServer}
    (found : s.servers[server]? = some target) (present : s.servers[other]? = some source)
    (positive : 0 < target.options.incomingTimeout) (receivedAt : Nat) :
    s.timeoutOf receivedAt other ≤ s.timeoutOf receivedAt server ↔
      source.options.incomingTimeout ≤ target.options.incomingTimeout := by
  simp only [timeoutOf, found, present, Nat.cast_le, millisecond]
  omega

/-- A budget is compared with a time-out as its end is. -/
theorem remoteBound_le {server : Nat} {target : InboundServer}
    (found : s.servers[server]? = some target) (positive : 0 < target.options.incomingTimeout)
    (receivedAt : Nat) (budget : UInt32) :
    remoteBound receivedAt budget ≤ s.timeoutOf receivedAt server ↔
      (budget.toNat : Int) ≤ target.options.incomingTimeout := by
  simp only [remoteBound, timeoutOf, found, Nat.cast_le, millisecond]
  omega

/-- The deadline of a request that the handler of a server was called with is within the local
minimum exactly when the budget is within the time-out of that server, or the server that
bounded it at its dispatch has no longer time-out. -/
theorem deadline_local_min_iff (reachable : machine.Reachable s) {server : Nat}
    {target : InboundServer} (found : s.servers[server]? = some target)
    (handled : request ∈ target.handled) :
    request.request.context.deadline ≤
        min (remoteBound request.receivedAt request.budget) (s.timeoutOf request.receivedAt server) ↔
      (request.budget.toNat : Int) ≤ target.options.incomingTimeout ∨
        ∃ bounded source, request.bounded = some bounded ∧ s.servers[bounded]? = some source ∧
          source.options.incomingTimeout ≤ target.options.incomingTimeout := by
  have ledger := reachable_ledger reachable
  have member := mem_of_getElem? found
  have bounded := ledger.handled target member request handled
  have positive := (ServerOptions.validate_ok (ledger.options target member)).2.2.2.1
  have remote := remoteBound_le found positive request.receivedAt request.budget
  rw [bounded.deadline, le_min_iff, min_le_iff, min_le_iff, remote]
  constructor
  · intro within
    rcases within.2 with budget | bound
    · exact .inl budget
    · right
      cases by_ : request.bounded with
      | none =>
        have finite : s.timeoutOf request.receivedAt server ≠ ⊤ := by
          simp only [timeoutOf, found]
          exact WithTop.natCast_ne_top _
        rw [by_] at bound
        exact absurd (top_le_iff.mp bound) finite
      | some other =>
        rw [by_] at bound
        have inside := bounded.source other by_
        have present := getElem?_eq_getElem inside
        exact ⟨other, _, rfl, present, (timeoutOf_le found present positive _).mp bound⟩
  · intro condition
    refine ⟨.inl le_rfl, ?_⟩
    rcases condition with budget | ⟨other, source, by_, present, shorter⟩
    · exact .inl budget
    · right
      rw [by_]
      exact (timeoutOf_le found present positive _).mpr shorter

/-- A call with a budget of a minute, twice the default time-out of a server. -/
def minuteCall : SessionFrame where
  kind := .call
  traffic := .service
  sessionEpoch := 1
  requestId := text "x"
  service := text "s"
  method := text "m"
  reply := .required
  remainingBudgetMs := 60000
  requestSchema := text "a"
  responseSchema := text "b"

/-- The call comes in over a link of this kind and gets to the handler. -/
def callOver (link : InboundLabel) : List InboundLabel :=
  [.create {}, .start 0, link, .dispatch 0 minuteCall, .admitInbound 0 true, .handle 0]

/-- Over an accepted link the time-out of the server bounds the call. -/
theorem deadline_local_min_iff_accepted : ∃ (s : InboundSystem) (target : InboundServer)
    (request : InboundRequest), s.servers[0]? = some target ∧ request ∈ target.handled ∧
      request.request.context.deadline ≤
        min (remoteBound request.receivedAt request.budget) (s.timeoutOf request.receivedAt 0) := by
  obtain ⟨s, reachable, ended⟩ := Machine.exists_reachable (m := machine)
    (callOver (.accepted 0 (text "b") 1))
    (fun s => s.servers[0]?.any fun target => target.handled.any fun request =>
      decide (request.bounded = some 0)) rfl (by decide +kernel)
  simp only [Option.any_eq_true, any_eq_true, decide_eq_true_eq] at ended
  obtain ⟨target, found, request, handled, bounded⟩ := ended
  exact ⟨s, target, request, found, handled,
    (deadline_local_min_iff reachable found handled).mpr
      (.inr ⟨0, target, bounded, found, le_rfl⟩)⟩

/-- Over a dialled link nothing but its own budget bounds the call. -/
theorem dialled_deadline_beyond_timeout :
    ¬∀ s, machine.Reachable s → ∀ (server : Nat) (target : InboundServer),
      s.servers[server]? = some target → ∀ request ∈ target.handled,
        request.request.context.deadline ≤
          min (remoteBound request.receivedAt request.budget)
            (s.timeoutOf request.receivedAt server) := by
  intro within
  obtain ⟨s, reachable, ended⟩ := Machine.exists_reachable (m := machine)
    (callOver (.dialled (text "b") 1))
    (fun s => s.servers[0]?.any fun target => target.handled.any fun request =>
      decide (s.timeoutOf request.receivedAt 0 < request.request.context.deadline)) rfl
    (by decide +kernel)
  simp only [Option.any_eq_true, any_eq_true, decide_eq_true_eq] at ended
  obtain ⟨target, found, request, handled, beyond⟩ := ended
  have bound := within s reachable 0 target found request handled
  exact absurd (lt_of_lt_of_le beyond (le_trans bound (min_le_right _ _))) (lt_irrefl _)

end InboundSystem

end BbtInfra.Rpc
