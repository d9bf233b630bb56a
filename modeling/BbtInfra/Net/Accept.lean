import BbtInfra.Lib.Machine

/-!
# Accepting connections

The owner of the listeners waits on each of them, takes one connection when a wait completes and
hands it to the owner of a sub reactor, which registers it, puts it into the bounded handoff and
asks for the listeners to be armed again. Each wait holds a reservation of the handoff until its
connection is committed, and the destructor of the reservation gives it back. Coroutines take
connections from the handoff; `RequestStopAccepting` and `SealService` close it and ask what is left
in it to close. The listeners are armed again by the owner itself, by a handler that is posted to
it, or by a handler that is posted at most once at a time (`resume_pending`).
-/
namespace BbtInfra.Net

open Lib

/-- What an engine is configured with for accepting. -/
structure AcceptConfig where
  listeners : Nat
  /-- `handoff_enabled`, `handoff_capacity`. -/
  handoffEnabled : Bool
  handoffCapacity : Nat

/-- Where `ResumeAcceptIfFree` stands. -/
inductive ResumePc
  | look
  | claim
  | submit
  | retract
  deriving DecidableEq, Repr

/-- Where the holder of a reservation stands. -/
inductive TicketPc
  /-- In the wait of its listener. -/
  | waiting
  /-- `DoAccept` before its gate, before `accept4`, before its look at the stop, before `PickSub`,
  and before it posts the descriptor. -/
  | gate
  | native
  | stopCheck
  | route
  | send
  /-- `DoAccept` has called `ArmAccept`. -/
  | again
  /-- The descriptor is in the queue of a sub reactor. -/
  | posted
  /-- `AdoptFdOnOwner` before its gate, before it assigns the descriptor, before the check of the
  authorization, and before the commit. -/
  | adopt
  | assign
  | authorize
  | commit
  /-- `ResumeMainAccept` before it reads the owner, and before it posts. -/
  | rearm
  | repost
  /-- The reservation is about to be destroyed. -/
  | drop
  /-- Its destructor has given the place back. -/
  | resume (pc : ResumePc)
  | gone
  deriving DecidableEq, Repr

/-- `HandoffReservation`, its listener and its holder. -/
structure Ticket where
  counted : Bool
  committed : Bool := false
  listener : Nat
  pc : TicketPc := .waiting
  deriving DecidableEq, Repr

/-- Where the owner of the listeners stands. A ticket it returns to is the one for which `DoAccept`
has called `ArmAccept`; otherwise it goes on in the loop of `ArmAcceptAll`. -/
inductive AcceptMainPc
  | idle
  /-- The handler of `ResumeAcceptIfFree` before it clears `resume_pending`. -/
  | flag
  /-- `ArmAcceptAll` before its gate. -/
  | all
  /-- `ArmAccept` of this listener before its gate, and before `TryReserveHandoff`. -/
  | arm (listener : Nat) (back : Option Nat)
  | reserve (listener : Nat) (back : Option Nat)
  /-- The completion of the wait of this ticket runs. -/
  | serve (ticket : Nat)
  deriving DecidableEq, Repr

/-- Where a call of `CoWaitAccepted` stands. -/
inductive TakerPc
  | gate
  | pop
  | wait
  | resume (connection : Nat) (pc : ResumePc)
  | returned (connection : Option Nat)
  deriving DecidableEq, Repr

/-- Where a call of `RequestStopAccepting` or of `SealService` stands. -/
inductive CloserPc
  | exchange
  | stopClose
  | pop
  | ask (connection : Nat)
  | seal'
  | sealClose
  | askAll (connections : List Nat)
  | done
  deriving DecidableEq, Repr

/-- How a step ends that may fail. -/
inductive AcceptResult
  | ok
  /-- `EAGAIN` or `EINTR`. -/
  | again
  | failed
  deriving DecidableEq, Repr

/-- The accepting side of an engine. A connection has the index of its ticket. -/
structure Accept where
  /-- `service_sealed`, and `accept_stop_requested`. -/
  sealed' : Bool := false
  stop : Bool := false
  /-- The drivers are unregistered, and `main_reactor` is set. -/
  unbound : Bool := false
  mainReactor : Bool := true
  /-- `handoff_closed`, `handoff_reserved`, `handoff`. -/
  closed : Bool := false
  reserved : Nat := 0
  handoff : List Nat := []
  armed : List Bool
  resumePending : Bool := false
  /-- The posted calls of `ArmAcceptAll`, and whether they clear `resume_pending` first. -/
  queue : List Bool := []
  main : AcceptMainPc := .all
  tickets : List Ticket := []
  takers : List TakerPc := []
  closers : List CloserPc := []
  /-- The connections in the order of their registrations, of their commits, of their deliveries to
  takers, of their removals by closers, and of the requests to close them. -/
  registered : List Nat := []
  commits : List Nat := []
  delivered : List Nat := []
  drained : List Nat := []
  asked : List Nat := []
  deriving DecidableEq, Repr

/-- The steps on the accepting side of an engine. -/
inductive AcceptLabel
  | main
  /-- The wait of this ticket completes. -/
  | complete (i : Nat) (error : Bool)
  | ticket (i : Nat) (result : AcceptResult)
  /-- The handler that holds this ticket is destroyed with its context. -/
  | discard (i : Nat)
  | take
  | taker (k : Nat) (result : AcceptResult)
  | requestStop
  | sealService
  | closer (k : Nat)
  | unbind
  | clear
  deriving DecidableEq, Repr

namespace Accept

/-- The handoff has no place left. -/
def full (config : AcceptConfig) (s : Accept) : Bool :=
  config.handoffEnabled && decide (config.handoffCapacity ≤ s.handoff.length + s.reserved)

/-- `TryReserveHandoff`: the reservation is counted or not, or there is none. -/
def tryReserve (config : AcceptConfig) (s : Accept) : Option Bool :=
  if s.closed || s.sealed' then none
  else if !config.handoffEnabled then some false
  else if s.full config then none
  else some true

/-- The next step of `ResumeAcceptIfFree`, and where it stands then. -/
def resume (s : Accept) (result : AcceptResult) : ResumePc → Accept × Option ResumePc
  | .look => (s, if s.mainReactor then some .claim else none)
  | .claim =>
    if s.resumePending then (s, none) else ({ s with resumePending := true }, some .submit)
  | .submit =>
    if result = .ok ∧ s.sealed' = false then ({ s with queue := s.queue ++ [true] }, none)
    else (s, some .retract)
  | .retract => ({ s with resumePending := false }, none)

/-- A ticket goes on. -/
def setTicket (s : Accept) (i : Nat) (ticket : Ticket) (pc : TicketPc) : Accept :=
  { s with
    tickets := s.tickets.set i { ticket with pc }
    main := if s.main = .serve i ∧ (pc = .posted ∨ pc = .gone) then .idle else s.main }

/-- `ArmAccept` is over. -/
def leaveArm (s : Accept) (listener : Nat) (back : Option Nat) : Accept :=
  { s with main := (back.map .serve).getD (.arm (listener + 1) none) }

/-- The next step of the owner of the listeners, outside `DoAccept`. -/
def actMain (config : AcceptConfig) (s : Accept) : Option Accept :=
  match s.main with
  | .idle =>
    match s.unbound, s.queue with
    | false, flagged :: rest =>
      some { s with queue := rest, main := if flagged then .flag else .all }
    | _, _ => none
  | .flag => some { s with resumePending := false, main := .all }
  | .all => some { s with main := if s.sealed' || s.stop then .idle else .arm 0 none }
  | .arm listener back =>
    match s.armed[listener]? with
    | none => some { s with main := .idle }
    | some armed =>
      if s.sealed' || s.stop || armed then some (s.leaveArm listener back)
      else some { s with armed := s.armed.set listener true, main := .reserve listener back }
  | .reserve listener back =>
    match s.tryReserve config with
    | none => some ({ s with armed := s.armed.set listener false }.leaveArm listener back)
    | some counted =>
      some ({ s with
        reserved := s.reserved + if counted then 1 else 0
        tickets := s.tickets ++ [({ counted, listener } : Ticket)] }.leaveArm listener back)
  | .serve _ => none

/-- The next step of the holder of a ticket. -/
def actTicket (config : AcceptConfig) (s : Accept) (i : Nat) (ticket : Ticket)
    (result : AcceptResult) : Option Accept :=
  match ticket.pc with
  | .gate => some (s.setTicket i ticket (if s.sealed' then .drop else .native))
  | .native =>
    match result with
    | .ok => some (s.setTicket i ticket .stopCheck)
    | .again => some { s.setTicket i ticket .again with main := .arm ticket.listener (some i) }
    | .failed => some (s.setTicket i ticket .drop)
  | .stopCheck => some (s.setTicket i ticket (if s.stop then .drop else .route))
  -- `PickSub` finds no reactor only where `subs` is cleared together with `main_reactor`.
  | .route => some (s.setTicket i ticket (if s.mainReactor then .send else .drop))
  | .send =>
    some (s.setTicket i ticket (if result = .ok ∧ s.sealed' = false then .posted else .rearm))
  | .posted => if s.unbound then none else some (s.setTicket i ticket .adopt)
  | .adopt => some (s.setTicket i ticket (if s.sealed' then .rearm else .assign))
  | .assign =>
    if result = .ok then
      some { s.setTicket i ticket .authorize with registered := s.registered ++ [i] }
    else some (s.setTicket i ticket .drop)
  | .authorize =>
    if s.closed || s.sealed' then
      some { s.setTicket i ticket .drop with asked := s.asked ++ [i] }
    else some (s.setTicket i ticket .commit)
  | .commit =>
    if config.handoffEnabled then
      if s.closed then some { s.setTicket i ticket .drop with asked := s.asked ++ [i] }
      else
        some { s.setTicket i { ticket with committed := true } .rearm with
          reserved := s.reserved - 1
          handoff := s.handoff ++ [i]
          commits := s.commits ++ [i] }
    else some (s.setTicket i { ticket with committed := true } .rearm)
  | .rearm => some (s.setTicket i ticket (if s.mainReactor then .repost else .drop))
  | .repost =>
    if result = .ok ∧ s.sealed' = false then
      some { s.setTicket i ticket .drop with queue := s.queue ++ [false] }
    else some (s.setTicket i ticket .drop)
  -- `ReleaseHandoffReservation`, when the reservation is counted and not committed.
  | .drop =>
    if !ticket.counted || ticket.committed || s.closed then some (s.setTicket i ticket .gone)
    else some { s.setTicket i ticket (.resume .look) with reserved := s.reserved - 1 }
  | .resume pc =>
    let (s, next) := s.resume result pc
    some (s.setTicket i ticket ((next.map .resume).getD .gone))
  | .again => if s.main = .serve i then some (s.setTicket i ticket .drop) else none
  | .waiting | .gone => none

/-- A call of `CoWaitAccepted` goes on. -/
def setTaker (s : Accept) (k : Nat) (pc : TakerPc) : Accept :=
  { s with takers := s.takers.set k pc }

/-- The next step of a call of `CoWaitAccepted`. -/
def actTaker (config : AcceptConfig) (s : Accept) (k : Nat) (result : AcceptResult) :
    TakerPc → Option Accept
  | .gate =>
    some (s.setTaker k
      (if result ≠ .ok ∨ s.sealed' ∨ s.stop ∨ config.handoffEnabled = false then .returned none
      else .pop))
  | .pop =>
    match s.closed, s.handoff with
    | false, connection :: rest =>
      some { s.setTaker k (.resume connection .look) with
        handoff := rest
        delivered := s.delivered ++ [connection] }
    | _, _ => some (s.setTaker k (if s.sealed' || s.stop then .returned none else .wait))
  | .wait => some (s.setTaker k (if result = .ok then .pop else .returned none))
  | .resume connection pc =>
    let (s, next) := s.resume result pc
    some (s.setTaker k ((next.map (.resume connection)).getD (.returned (some connection))))
  | .returned _ => none

/-- A call of `RequestStopAccepting` or `SealService` goes on. -/
def setCloser (s : Accept) (k : Nat) (pc : CloserPc) : Accept :=
  { s with closers := s.closers.set k pc }

/-- The next step of a call of `RequestStopAccepting` or `SealService`. -/
def actCloser (s : Accept) (k : Nat) : CloserPc → Option Accept
  | .exchange =>
    some (if s.stop then s.setCloser k .done else { s.setCloser k .stopClose with stop := true })
  | .stopClose => some { s.setCloser k .pop with closed := true, reserved := 0 }
  | .pop =>
    match s.handoff with
    | [] => some (s.setCloser k .done)
    | connection :: rest =>
      some { s.setCloser k (.ask connection) with
        handoff := rest
        drained := s.drained ++ [connection] }
  | .ask connection => some { s.setCloser k .pop with asked := s.asked ++ [connection] }
  | .seal' => some { s.setCloser k .sealClose with sealed' := true }
  | .sealClose =>
    some { s.setCloser k (.askAll s.handoff) with
      closed := true
      reserved := 0
      handoff := []
      drained := s.drained ++ s.handoff }
  | .askAll [] => some (s.setCloser k .done)
  | .askAll (connection :: rest) =>
    some { s.setCloser k (.askAll rest) with asked := s.asked ++ [connection] }
  | .done => none

/-- The state after a step. -/
def step (config : AcceptConfig) (s : Accept) : AcceptLabel → Option Accept
  | .main => s.actMain config
  | .complete i error =>
    (s.tickets[i]?).bind fun ticket =>
      if ticket.pc = .waiting ∧ s.main = .idle ∧ s.unbound = false then
        some { s with
          armed := s.armed.set ticket.listener false
          main := .serve i
          tickets := s.tickets.set i { ticket with pc := if error then .drop else .gate } }
      else none
  | .ticket i result => (s.tickets[i]?).bind fun ticket => s.actTicket config i ticket result
  | .discard i =>
    (s.tickets[i]?).bind fun ticket =>
      if s.unbound ∧ (ticket.pc = .waiting ∨ ticket.pc = .posted) then
        some (s.setTicket i ticket .drop)
      else none
  | .take => some { s with takers := s.takers ++ [.gate] }
  | .taker k result => (s.takers[k]?).bind (s.actTaker config k result)
  | .requestStop => some { s with closers := s.closers ++ [.exchange] }
  | .sealService => some { s with closers := s.closers ++ [.seal'] }
  | .closer k => (s.closers[k]?).bind (s.actCloser k)
  | .unbind => some { s with unbound := true }
  | .clear => if s.unbound then some { s with mainReactor := false } else none

end Accept

/-- An engine from the end of its installation on, when the listeners are to be armed first. -/
def acceptMachine (config : AcceptConfig) : Machine Accept AcceptLabel where
  start s := s = { armed := List.replicate config.listeners false }
  step := Accept.step config

end BbtInfra.Net
