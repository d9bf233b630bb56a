import BbtInfra.Net.SoleWrite
import BbtInfra.Rpc.TcpFrame

/-!
# TCP transport

`TcpRpcTransport` makes one connection for each call. A step of the model is one critical section
of its `State::mutex`, or one stretch of code between two of them; the environment dials, answers
reads and drives the connections. `Close` asks the connections that are published to close, one
after the other. Local variables whose destructors matter are the last places of a call.
-/
namespace BbtInfra.Rpc

open Lib Net

variable [CompletionBuffer]

/-- `TcpRpcOptions`. -/
structure TcpRpcOptions where
  maxInflight : Nat
  maxFrameBytes : Nat

/-- `TcpCallError`, for a request that is committed. -/
def tcpCommittedError (cause : StdErrorCode) (message : String) : Error :=
  let error := { tcpCallError cause message with requestPhase := some .requestCommitted }
  if error.code = .cancelled then error else { error with code := .outcomeUnknown }

/-- `TcpProtocolError`, for a request that is committed. -/
def tcpProtocolError (message : String) : Error :=
  { makeError .protocolError (text ("rpc tcp: " ++ message)) with
    requestPhase := some .requestCommitted }

/-- What `Exchange` finds of the address it is given. -/
inductive TcpAddress
  | valid
  | otherTransport
  /-- `ParseTcpEndpoint` fails. -/
  | badEndpoint
  /-- `Address::Ip` fails. -/
  | badIp
  deriving DecidableEq, Repr

/-- The error of an address. -/
def TcpAddress.error : TcpAddress → Option Error
  | .valid => none
  | .otherTransport =>
    some (makeError .invalidArgument (text "rpc tcp transport: address requires tcp transport"))
  | .badEndpoint =>
    some (makeError .invalidArgument (text "rpc tcp: endpoint must be numeric-ip:port"))
  | .badIp =>
    some (makeError .invalidArgument (text "rpc tcp transport: invalid endpoint address"))

/-- How a call of `Exchange` ends. -/
inductive ExchangeEnd
  | ok (body : Bytes)
  | error (error : Error)
  | threw
  deriving DecidableEq

/-- Where a call of `Exchange` stands. -/
inductive ExchangePc
  | look
  /-- The address is parsed and the frame is built. -/
  | prepare
  | gate
  /-- Before `Admit`. -/
  | admit'
  | dial
  /-- There is a connection, before `Publish`. -/
  | publish
  /-- The transport was closed during the dial. -/
  | refuse
  | write
  | writing
  | read
  /-- There is a payload, before the look at `pending`. -/
  | trailing (body : Bytes)
  | lastGate (body : Bytes)
  | lastRead (body : Bytes)
  /-- `~DialLease`, before `RequestClose` and before `Release`. -/
  | closing (ending : ExchangeEnd)
  | releasing (ending : ExchangeEnd)
  | returned (ending : ExchangeEnd)
  deriving DecidableEq

/-- The call holds a place in flight. -/
def ExchangePc.holds : ExchangePc → Bool
  | .look | .prepare | .gate | .admit' | .returned _ => false
  | _ => true

/-- A call of `Exchange`. -/
structure ExchangeCall where
  request : Bytes
  /-- The connection that was dialled for it. -/
  link : Option Nat := none
  reading : FrameRead := {}
  pc : ExchangePc := .look
  deriving DecidableEq

/-- What happens in a step of `Exchange`. -/
inductive ExchangeMove
  | go
  | prepare (address : TcpAddress)
  /-- `CheckCall` answers. -/
  | gate (code : StdErrorCode)
  /-- `CoDial` gives a connection with these limits, or fails. -/
  | dialed (outboundMax maxOps : Nat)
  | undialed (code : StdErrorCode)
  | fill (move : FillMove)
  | lastRead (outcome : Except StdErrorCode Bytes)
  /-- Something throws. -/
  | raise
  deriving DecidableEq

/-- A connection that was dialled, by the call that did. -/
structure TcpLink where
  owner : Nat
  writes : CoWrites
  deriving DecidableEq

/-- `RequestClose` of the connection. -/
def TcpLink.requestClose (link : TcpLink) : TcpLink :=
  { link with writes := { link.writes with side := link.writes.side.requestClose .success } }

/-- It was asked to close. -/
def TcpLink.requested (link : TcpLink) : Bool := link.writes.side.closeRequested

/-- Where a `Close` stands. -/
inductive TcpClosePc
  | seal'
  /-- It has sealed the transport, and these connections are to be asked to close. -/
  | request (doomed : List Nat)
  /-- It has returned, as the one that sealed the transport or as another. -/
  | returned (first : Bool)
  deriving DecidableEq, Repr

/-- `TcpRpcTransport::State` with its calls; `connections` names connections by their place in
`links`. -/
structure TcpRpcState where
  closed : Bool := false
  inflight : Nat := 0
  connections : List Nat := []
  links : List TcpLink := []
  calls : List ExchangeCall := []
  closers : List TcpClosePc := []
  deriving DecidableEq

/-- The steps of a transport and of its connections. -/
inductive TcpRpcLabel
  | exchange (request : Bytes)
  | act (i : Nat) (move : ExchangeMove)
  /-- A step on a connection, in which no call of `Write` begins. -/
  | link (k : Nat) (label : CoWriteLabel)
  | close
  | closer (c : Nat)
  deriving DecidableEq

namespace TcpRpcState

variable (o : TcpRpcOptions) (s : TcpRpcState)

/-- A call of `Exchange` goes on. -/
def put (i : Nat) (call : ExchangeCall) : TcpRpcState := { s with calls := s.calls.set i call }

/-- A call of `Exchange` goes on elsewhere. -/
def goTo (i : Nat) (call : ExchangeCall) (pc : ExchangePc) : TcpRpcState :=
  s.put i { call with pc }

/-- A write to one connection. -/
def setLink (k : Nat) (f : TcpLink → TcpLink) : TcpRpcState :=
  { s with links := s.links.modify k f }

/-- `RequestClose` of the connection of a call, if there is one. -/
def requestClose : Option Nat → TcpRpcState
  | none => s
  | some k => s.setLink k TcpLink.requestClose

/-- Where `Exchange` goes with its reader. -/
def afterRead (r : FrameRead) : Option FrameEnd → ExchangePc
  | none => .read
  | some (.ended code) =>
    .closing (.error (tcpCommittedError code (match r.stage with
      | .prefix' => "response prefix read ended"
      | .body _ => "response body read ended")))
  | some .outOfBounds =>
    .closing (.error (tcpProtocolError "response frame length out of bounds"))
  | some (.payload body) => .trailing body

/-- The error of a payload with bytes behind it. -/
def trailingError : ExchangeEnd := .error (tcpProtocolError "response frame has trailing bytes")

/-- What `Write` has returned. -/
def afterWrite (writes : CoWrites) : Option ExchangePc :=
  match writes.calls with
  | [⟨_, .returned report⟩] =>
    match tcpSettleWrite report "request write did not complete" with
    | .ok () => some .read
    | .error error => some (.closing (.error error))
  | _ => none

/-- A step of `Exchange`. -/
def act (i : Nat) (call : ExchangeCall) : ExchangePc → ExchangeMove → Option TcpRpcState
  | .look, .go =>
    some (s.goTo i call (if s.closed then
      .returned (.error (makeError .closed (text "rpc tcp transport: closed"))) else .prepare))
  | .prepare, .prepare address =>
    match address.error with
    | some error => some (s.goTo i call (.returned (.error error)))
    | none =>
      match encodeRequestFrame call.request o.maxFrameBytes with
      | .error error => some (s.goTo i call (.returned (.error error)))
      | .ok _ => some (s.goTo i call .gate)
  | .gate, .gate code =>
    some (s.goTo i call (if code.failed then
      .returned (.error (tcpCallError code "exchange rejected before dial")) else .admit'))
  | .admit', .go =>
    if s.closed then
      some (s.goTo i call
        (.returned (.error (makeError .closed (text "rpc tcp transport: closed")))))
    else if s.inflight ≥ o.maxInflight then
      some (s.goTo i call (.returned
        (.error (makeError .overloaded (text "rpc tcp transport: max_inflight reached")))))
    else some { s.goTo i call .dial with inflight := s.inflight + 1 }
  | .dial, .undialed code =>
    some (s.goTo i call (.closing (.error (tcpCallError code "connect failed"))))
  | .dial, .dialed outboundMax maxOps =>
    some { s.put i { call with link := some s.links.length, pc := .publish } with
      links := s.links ++ [⟨i, { side := WriteSide.make outboundMax maxOps }⟩] }
  | .publish, .go =>
    if s.closed then some (s.goTo i call .refuse)
    else
      some { s.goTo i call .write with connections := s.connections ++ call.link.toList }
  | .refuse, .go =>
    some ((s.requestClose call.link).goTo i call (.closing
      (.error (makeError .closed (text "rpc tcp transport: closed during dial")))))
  | .write, .go =>
    call.link.map fun k =>
      (s.setLink k fun link =>
        { link with
          writes := { link.writes with
            calls := link.writes.calls ++ [{ data := tcpFrame call.request }] } }).goTo i call
        .writing
  | .writing, .go =>
    (call.link.bind fun k => s.links[k]?).bind fun link =>
      (afterWrite link.writes).map fun pc => s.put i { call with reading := {}, pc }
  | .read, .fill move =>
    (call.reading.step o.maxFrameBytes move).map fun (reading, ending) =>
      s.put i { call with reading, pc := afterRead reading ending }
  | .trailing body, .go =>
    some (s.goTo i call (if call.reading.pending = [] then .lastGate body
      else .closing trailingError))
  | .lastGate body, .gate code =>
    some (s.goTo i call (if code.failed then .closing (.ok body) else .lastRead body))
  | .lastRead body, .lastRead (.error _) => some (s.goTo i call (.closing (.ok body)))
  | .lastRead _, .lastRead (.ok bytes) =>
    some (s.put i { call with
      reading := call.reading.receive bytes
      pc := .closing trailingError })
  | .closing ending, .go => some ((s.requestClose call.link).goTo i call (.releasing ending))
  | .releasing ending, .go =>
    some { s.goTo i call (.returned ending) with
      inflight := s.inflight - 1
      connections := s.connections.filter fun k => decide (call.link ≠ some k) }
  | pc, .raise =>
    match pc with
    | .prepare => some (s.goTo i call (.returned .threw))
    | .dial | .publish | .write | .writing | .read | .trailing _ | .lastRead _ =>
      some (s.goTo i call (.closing .threw))
    | _ => none
  | _, _ => none

/-- A step of `Close`. -/
def actClose (c : Nat) : TcpClosePc → Option TcpRpcState
  | .seal' =>
    if s.closed then some { s with closers := s.closers.set c (.returned false) }
    else
      some { s with
        closed := true
        closers := s.closers.set c (.request s.connections) }
  | .request [] => some { s with closers := s.closers.set c (.returned true) }
  | .request (k :: doomed) =>
    some { s.requestClose (some k) with closers := s.closers.set c (.request doomed) }
  | .returned _ => none

/-- The state after one step. -/
def step : TcpRpcLabel → Option TcpRpcState
  | .exchange request => some { s with calls := s.calls ++ [{ request }] }
  | .act i move => (s.calls[i]?).bind fun call => s.act o i call call.pc move
  | .link k label =>
    if label.alone then
      (s.links[k]?).bind fun link =>
        (link.writes.step label).map fun writes =>
          s.setLink k fun link => { link with writes }
    else none
  | .close => some { s with closers := s.closers ++ [.seal'] }
  | .closer c => (s.closers[c]?).bind fun pc => s.actClose c pc

end TcpRpcState

/-- A transport with these options, from its creation on. -/
def tcpRpcMachine (o : TcpRpcOptions) : Machine TcpRpcState TcpRpcLabel where
  start s := s = {}
  step := TcpRpcState.step o

end BbtInfra.Rpc
