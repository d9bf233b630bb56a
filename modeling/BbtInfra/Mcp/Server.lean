import BbtInfra.Lib.Machine
import BbtInfra.Mcp.Registry

/-!
# A server with its sessions and its frames

`McpServer::Impl` with any number of sessions, running `HandleFrame` calls, publishers and ends.
A label is one critical section, one atomic operation or one delivery to a sink, of one thread.
`Close` holds the mutex of the server over three of them. The time of a deadline is chosen by the
label, and so is what a callback returns.
-/
namespace BbtInfra.Mcp

open Lib

/-- `RequestOwner::Terminal`. -/
inductive Terminal
  | none' | completed | cancelled | timedOut | closed
  deriving DecidableEq, Repr

/-- `RequestOwner`. -/
structure RequestOwner where
  requestId : RequestId
  session : Nat
  abort : Bool := false
  terminal : Terminal := .none'
  deriving DecidableEq

/-- `TryFinish`, which sets the terminal state of an owner that has none. -/
def RequestOwner.tryFinish (owner : RequestOwner) (kind : Terminal) : RequestOwner :=
  if owner.terminal = .none' then { owner with terminal := kind, abort := true } else owner

/-- The abort flag is raised first, whatever becomes of `TryFinish`. -/
def RequestOwner.stop (owner : RequestOwner) (kind : Terminal) : RequestOwner :=
  { owner.tryFinish kind with abort := true }

/-- `McpSession`, with whether its notifications have a sink. -/
structure McpSession where
  sink : Bool
  initializeAccepted : Bool := false
  initialized : Bool := false
  negotiatedVersion : Option Bytes := none
  clientCapabilities : JsonValue := .empty

/-- `SubscriptionEntry`. -/
structure SubscriptionEntry where
  token : Nat
  listenId : RequestId
  session : Nat
  resourceUris : List Bytes
  ackSent : Bool := false
  /-- The call that listened. -/
  opener : Nat
  deriving DecidableEq

/-- What is sent to the sink of a session for a subscription. -/
inductive SubscriptionFrame
  | acknowledged (id : RequestId) (uris : List Bytes)
  | updated (id : RequestId) (uri : Bytes)
  | ended (id : RequestId)
  deriving DecidableEq

/-- The frame on the wire. -/
def SubscriptionFrame.toJson : SubscriptionFrame → JsonValue
  | .acknowledged id uris =>
    .object [(text "jsonrpc", .literal "2.0"),
      (text "method", .literal "notifications/subscriptions/acknowledged"),
      (text "params", .object
        [(text "notifications", makeSubscriptionFilterJson { resourceUris := uris }),
          (text "_meta", makeSubscriptionIdMeta id)])]
  | .updated id uri =>
    .object [(text "jsonrpc", .literal "2.0"),
      (text "method", .literal "notifications/resources/updated"),
      (text "params", .object [(text "uri", .string uri), (text "_meta", makeSubscriptionIdMeta id)])]
  | .ended id =>
    makeSuccessResponse id
      (.object [(text "resultType", .literal "complete"), (text "_meta", makeSubscriptionIdMeta id)])

/-- A frame that a sink was called with. -/
structure Delivery where
  session : Nat
  token : Nat
  frame : SubscriptionFrame
  /-- The publisher that sent it. -/
  publisher : Option Nat := none
  deriving DecidableEq

/-- Where a call of `HandleFrame` stands. -/
inductive CallPc
  | admit'
  | register
  | dispatch
  /-- `HandleInitialize` before it writes the state of the session. -/
  | initialize' (version : Bytes) (capabilities : JsonValue) (outcome : Outcome)
  /-- Before `EnterCallback`. -/
  | callback (callback : Callback)
  | running (callback : Callback)
  | listenCheck (id : RequestId) (uris : List Bytes)
  | listenAdmit (id : RequestId) (uris : List Bytes)
  /-- The call holds the admission of its subscription. -/
  | listenInsert (id : RequestId) (uris : List Bytes)
  | acknowledge (token : Nat) (id : RequestId) (uris : List Bytes)
  | mark (token : Nat)
  /-- `EndSubscription` for a cancel. -/
  | cancelEnd (id : RequestId)
  | cancelEmit (entry : SubscriptionEntry)
  /-- The entry gives its admission back. -/
  | cancelReturn (id : RequestId)
  | cancelOwners (id : RequestId)
  | cancelFlip (victims : List Nat)
  /-- `Dispatch` has returned. -/
  | settle (outcome : Outcome)
  /-- The server was sealed before the answer went out. -/
  | shut
  | judge (response : JsonValue)
  | retire (outcome : Outcome)
  | release (outcome : Outcome)
  | returned (outcome : Outcome)
  /-- A null owner was dereferenced. -/
  | crashed

/-- What a call has returned. -/
def CallPc.outcome : CallPc → Option Outcome
  | .returned outcome => some outcome
  | _ => none

/-- A call with an outcome has returned it. -/
theorem CallPc.of_outcome {pc : CallPc} {outcome : Outcome} (returned : pc.outcome = some outcome) :
    pc = .returned outcome := by
  unfold CallPc.outcome at returned
  split at returned
  · cases returned
    rfl
  · cases returned

/-- A call of `HandleFrame`. -/
structure Call where
  session : Nat
  raw : Bytes
  pc : CallPc
  /-- `detected_id` and `notification_recognized` of the peek. -/
  detectedId : Option RequestId
  recognized : Bool
  owner : Option Nat := none
  /-- It has put a subscription into the table. -/
  opened : Bool := false
  /-- The registered calls with the id of this cancel, when it looked for their subscription. -/
  seen : List Nat := []

/-- Where a call of `PublishResourceChanged` stands. -/
inductive PublishPc
  | gate | collect
  | deliver (targets : List Delivery) (count : Nat)
  | returned (result : Except Error Nat)

/-- What a publisher has returned. -/
def PublishPc.result : PublishPc → Option (Except Error Nat)
  | .returned result => some result
  | _ => none

/-- A publisher with a result has returned it. -/
theorem PublishPc.of_result {pc : PublishPc} {result : Except Error Nat}
    (returned : pc.result = some result) : pc = .returned result := by
  unfold PublishPc.result at returned
  split at returned
  · cases returned
    rfl
  · cases returned

/-- A call of `PublishResourceChanged`. -/
structure Publish where
  uri : Bytes
  pc : PublishPc := .gate
  /-- The number of deliveries when it was called. -/
  begun : Nat

/-- Where a call of `EndAllSubscriptions` stands. -/
inductive EndPc
  | take
  | emit (entries : List SubscriptionEntry) (taken : Nat)
  | release (entries : Nat)

/-- A call of `EndAllSubscriptions`. It has returned when it has nothing to release. -/
structure EndAll where
  session : Nat
  pc : EndPc := .take

/-- Where a call of `Close` stands. It has returned when it has nothing to release. -/
inductive ClosePc
  | enter
  /-- It holds the mutex of the server, and the table of subscriptions is next. -/
  | swap
  | clear (drained : Nat)
  | release (entries : Nat)
  deriving DecidableEq

/-- `McpServer::Impl` with its sessions and the calls of all threads. -/
structure McpServer where
  started : Bool := false
  closed : Bool := false
  inflight : Nat := 0
  /-- A `Close` holds the mutex. -/
  locked : Bool := false
  owners : List RequestOwner := []
  /-- `m_request_owners`. -/
  requestOwners : List Nat := []
  subscriptions : List SubscriptionEntry := []
  nextToken : Nat := 0
  sessions : List McpSession := []
  calls : List Call := []
  publishes : List Publish := []
  ends : List EndAll := []
  closes : List ClosePc := []
  delivered : List Delivery := []
  /-- A `Close` has emptied the table of subscriptions. -/
  swept : Bool := false

/-- The steps of a server. -/
inductive Label
  | start
  | session (sink : Bool)
  /-- `AdoptLegacyHeaderGate`. -/
  | adopt (session : Nat) (version : Bytes)
  /-- `HandleFrame` up to its peek. -/
  | frame (session : Nat) (raw : Bytes)
  /-- The next step of a frame; `late` says that its deadline has passed. -/
  | act (i : Nat) (late : Bool)
  | reply (i : Nat) (reply : HandlerReply)
  | publish (uri : Bytes)
  | actPublish (j : Nat)
  | endAll (session : Nat)
  | actEnd (j : Nat)
  | close
  | actClose (j : Nat)

/-- `ClosedCoreError`. -/
def closedCoreError : Error := domainError .closed "mcp.server.closed" "server is closed"

/-- The refusal of a server that is not started. -/
def notStartedError : Error :=
  domainError .invalidContext "mcp.server.not_started" "server is not started"

/-- The refusal of a full server. -/
def overloadedError : Error :=
  domainError .overloaded "mcp.server.overloaded" "max in-flight requests reached"

/-- The failure of a request whose id is in flight. -/
def inFlightFailure : ProtocolFailure :=
  failure .invalidRequest "Invalid Request: request id already in flight"

/-- The failure of a request behind its deadline. -/
def deadlineFailure : ProtocolFailure :=
  { failure .internalError "Request deadline exceeded: result discarded" with
    data := some (.object [(text "kind", .literal "deadline_exceeded")]) }

/-- `RequestIdFromJsonValue`. -/
def requestIdFromJsonValue (value : JsonValue) : Option RequestId :=
  match value with
  | .string value => some (.string value)
  | _ =>
    match value.asInt64 with
    | some number => some (.int64 number)
    | none => value.asUInt64.map .uint64

/-- The id that a cancel names. -/
def cancelledId (request : JsonRpcRequest) : Option RequestId :=
  ((request.params.filter JsonValue.isObject).bind (·.find (text "requestId"))).bind
    requestIdFromJsonValue

/-- Where the dispatch goes on. -/
def Dispatched.pc : Dispatched → CallPc
  | .done outcome => .settle outcome
  | .initialize' version capabilities outcome => .initialize' version capabilities outcome
  | .listen id uris => .listenCheck id uris
  | .callback pending => .callback pending

namespace McpServer

variable (boost : Bytes → Nat → Except JsonFault JsonValue) (options : ServerOptions)
  (registry : Registry)

/-- Write to a call. -/
def setCall (s : McpServer) (i : Nat) (call : Call) : McpServer :=
  { s with calls := s.calls.set i call }

/-- The call goes on. -/
def move (s : McpServer) (i : Nat) (call : Call) (pc : CallPc) : McpServer :=
  s.setCall i { call with pc }

/-- `Release`. -/
def release (s : McpServer) : McpServer := { s with inflight := s.inflight - 1 }

/-- `TryFinish` of an owner. -/
def tryFinish (s : McpServer) (owner : Nat) (kind : Terminal) : McpServer :=
  { s with owners := s.owners.modify owner (·.tryFinish kind) }

/-- The terminal state of an owner. -/
def terminalOf (s : McpServer) (owner : Nat) : Terminal :=
  ((s.owners[owner]?).map RequestOwner.terminal).getD .none'

/-- An owner of this session and with this key. -/
def ownedBy (s : McpServer) (session : Nat) (id : RequestId) (owner : Nat) : Bool :=
  (s.owners[owner]?).any fun record => record.requestId.key = id.key && record.session = session

/-- A frame goes to the sink of its session, if it has one. -/
def deliver (s : McpServer) (delivery : Delivery) : McpServer :=
  if (s.sessions[delivery.session]?).any McpSession.sink then
    { s with delivered := s.delivered ++ [delivery] }
  else s

/-- `Admit`. -/
def admission (s : McpServer) (i : Nat) (call : Call) : McpServer :=
  if !s.started then s.move i call (.returned (.error notStartedError))
  else if s.closed then s.move i call (.returned (.error closedCoreError))
  else if options.maxInflightRequests ≤ s.inflight then
    s.move i call (.returned (.error overloadedError))
  else { s.move i call .register with inflight := s.inflight + 1 }

/-- `RegisterRequestOwner`. -/
def registerRequestOwner (s : McpServer) (i : Nat) (call : Call) : McpServer :=
  let id := call.detectedId.getD .default'
  if call.detectedId.isSome && s.requestOwners.any (s.ownedBy call.session id) then
    s.move i call (.release (errorOutcome (some id) inFlightFailure))
  else
    { s.setCall i { call with pc := .dispatch, owner := some s.owners.length } with
      owners := s.owners ++ [{ requestId := id, session := call.session }]
      requestOwners := s.requestOwners ++ [s.owners.length] }

/-- `ApplyNotification`. -/
def applyNotification (s : McpServer) (i : Nat) (call : Call) (request : JsonRpcRequest) :
    McpServer :=
  if request.method = text "notifications/cancelled" then
    match cancelledId request with
    | some id => s.move i call (.cancelEnd id)
    | none => s.move i call (.settle (.ok none))
  else if hasModernEnvelope request.params then s.move i call (.settle (.ok none))
  else if request.method = text "notifications/initialized" then
    { s.move i call (.settle (.ok none)) with
      sessions := s.sessions.modify call.session fun session => { session with initialized := true } }
  else s.move i call (.settle (.ok none))

/-- `Dispatch` up to what it shares. -/
def dispatch (s : McpServer) (i : Nat) (call : Call) : McpServer :=
  let parsed := parseRequestFrame boost call.raw options.limits
  match parsed.outcome with
  | .error error =>
    if parsed.notificationRecognized then s.move i call (.settle (.ok none))
    else s.move i call (.settle (errorOutcome parsed.detectedId (toProtocolFailure error)))
  | .ok request =>
    if request.notification then s.applyNotification i call request
    else if hasModernEnvelope request.params then
      s.move i call (dispatchModern options registry request).pc
    else
      match s.sessions[call.session]? with
      | none => s
      | some session =>
        s.move i call (dispatchLegacy options registry request session.initializeAccepted
          session.clientCapabilities).pc

/-- `HandleInitialize` writes the state of its session. -/
def commitInitialize (s : McpServer) (i : Nat) (call : Call) (version : Bytes)
    (capabilities : JsonValue) (outcome : Outcome) : McpServer :=
  { s.move i call (.settle outcome) with
    sessions := s.sessions.modify call.session fun session =>
      { session with
        initializeAccepted := true
        negotiatedVersion := some version
        clientCapabilities := capabilities } }

/-- `EnterCallback`. -/
def enterCallback (s : McpServer) (i : Nat) (call : Call) (callback : Callback) : McpServer :=
  if s.closed then s.move i call (.settle (.error closedCoreError))
  else s.move i call (.running callback)

/-- The first section of `HandleSubscriptionsListen`. -/
def listenCheck (s : McpServer) (i : Nat) (call : Call) (id : RequestId) (uris : List Bytes) :
    McpServer :=
  if s.subscriptions.any fun entry => entry.listenId = id && entry.session = call.session then
    s.move i call
      (.settle (invalidOutcome id "Invalid params: subscription id already in flight"))
  else s.move i call (.listenAdmit id uris)

/-- `AdmitForSubscription`. -/
def admitForSubscription (s : McpServer) (i : Nat) (call : Call) (id : RequestId)
    (uris : List Bytes) : McpServer :=
  if !s.started then s.move i call (.settle (.error notStartedError))
  else if s.closed then s.move i call (.settle (.error closedCoreError))
  else if options.maxInflightRequests < s.inflight then
    s.move i call (.settle (.error overloadedError))
  else { s.move i call (.listenInsert id uris) with inflight := s.inflight + 1 }

/-- The subscription goes into the table. -/
def insertSubscription (s : McpServer) (i : Nat) (call : Call) (id : RequestId)
    (uris : List Bytes) : McpServer :=
  { s.setCall i { call with pc := .acknowledge s.nextToken id uris, opened := true } with
    nextToken := s.nextToken + 1
    subscriptions := s.subscriptions ++
      [{ token := s.nextToken, listenId := id, session := call.session, resourceUris := uris,
         opener := i }] }

/-- The last section of `HandleSubscriptionsListen`. -/
def markAcknowledged (s : McpServer) (i : Nat) (call : Call) (token : Nat) : McpServer :=
  { s.move i call (.settle (.ok none)) with
    subscriptions := s.subscriptions.map fun entry =>
      if entry.token = token then { entry with ackSent := true } else entry }

/-- The calls that are registered under an id, in a session. -/
def registered (s : McpServer) (session : Nat) (id : RequestId) : List Nat :=
  (List.range s.calls.length).filter fun j =>
    (s.calls[j]?).any fun call =>
      call.owner.isSome && call.session = session && call.detectedId = some id

/-- The section of `EndSubscription`. -/
def endSubscription (s : McpServer) (i : Nat) (call : Call) (id : RequestId) : McpServer :=
  let call := { call with seen := s.registered call.session id }
  match s.subscriptions.find? fun entry => entry.session = call.session && entry.listenId = id with
  | none => s.move i call (.cancelOwners id)
  | some entry =>
    { s.move i call (.cancelEmit entry) with subscriptions := s.subscriptions.erase entry }

/-- The section of `CancelInflightForSession`. -/
def cancelInflight (s : McpServer) (i : Nat) (call : Call) (id : RequestId) : McpServer :=
  { s.move i call (.cancelFlip (s.requestOwners.filter (s.ownedBy call.session id))) with
    requestOwners := s.requestOwners.filter fun owner => !s.ownedBy call.session id owner }

/-- What `HandleFrame` does with the outcome of `Dispatch`. -/
def settle (s : McpServer) (i : Nat) (call : Call) (outcome : Outcome) : Option McpServer :=
  match outcome with
  | .ok (some response) =>
    if s.locked then none
    else if s.closed then some (s.move i call .shut)
    else some (s.move i call (.judge response))
  | _ =>
    match call.owner with
    | none => some (s.move i call (.returned outcome))
    | some owner => some ((s.tryFinish owner .completed).move i call (.retire outcome))

/-- The terminal gate of a response. -/
def judge (s : McpServer) (i : Nat) (call : Call) (response : JsonValue) (late : Bool) :
    McpServer :=
  match call.owner with
  | none => s.move i call (.returned (.ok (some response)))
  | some owner =>
    if s.terminalOf owner = .none' then
      if late then
        (s.tryFinish owner .timedOut).move i call
          (.retire (errorOutcome ((s.owners[owner]?).map RequestOwner.requestId) deadlineFailure))
      else (s.tryFinish owner .completed).move i call (.retire (.ok (some response)))
    else s.move i call (.retire (.ok none))

/-- `RetireOwner`. -/
def retireOwner (s : McpServer) (i : Nat) (call : Call) (outcome : Outcome) : McpServer :=
  { s.move i call (.release outcome) with
    requestOwners := s.requestOwners.filter fun owner => decide (call.owner ≠ some owner) }

/-- The next step of a call. -/
def act (s : McpServer) (i : Nat) (call : Call) (late : Bool) : Option McpServer :=
  match call.pc with
  | .admit' => if s.locked then none else some (s.admission options i call)
  | .register => some (s.registerRequestOwner i call)
  | .dispatch => some (s.dispatch boost options registry i call)
  | .initialize' version capabilities outcome =>
    some (s.commitInitialize i call version capabilities outcome)
  | .callback callback => if s.locked then none else some (s.enterCallback i call callback)
  | .listenCheck id uris => some (s.listenCheck i call id uris)
  | .listenAdmit id uris =>
    if s.locked then none else some (s.admitForSubscription options i call id uris)
  | .listenInsert id uris => some (s.insertSubscription i call id uris)
  | .acknowledge token id uris =>
    some ((s.deliver { session := call.session, token, frame := .acknowledged id uris }).move i call
      (.mark token))
  | .mark token => some (s.markAcknowledged i call token)
  | .cancelEnd id => some (s.endSubscription i call id)
  | .cancelEmit entry =>
    some ((s.deliver { session := entry.session, token := entry.token
                       frame := .ended entry.listenId }).move i call (.cancelReturn entry.listenId))
  | .cancelReturn id =>
    if s.locked then none else some (s.release.move i call (.cancelOwners id))
  | .cancelOwners id => some (s.cancelInflight i call id)
  | .cancelFlip [] => some (s.move i call (.settle (.ok none)))
  | .cancelFlip (victim :: rest) =>
    some ({ s with owners := s.owners.modify victim (·.stop .cancelled) }.move i call
      (.cancelFlip rest))
  | .settle outcome => s.settle i call outcome
  | .shut =>
    match call.owner with
    | none => some (s.move i call .crashed)
    | some owner =>
      some ((s.tryFinish owner .closed).move i call (.retire (.error closedCoreError)))
  | .judge response => some (s.judge i call response late)
  | .retire outcome => some (s.retireOwner i call outcome)
  | .release outcome =>
    if s.locked then none else some (s.release.move i call (.returned outcome))
  | .running _ | .returned _ | .crashed => none

/-- The gate of `PublishResourceChanged`. -/
def publishGate (s : McpServer) (publish : Publish) : PublishPc :=
  if !s.started then .returned (.error notStartedError)
  else if s.closed then .returned (.error closedCoreError)
  else if registry.resources.any fun definition => definition.uri = publish.uri then .collect
  else
    .returned (.error
      (domainError .invalidArgument "mcp.publish.unknown_uri" "resource uri is not registered"))

/-- The events that a publisher collects. -/
def targets (s : McpServer) (j : Nat) (uri : Bytes) : List Delivery :=
  (s.subscriptions.filter fun entry =>
    entry.ackSent && entry.resourceUris.contains uri &&
      (s.sessions[entry.session]?).any McpSession.sink).map fun entry =>
    { session := entry.session, token := entry.token, frame := .updated entry.listenId uri
      publisher := some j }

/-- The next step of a publisher. -/
def actPublish (s : McpServer) (j : Nat) (publish : Publish) : Option McpServer :=
  let goOn := fun (s : McpServer) pc =>
    { s with publishes := s.publishes.set j { publish with pc } }
  match publish.pc with
  | .gate => if s.locked then none else some (goOn s (s.publishGate registry publish))
  | .collect =>
    some (goOn s (.deliver (s.targets j publish.uri) (s.targets j publish.uri).length))
  | .deliver [] count => some (goOn s (.returned (.ok count)))
  | .deliver (target :: rest) count => some (goOn (s.deliver target) (.deliver rest count))
  | .returned _ => none

/-- The next step of an `EndAllSubscriptions`. -/
def actEnd (s : McpServer) (j : Nat) (ending : EndAll) : Option McpServer :=
  let goOn := fun (s : McpServer) pc => { s with ends := s.ends.set j { ending with pc } }
  match ending.pc with
  | .take =>
    let taken := s.subscriptions.filter fun entry => decide (entry.session = ending.session)
    some (goOn
      { s with subscriptions := s.subscriptions.filter fun entry =>
          decide (entry.session ≠ ending.session) }
      (.emit taken taken.length))
  | .emit [] taken => some (goOn s (.release taken))
  | .emit (entry :: rest) taken =>
    some (goOn (s.deliver { session := entry.session, token := entry.token
                            frame := .ended entry.listenId }) (.emit rest taken))
  | .release 0 => none
  | .release (left + 1) => if s.locked then none else some (goOn s.release (.release left))

/-- The next step of a `Close`. -/
def actClose (s : McpServer) (j : Nat) : ClosePc → Option McpServer
  | .enter =>
    if s.locked then none
    else some { s with closed := true, locked := true, closes := s.closes.set j .swap }
  | .swap =>
    some { s with
      subscriptions := [], swept := true
      closes := s.closes.set j (.clear s.subscriptions.length) }
  | .clear drained =>
    some { s with
      owners := s.requestOwners.foldl (fun owners owner => owners.modify owner (·.stop .closed))
        s.owners
      requestOwners := [], locked := false
      closes := s.closes.set j (.release drained) }
  | .release 0 => none
  | .release (left + 1) =>
    if s.locked then none else some { s.release with closes := s.closes.set j (.release left) }

/-- The peek of `HandleFrame`. -/
def newCall (session : Nat) (raw : Bytes) : Call :=
  let parsed := parseRequestFrame boost raw options.limits
  { session, raw, pc := if parsed.notificationRecognized then .dispatch else .admit'
    detectedId := parsed.detectedId, recognized := parsed.notificationRecognized }

/-- The server after a step. -/
def step (s : McpServer) : Label → Option McpServer
  | .start =>
    if s.locked then none else some { s with started := s.started || !s.closed }
  | .session sink => some { s with sessions := s.sessions ++ [{ sink }] }
  | .adopt session version =>
    some { s with
      sessions := s.sessions.modify session fun session =>
        if session.initializeAccepted then session
        else { session with initializeAccepted := true, negotiatedVersion := some version } }
  | .frame session raw =>
    if session < s.sessions.length then
      some { s with calls := s.calls ++ [newCall boost options session raw] }
    else none
  | .act i late => (s.calls[i]?).bind fun call => s.act boost options registry i call late
  | .reply i reply =>
    (s.calls[i]?).bind fun call =>
      match call.pc with
      | .running callback =>
        (finishCallback options registry callback reply).map fun outcome =>
          s.move i call (.settle outcome)
      | _ => none
  | .publish uri =>
    some { s with publishes := s.publishes ++ [{ uri, begun := s.delivered.length }] }
  | .actPublish j => (s.publishes[j]?).bind fun publish => s.actPublish registry j publish
  | .endAll session => some { s with ends := s.ends ++ [{ session }] }
  | .actEnd j => (s.ends[j]?).bind fun ending => s.actEnd j ending
  | .close => some { s with closes := s.closes ++ [.enter] }
  | .actClose j => (s.closes[j]?).bind fun pc => s.actClose j pc

end McpServer

/-- The servers with these options and this registry, under one parser. -/
def mcpMachine (boost : Bytes → Nat → Except JsonFault JsonValue) (options : ServerOptions)
    (registry : Registry) : Machine McpServer Label where
  start s := s = {}
  step := McpServer.step boost options registry

/-- A parser that knows the documents of a table. -/
def tableParser (documents : List (Bytes × JsonValue)) (raw : Bytes) (_depth : Nat) :
    Except JsonFault JsonValue :=
  match documents.lookup raw with
  | some value => .ok value
  | none => .error .syntax'

/-- A `ping` with the id `x`. -/
def pingFrame : Bytes :=
  text "\x7b\"jsonrpc\":\"2.0\",\"id\":\"x\",\"method\":\"ping\"\x7d"

/-- A `ping` with the id `y`. -/
def otherPingFrame : Bytes :=
  text "\x7b\"jsonrpc\":\"2.0\",\"id\":\"y\",\"method\":\"ping\"\x7d"

/-- A `subscriptions/listen` with the id `x` for the uri `r`. -/
def listenFrame : Bytes :=
  text ("\x7b\"jsonrpc\":\"2.0\",\"id\":\"x\",\"method\":\"subscriptions/listen\"," ++
    "\"params\":\x7b\"_meta\":\x7b\"io.modelcontextprotocol/protocolVersion\":\"2026-07-28\"," ++
    "\"io.modelcontextprotocol/clientCapabilities\":\x7b\x7d\x7d," ++
    "\"notifications\":\x7b\"resourceSubscriptions\":[\"r\"]\x7d\x7d\x7d")

/-- A `notifications/cancelled` for the id `x`. -/
def cancelFrame : Bytes :=
  text ("\x7b\"jsonrpc\":\"2.0\",\"method\":\"notifications/cancelled\"," ++
    "\"params\":\x7b\"requestId\":\"x\"\x7d\x7d")

/-- The documents of these frames. -/
def frameDocuments : List (Bytes × JsonValue) :=
  [(pingFrame, .object [(text "jsonrpc", .literal "2.0"), (text "id", .literal "x"),
      (text "method", .literal "ping")]),
    (listenFrame, .object [(text "jsonrpc", .literal "2.0"), (text "id", .literal "x"),
      (text "method", .literal "subscriptions/listen"),
      (text "params", .object
        [(text "_meta", .object [(metaKeyProtocolVersion, .string protocolVersion2026),
            (metaKeyClientCapabilities, .empty)]),
          (text "notifications", .object
            [(text "resourceSubscriptions", .array [.literal "r"])])])]),
    (cancelFrame, .object [(text "jsonrpc", .literal "2.0"),
      (text "method", .literal "notifications/cancelled"),
      (text "params", .object [(text "requestId", .literal "x")])]),
    (otherPingFrame, .object [(text "jsonrpc", .literal "2.0"), (text "id", .literal "y"),
      (text "method", .literal "ping")])]

/-- A server with the resource `r` that is given these frames. -/
def sampleMachine : Machine McpServer Label :=
  mcpMachine (tableParser frameDocuments) {}
    { resources := [{ uri := text "r", name := text "r" }] }

/-- A session opens and listens, and the call takes some steps. -/
def listenSteps (n : Nat) : List Label :=
  [.start, .session true, .frame 0 listenFrame] ++ List.replicate n (.act 0 false)

end BbtInfra.Mcp
