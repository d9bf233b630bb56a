import BbtInfra.Mcp.Answers

/-!
# The steps of a call, said once

A step of a call either moves its own place only, or it is one of the sections that it shares with
other threads. The inversion of `act` says which, with everything that the step checks.
-/
namespace BbtInfra.Mcp

open Lib List

namespace McpServer

/-- Where `Dispatch` leads a call that changes nothing but its place. -/
inductive Dispatches (boost : Bytes → Nat → Except JsonFault JsonValue) (options : ServerOptions)
    (registry : Registry) (s : McpServer) (call : Call) : CallPc → Prop
  /-- A notification whose parameters have no shape. -/
  | dropped :
    (parseRequestFrame boost call.raw options.limits).notificationRecognized = true →
      Dispatches boost options registry s call (.settle (.ok none))
  | malformed (error : Error) :
    (parseRequestFrame boost call.raw options.limits).notificationRecognized = false →
      Dispatches boost options registry s call
        (.settle (errorOutcome (parseRequestFrame boost call.raw options.limits).detectedId
          (toProtocolFailure error)))
  | applied (request : JsonRpcRequest) :
    (parseRequestFrame boost call.raw options.limits).outcome = .ok request →
      request.notification = true → Dispatches boost options registry s call (.settle (.ok none))
  | cancels (request : JsonRpcRequest) (id : RequestId) :
    (parseRequestFrame boost call.raw options.limits).outcome = .ok request →
      request.notification = true → Dispatches boost options registry s call (.cancelEnd id)
  | asked (request : JsonRpcRequest) (dispatched : Dispatched) :
    (parseRequestFrame boost call.raw options.limits).outcome = .ok request →
      request.notification = false →
      (dispatched = dispatchModern options registry request ∨
        ∃ accepted capabilities,
          dispatched = dispatchLegacy options registry request accepted capabilities) →
      Dispatches boost options registry s call dispatched.pc

/-- The moves of a call that no other thread sees. -/
inductive Moves (boost : Bytes → Nat → Except JsonFault JsonValue) (options : ServerOptions)
    (registry : Registry) (s : McpServer) (call : Call) : CallPc → CallPc → Prop
  | refused (error : Error) : Moves boost options registry s call .admit' (.returned (.error error))
  | duplicate (id : RequestId) : call.detectedId = some id →
    Moves boost options registry s call .register
      (.release (errorOutcome (some id) inFlightFailure))
  | dispatched (pc : CallPc) : Dispatches boost options registry s call pc →
    Moves boost options registry s call .dispatch pc
  | barred (pending : Callback) :
    Moves boost options registry s call (.callback pending) (.settle (.error closedCoreError))
  | entered (pending : Callback) :
    Moves boost options registry s call (.callback pending) (.running pending)
  | replied (pending : Callback) (reply : HandlerReply) (outcome : Outcome) :
    finishCallback options registry pending reply = some outcome →
      Moves boost options registry s call (.running pending) (.settle outcome)
  | taken (id : RequestId) (uris : List Bytes) :
    Moves boost options registry s call (.listenCheck id uris)
      (.settle (invalidOutcome id "Invalid params: subscription id already in flight"))
  | free (id : RequestId) (uris : List Bytes) :
    (∀ entry ∈ s.subscriptions, ¬(entry.listenId = id ∧ entry.session = call.session)) →
      Moves boost options registry s call (.listenCheck id uris) (.listenAdmit id uris)
  | excluded (id : RequestId) (uris : List Bytes) (error : Error) :
    Moves boost options registry s call (.listenAdmit id uris) (.settle (.error error))
  | flipped : Moves boost options registry s call (.cancelFlip []) (.settle (.ok none))
  | sealed' (response : JsonValue) : s.closed = true →
    Moves boost options registry s call (.settle (.ok (some response))) .shut
  | passed (response : JsonValue) : s.closed = false →
    Moves boost options registry s call (.settle (.ok (some response))) (.judge response)
  | ownerless (outcome : Outcome) : call.owner = none → (∀ response, outcome ≠ .ok (some response)) →
    Moves boost options registry s call (.settle outcome) (.returned outcome)
  | bare (response : JsonValue) : call.owner = none →
    Moves boost options registry s call (.judge response) (.returned (.ok (some response)))
  | silenced (response : JsonValue) (owner : Nat) : call.owner = some owner →
    s.terminalOf owner ≠ .none' →
    Moves boost options registry s call (.judge response) (.retire (.ok none))
  | crashed : call.owner = none → Moves boost options registry s call .shut .crashed

/-- The steps of a call, with what each of them does to the server. -/
inductive Acts (boost : Bytes → Nat → Except JsonFault JsonValue) (options : ServerOptions)
    (registry : Registry) (s : McpServer) (i : Nat) (call : Call) (late : Bool) :
    CallPc → McpServer → Prop
  | moved (before pc : CallPc) : Moves boost options registry s call before pc →
    Acts boost options registry s i call late before (s.move i call pc)
  | admitted : s.locked = false → s.started = true → s.closed = false →
    s.inflight < options.maxInflightRequests →
    Acts boost options registry s i call late .admit'
      { s.move i call .register with inflight := s.inflight + 1 }
  | registered :
    (∀ id, call.detectedId = some id →
      ∀ owner ∈ s.requestOwners, s.ownedBy call.session id owner = false) →
    Acts boost options registry s i call late .register
      { s.setCall i { call with pc := .dispatch, owner := some s.owners.length } with
        owners := s.owners ++
          [{ requestId := call.detectedId.getD .default', session := call.session }]
        requestOwners := s.requestOwners ++ [s.owners.length] }
  /-- The state of the session is written, by a request or by a notification. -/
  | stated (before : CallPc) (outcome : Outcome) (sessions : List McpSession) :
    ((before = .dispatch ∧ outcome = .ok none ∧
        ∃ request, (parseRequestFrame boost call.raw options.limits).outcome = .ok request ∧
          request.notification = true) ∨
      ∃ version capabilities, before = .initialize' version capabilities outcome) →
    sessions.map McpSession.sink = s.sessions.map McpSession.sink →
    Acts boost options registry s i call late before
      { s.move i call (.settle outcome) with sessions }
  | reserved (id : RequestId) (uris : List Bytes) : s.locked = false → s.started = true →
    s.closed = false → s.inflight ≤ options.maxInflightRequests →
    Acts boost options registry s i call late (.listenAdmit id uris)
      { s.move i call (.listenInsert id uris) with inflight := s.inflight + 1 }
  | inserted (id : RequestId) (uris : List Bytes) :
    Acts boost options registry s i call late (.listenInsert id uris)
      (s.insertSubscription i call id uris)
  | acknowledged (token : Nat) (id : RequestId) (uris : List Bytes) :
    Acts boost options registry s i call late (.acknowledge token id uris)
      ((s.deliver { session := call.session, token, frame := .acknowledged id uris }).move i call
        (.mark token))
  | marked (token : Nat) :
    Acts boost options registry s i call late (.mark token) (s.markAcknowledged i call token)
  | looked (id : RequestId) :
    (∀ entry ∈ s.subscriptions, ¬(entry.session = call.session ∧ entry.listenId = id)) →
    Acts boost options registry s i call late (.cancelEnd id)
      (s.move i { call with seen := s.registered call.session id } (.cancelOwners id))
  | ended (id : RequestId) (entry : SubscriptionEntry) : entry ∈ s.subscriptions →
    entry.session = call.session → entry.listenId = id →
    Acts boost options registry s i call late (.cancelEnd id)
      { s.move i { call with seen := s.registered call.session id } (.cancelEmit entry) with
        subscriptions := s.subscriptions.erase entry }
  | announced (entry : SubscriptionEntry) :
    Acts boost options registry s i call late (.cancelEmit entry)
      ((s.deliver { session := entry.session, token := entry.token
                    frame := .ended entry.listenId }).move i call (.cancelReturn entry.listenId))
  | givenBack (id : RequestId) : s.locked = false →
    Acts boost options registry s i call late (.cancelReturn id)
      (s.release.move i call (.cancelOwners id))
  | erased (id : RequestId) :
    Acts boost options registry s i call late (.cancelOwners id) (s.cancelInflight i call id)
  | flips (victim : Nat) (rest : List Nat) :
    Acts boost options registry s i call late (.cancelFlip (victim :: rest))
      ({ s with owners := s.owners.modify victim (·.stop .cancelled) }.move i call
        (.cancelFlip rest))
  | completed (outcome : Outcome) (owner : Nat) : call.owner = some owner →
    (∀ response, outcome ≠ .ok (some response)) →
    Acts boost options registry s i call late (.settle outcome)
      ((s.tryFinish owner .completed).move i call (.retire outcome))
  | closes (owner : Nat) : call.owner = some owner →
    Acts boost options registry s i call late .shut
      ((s.tryFinish owner .closed).move i call (.retire (.error closedCoreError)))
  | expired (response : JsonValue) (owner : Nat) : call.owner = some owner →
    s.terminalOf owner = .none' → late = true →
    Acts boost options registry s i call late (.judge response)
      ((s.tryFinish owner .timedOut).move i call
        (.retire (errorOutcome ((s.owners[owner]?).map RequestOwner.requestId) deadlineFailure)))
  | answered (response : JsonValue) (owner : Nat) : call.owner = some owner →
    s.terminalOf owner = .none' →
    Acts boost options registry s i call late (.judge response)
      ((s.tryFinish owner .completed).move i call (.retire (.ok (some response))))
  | retired (outcome : Outcome) :
    Acts boost options registry s i call late (.retire outcome) (s.retireOwner i call outcome)
  | left (outcome : Outcome) : s.locked = false →
    Acts boost options registry s i call late (.release outcome)
      (s.release.move i call (.returned outcome))

variable {boost : Bytes → Nat → Except JsonFault JsonValue} {options : ServerOptions}
  {registry : Registry} {s s' : McpServer} {i : Nat} {call : Call} {late : Bool}

/-- A move of its own. -/
theorem acts_move {before pc : CallPc} (moves : Moves boost options registry s call before pc) :
    Acts boost options registry s i call late before (s.move i call pc) := .moved before pc moves

/-- `Admit` as a step. -/
theorem admission_acts (unlocked : s.locked = false) :
    Acts boost options registry s i call late .admit' (s.admission options i call) := by
  unfold admission
  split
  · exact acts_move (.refused _)
  next started =>
    split
    · exact acts_move (.refused _)
    next unsealed =>
      split
      · exact acts_move (.refused _)
      next room =>
        exact .admitted unlocked (by simpa using started) (by simpa using unsealed) (by omega)

/-- `RegisterRequestOwner` as a step. -/
theorem registerRequestOwner_acts :
    Acts boost options registry s i call late .register (s.registerRequestOwner i call) := by
  unfold registerRequestOwner
  dsimp only
  split
  next found =>
    obtain ⟨named, _⟩ := Bool.and_eq_true_iff.mp found
    obtain ⟨id, detected⟩ := Option.isSome_iff_exists.mp named
    rw [detected]
    exact acts_move (.duplicate id detected)
  next free =>
    apply Acts.registered
    intro id detected owner member
    rw [detected] at free
    simp only [Option.isSome_some, Option.getD_some, Bool.true_and, any_eq_true, not_exists,
      not_and, Bool.not_eq_true] at free
    exact free owner member

/-- Writing the state of a session leaves the sinks. -/
theorem map_sink_modify (sessions : List McpSession) (index : Nat) (f : McpSession → McpSession)
    (same : ∀ session, (f session).sink = session.sink) :
    (sessions.modify index f).map McpSession.sink = sessions.map McpSession.sink := by
  apply ext_getElem?
  intro other
  rw [getElem?_map, getElem?_map, getElem?_modify]
  cases sessions[other]? with
  | none => rfl
  | some session =>
    by_cases here : index = other
    · simp only [if_pos here, Option.map_eq_map, Option.map_some, same]
    · simp only [if_neg here, Option.map_eq_map, Option.map_some]

/-- `ApplyNotification` as a step. -/
theorem applyNotification_acts {request : JsonRpcRequest}
    (parsed : (parseRequestFrame boost call.raw options.limits).outcome = .ok request)
    (notice : request.notification = true) :
    Acts boost options registry s i call late .dispatch (s.applyNotification i call request) := by
  unfold applyNotification
  split
  · split
    · exact acts_move (.dispatched _ (.cancels request _ parsed notice))
    · exact acts_move (.dispatched _ (.applied request parsed notice))
  · split
    · exact acts_move (.dispatched _ (.applied request parsed notice))
    · split
      · apply Acts.stated
        · exact .inl ⟨rfl, rfl, request, parsed, notice⟩
        · exact map_sink_modify _ _ _ fun _ => rfl
      · exact acts_move (.dispatched _ (.applied request parsed notice))

/-- `Dispatch` as a step, of a call in a session. -/
theorem dispatch_acts (known : call.session < s.sessions.length) :
    Acts boost options registry s i call late .dispatch
      (s.dispatch boost options registry i call) := by
  unfold dispatch
  dsimp only
  split
  · split
    next recognized => exact acts_move (.dispatched _ (.dropped recognized))
    next unrecognized =>
      exact acts_move (.dispatched _ (.malformed _ (by simpa using unrecognized)))
  next request parsed =>
    split
    next notice => exact applyNotification_acts parsed notice
    next request' =>
      have asked : request.notification = false := by simpa using request'
      split
      · exact acts_move (.dispatched _ (.asked request _ parsed asked (.inl rfl)))
      · split
        next absent =>
          have present := getElem?_eq_none_iff.mp absent
          omega
        · exact acts_move (.dispatched _ (.asked request _ parsed asked (.inr ⟨_, _, rfl⟩)))

/-- The first section of `HandleSubscriptionsListen` as a step. -/
theorem listenCheck_acts (id : RequestId) (uris : List Bytes) :
    Acts boost options registry s i call late (.listenCheck id uris)
      (s.listenCheck i call id uris) := by
  unfold listenCheck
  split
  · exact acts_move (.taken id uris)
  next free =>
    apply acts_move
    apply Moves.free
    intro entry member same
    apply free
    exact any_eq_true.mpr ⟨entry, member, by simpa using same⟩

/-- `AdmitForSubscription` as a step. -/
theorem admitForSubscription_acts (unlocked : s.locked = false) (id : RequestId)
    (uris : List Bytes) :
    Acts boost options registry s i call late (.listenAdmit id uris)
      (s.admitForSubscription options i call id uris) := by
  unfold admitForSubscription
  split
  · exact acts_move (.excluded id uris _)
  next started =>
    split
    · exact acts_move (.excluded id uris _)
    next unsealed =>
      split
      · exact acts_move (.excluded id uris _)
      next room =>
        exact .reserved id uris unlocked (by simpa using started) (by simpa using unsealed)
          (by omega)

/-- `EndSubscription` as a step. -/
theorem endSubscription_acts (id : RequestId) :
    Acts boost options registry s i call late (.cancelEnd id) (s.endSubscription i call id) := by
  unfold endSubscription
  dsimp only
  split
  next absent =>
    apply Acts.looked
    intro entry member same
    have differs := find?_eq_none.mp absent entry member
    apply differs
    simpa using same
  next entry found =>
    have member := mem_of_find?_eq_some found
    have same := find?_some found
    simp only [Bool.and_eq_true, decide_eq_true_eq] at same
    exact .ended id entry member same.1 same.2

/-- What follows on `Dispatch` as a step. -/
theorem settle_acts {outcome : Outcome} (stepped : s.settle i call outcome = some s') :
    Acts boost options registry s i call late (.settle outcome) s' := by
  unfold settle at stepped
  split at stepped
  next response =>
    split at stepped
    · cases stepped
    · split at stepped
      next closed => cases stepped; exact acts_move (.sealed' response closed)
      next unsealed => cases stepped; exact acts_move (.passed response (by simpa using unsealed))
  next other =>
    have silent (response : JsonValue) : outcome ≠ .ok (some response) :=
      fun same => other response same
    split at stepped
    next ownerless =>
      cases stepped
      exact acts_move (.ownerless outcome ownerless silent)
    next owner owned =>
      cases stepped
      exact .completed outcome owner owned silent

/-- The terminal gate as a step. -/
theorem judge_acts (response : JsonValue) :
    Acts boost options registry s i call late (.judge response) (s.judge i call response late) := by
  unfold judge
  split
  next ownerless => exact acts_move (.bare response ownerless)
  next owner owned =>
    split
    next running =>
      split
      next passed => exact .expired response owner owned running passed
      · exact .answered response owner owned running
    next ended => exact acts_move (.silenced response owner owned ended)

/-- Every step of a call is one of the list. -/
theorem act_acts (known : call.session < s.sessions.length)
    (stepped : s.act boost options registry i call late = some s') :
    Acts boost options registry s i call late call.pc s' := by
  unfold act at stepped
  generalize call.pc = pc at stepped ⊢
  split at stepped
  · split at stepped
    · cases stepped
    next unlocked => cases stepped; exact admission_acts (by simpa using unlocked)
  · cases stepped
    exact registerRequestOwner_acts
  · cases stepped
    exact dispatch_acts known
  · cases stepped
    apply Acts.stated
    · exact .inr ⟨_, _, rfl⟩
    · exact map_sink_modify _ _ _ fun _ => rfl
  · split at stepped <;> cases stepped
    unfold enterCallback
    split
    · exact acts_move (.barred _)
    · exact acts_move (.entered _)
  · cases stepped
    exact listenCheck_acts _ _
  · split at stepped
    · cases stepped
    next unlocked => cases stepped; exact admitForSubscription_acts (by simpa using unlocked) _ _
  · cases stepped
    exact .inserted _ _
  · cases stepped
    exact .acknowledged _ _ _
  · cases stepped
    exact .marked _
  · cases stepped
    exact endSubscription_acts _
  · cases stepped
    exact .announced _
  · split at stepped
    · cases stepped
    next unlocked => cases stepped; exact .givenBack _ (by simpa using unlocked)
  · cases stepped
    exact .erased _
  · cases stepped
    exact acts_move .flipped
  · cases stepped
    exact .flips _ _
  · exact settle_acts stepped
  · split at stepped
    next ownerless => cases stepped; exact acts_move (.crashed ownerless)
    next owner owned => cases stepped; exact .closes owner owned
  · cases stepped
    exact judge_acts _
  · cases stepped
    exact .retired _
  · split at stepped
    · cases stepped
    next unlocked => cases stepped; exact .left _ (by simpa using unlocked)
  · cases stepped
  · cases stepped
  · cases stepped

/-- The steps of a server, with what each of them does to it. -/
inductive Steps (boost : Bytes → Nat → Except JsonFault JsonValue) (options : ServerOptions)
    (registry : Registry) (s : McpServer) : Label → McpServer → Prop
  | acted (i : Nat) (call : Call) (late : Bool) (label : Label) (next : McpServer) :
    s.calls[i]? = some call →
    (label = .act i late ∨ (late = false ∧ ∃ reply, label = .reply i reply)) →
    Acts boost options registry s i call late call.pc next →
    Steps boost options registry s label next
  | begun (session : Nat) (raw : Bytes) : session < s.sessions.length →
    Steps boost options registry s (.frame session raw)
      { s with calls := s.calls ++ [newCall boost options session raw] }
  | started : s.locked = false →
    Steps boost options registry s .start { s with started := s.started || !s.closed }
  | joined (sink : Bool) :
    Steps boost options registry s (.session sink) { s with sessions := s.sessions ++ [{ sink }] }
  | adopted (session : Nat) (version : Bytes) (sessions : List McpSession) :
    sessions.map McpSession.sink = s.sessions.map McpSession.sink →
    Steps boost options registry s (.adopt session version) { s with sessions }
  | publishes (uri : Bytes) :
    Steps boost options registry s (.publish uri)
      { s with publishes := s.publishes ++ [{ uri, begun := s.delivered.length }] }
  | barred (j : Nat) (publish : Publish) (error : Error) : s.publishes[j]? = some publish →
    publish.pc = .gate → s.locked = false →
    (s.started = false ∨ s.closed = true ∨
      ∀ definition ∈ registry.resources, definition.uri ≠ publish.uri) →
    Steps boost options registry s (.actPublish j)
      { s with publishes := s.publishes.set j { publish with pc := .returned (.error error) } }
  | passed (j : Nat) (publish : Publish) : s.publishes[j]? = some publish → publish.pc = .gate →
    Steps boost options registry s (.actPublish j)
      { s with publishes := s.publishes.set j { publish with pc := .collect } }
  | collected (j : Nat) (publish : Publish) : s.publishes[j]? = some publish →
    publish.pc = .collect →
    Steps boost options registry s (.actPublish j)
      { s with
        publishes := s.publishes.set j
          { publish with
            pc := .deliver (s.targets j publish.uri) (s.targets j publish.uri).length } }
  | counted (j : Nat) (publish : Publish) (count : Nat) : s.publishes[j]? = some publish →
    publish.pc = .deliver [] count →
    Steps boost options registry s (.actPublish j)
      { s with publishes := s.publishes.set j { publish with pc := .returned (.ok count) } }
  | sent (j : Nat) (publish : Publish) (target : Delivery) (rest : List Delivery) (count : Nat) :
    s.publishes[j]? = some publish → publish.pc = .deliver (target :: rest) count →
    Steps boost options registry s (.actPublish j)
      { s.deliver target with
        publishes := s.publishes.set j { publish with pc := .deliver rest count } }
  | ends (session : Nat) :
    Steps boost options registry s (.endAll session) { s with ends := s.ends ++ [{ session }] }
  | took (j : Nat) (ending : EndAll) : s.ends[j]? = some ending → ending.pc = .take →
    Steps boost options registry s (.actEnd j)
      { s with
        subscriptions := s.subscriptions.filter fun entry =>
          decide (entry.session ≠ ending.session)
        ends := s.ends.set j
          { ending with
            pc := .emit
              (s.subscriptions.filter fun entry => decide (entry.session = ending.session))
              (s.subscriptions.filter fun entry =>
                decide (entry.session = ending.session)).length } }
  | spent (j : Nat) (ending : EndAll) (taken : Nat) : s.ends[j]? = some ending →
    ending.pc = .emit [] taken →
    Steps boost options registry s (.actEnd j)
      { s with ends := s.ends.set j { ending with pc := .release taken } }
  | emitted (j : Nat) (ending : EndAll) (entry : SubscriptionEntry)
    (rest : List SubscriptionEntry) (taken : Nat) : s.ends[j]? = some ending →
    ending.pc = .emit (entry :: rest) taken →
    Steps boost options registry s (.actEnd j)
      { s.deliver { session := entry.session, token := entry.token
                    frame := .ended entry.listenId } with
        ends := s.ends.set j { ending with pc := .emit rest taken } }
  | gaveBack (j : Nat) (ending : EndAll) (left : Nat) : s.ends[j]? = some ending →
    ending.pc = .release (left + 1) → s.locked = false →
    Steps boost options registry s (.actEnd j)
      { s.release with ends := s.ends.set j { ending with pc := .release left } }
  | closing : Steps boost options registry s .close { s with closes := s.closes ++ [.enter] }
  | sealed' (j : Nat) : s.closes[j]? = some .enter → s.locked = false →
    Steps boost options registry s (.actClose j)
      { s with closed := true, locked := true, closes := s.closes.set j .swap }
  | swept (j : Nat) : s.closes[j]? = some .swap →
    Steps boost options registry s (.actClose j)
      { s with
        subscriptions := [], swept := true
        closes := s.closes.set j (.clear s.subscriptions.length) }
  | cleared (j drained : Nat) : s.closes[j]? = some (.clear drained) →
    Steps boost options registry s (.actClose j)
      { s with
        owners := s.requestOwners.foldl (fun owners owner => owners.modify owner (·.stop .closed))
          s.owners
        requestOwners := [], locked := false
        closes := s.closes.set j (.release drained) }
  | drained (j left : Nat) : s.closes[j]? = some (.release (left + 1)) → s.locked = false →
    Steps boost options registry s (.actClose j)
      { s.release with closes := s.closes.set j (.release left) }

/-- A step of a publisher. -/
theorem actPublish_steps {j : Nat} {publish : Publish} (found : s.publishes[j]? = some publish)
    (stepped : s.actPublish registry j publish = some s') :
    Steps boost options registry s (.actPublish j) s' := by
  unfold actPublish at stepped
  dsimp only at stepped
  split at stepped
  next gate =>
    split at stepped
    · cases stepped
    next unlocked =>
      have free : s.locked = false := by simpa using unlocked
      cases stepped
      unfold publishGate
      split
      next absent => exact .barred j publish _ found gate free (.inl (by simpa using absent))
      · split
        next closed => exact .barred j publish _ found gate free (.inr (.inl closed))
        · split
          · exact .passed j publish found gate
          next unknown =>
            apply Steps.barred j publish _ found gate free
            right
            right
            intro definition member same
            apply unknown
            exact any_eq_true.mpr ⟨definition, member, by simpa using same⟩
  next place =>
    cases stepped
    exact .collected j publish found place
  next count place =>
    cases stepped
    exact .counted j publish count found place
  next target rest count place =>
    cases stepped
    have same : (s.deliver target).publishes = s.publishes := by
      unfold deliver
      split <;> rfl
    rw [same]
    exact .sent j publish target rest count found place
  · cases stepped

/-- A step of an `EndAllSubscriptions`. -/
theorem actEnd_steps {j : Nat} {ending : EndAll} (found : s.ends[j]? = some ending)
    (stepped : s.actEnd j ending = some s') :
    Steps boost options registry s (.actEnd j) s' := by
  unfold actEnd at stepped
  dsimp only at stepped
  split at stepped
  next place =>
    cases stepped
    exact .took j ending found place
  next taken place =>
    cases stepped
    exact .spent j ending taken found place
  next entry rest taken place =>
    cases stepped
    have same : (s.deliver { session := entry.session, token := entry.token
                             frame := .ended entry.listenId }).ends = s.ends := by
      unfold deliver
      split <;> rfl
    rw [same]
    exact .emitted j ending entry rest taken found place
  · cases stepped
  next left place =>
    split at stepped
    · cases stepped
    next unlocked =>
      cases stepped
      exact .gaveBack j ending left found place (by simpa using unlocked)

/-- A step of a `Close`. -/
theorem actClose_steps {j : Nat} {pc : ClosePc} (found : s.closes[j]? = some pc)
    (stepped : s.actClose j pc = some s') :
    Steps boost options registry s (.actClose j) s' := by
  unfold actClose at stepped
  split at stepped
  · split at stepped
    · cases stepped
    next unlocked =>
      cases stepped
      exact .sealed' j found (by simpa using unlocked)
  · cases stepped
    exact .swept j found
  · cases stepped
    exact .cleared j _ found
  · cases stepped
  · split at stepped
    · cases stepped
    next unlocked =>
      cases stepped
      exact .drained j _ found (by simpa using unlocked)

/-- Every step of a server whose calls are in sessions is one of the list. -/
theorem step_steps {label : Label}
    (inside : ∀ (i : Nat) (call : Call), s.calls[i]? = some call →
      call.session < s.sessions.length)
    (stepped : step boost options registry s label = some s') :
    Steps boost options registry s label s' := by
  cases label with
  | start =>
    simp only [step] at stepped
    split at stepped
    · cases stepped
    next unlocked =>
      cases stepped
      exact .started (by simpa using unlocked)
  | session sink =>
    cases stepped
    exact .joined sink
  | adopt session version =>
    cases stepped
    apply Steps.adopted
    apply map_sink_modify
    intro session
    split <;> rfl
  | frame session raw =>
    simp only [step] at stepped
    split at stepped
    next known =>
      cases stepped
      exact .begun session raw known
    · cases stepped
  | act i late =>
    obtain ⟨call, found, acted⟩ := Option.bind_eq_some_iff.mp stepped
    exact .acted i call late _ s' found (.inl rfl) (act_acts (inside i call found) acted)
  | reply i reply =>
    obtain ⟨call, found, acted⟩ := Option.bind_eq_some_iff.mp stepped
    split at acted
    next pending place =>
      obtain ⟨outcome, finished, rfl⟩ := Option.map_eq_some_iff.mp acted
      apply Steps.acted i call false _ _ found (.inr ⟨rfl, reply, rfl⟩)
      rw [place]
      exact acts_move (.replied pending reply outcome finished)
    · cases acted
  | publish uri =>
    cases stepped
    exact .publishes uri
  | actPublish j =>
    obtain ⟨publish, found, acted⟩ := Option.bind_eq_some_iff.mp stepped
    exact actPublish_steps found acted
  | endAll session =>
    cases stepped
    exact .ends session
  | actEnd j =>
    obtain ⟨ending, found, acted⟩ := Option.bind_eq_some_iff.mp stepped
    exact actEnd_steps found acted
  | close =>
    cases stepped
    exact .closing
  | actClose j =>
    obtain ⟨pc, found, acted⟩ := Option.bind_eq_some_iff.mp stepped
    exact actClose_steps found acted

section Frames

section

variable (delivery : Delivery)

/-- A delivery changes what was delivered and nothing else. -/
@[simp] theorem deliver_calls : (s.deliver delivery).calls = s.calls := by
  unfold deliver
  split <;> rfl

/-- A delivery leaves the sessions alone. -/
@[simp] theorem deliver_sessions : (s.deliver delivery).sessions = s.sessions := by
  unfold deliver
  split <;> rfl

/-- It leaves the slots in use. -/
@[simp] theorem deliver_inflight : (s.deliver delivery).inflight = s.inflight := by
  unfold deliver
  split <;> rfl

/-- It leaves the subscriptions. -/
@[simp] theorem deliver_subscriptions : (s.deliver delivery).subscriptions = s.subscriptions := by
  unfold deliver
  split <;> rfl

/-- It leaves the ends. -/
@[simp] theorem deliver_ends : (s.deliver delivery).ends = s.ends := by
  unfold deliver
  split <;> rfl

/-- It leaves the closes. -/
@[simp] theorem deliver_closes : (s.deliver delivery).closes = s.closes := by
  unfold deliver
  split <;> rfl

/-- It leaves the swept sessions. -/
@[simp] theorem deliver_swept : (s.deliver delivery).swept = s.swept := by
  unfold deliver
  split <;> rfl

/-- It leaves the publishes. -/
@[simp] theorem deliver_publishes : (s.deliver delivery).publishes = s.publishes := by
  unfold deliver
  split <;> rfl

/-- It leaves the owners. -/
@[simp] theorem deliver_owners : (s.deliver delivery).owners = s.owners := by
  unfold deliver
  split <;> rfl

/-- It leaves the owners of requests. -/
@[simp] theorem deliver_requestOwners : (s.deliver delivery).requestOwners = s.requestOwners := by
  unfold deliver
  split <;> rfl

end

section

variable {before : CallPc} (acts : Acts boost options registry s i call late before s')

include acts

/-- A step of a call rewrites the call and leaves its frame. -/
theorem Acts.frame : ∃ call', s'.calls = s.calls.set i call' ∧ call'.session = call.session ∧
      call'.raw = call.raw ∧ call'.detectedId = call.detectedId ∧
      call'.recognized = call.recognized := by
  cases acts with
  | acknowledged | announced =>
    exact ⟨_, congrArg (set · i _) (deliver_calls _), rfl, rfl, rfl, rfl⟩
  | _ => exact ⟨_, rfl, rfl, rfl, rfl, rfl⟩

/-- A step of a call is none of a publisher. -/
theorem Acts.publishes : s'.publishes = s.publishes := by
  cases acts with
  | acknowledged | announced => exact deliver_publishes _
  | _ => rfl

/-- The sessions of a step of a call are those before it. -/
theorem Acts.sessions_length : s'.sessions.length = s.sessions.length := by
  cases acts with
  | stated before outcome sessions origin sinks =>
    have lengths := congrArg length sinks
    rwa [length_map, length_map] at lengths
  | acknowledged | announced => exact congrArg length (deliver_sessions _)
  | _ => rfl

end

/-- The sessions only become more. -/
theorem Steps.sessions_length {label : Label}
    (steps : Steps boost options registry s label s') :
    s.sessions.length ≤ s'.sessions.length := by
  cases steps with
  | acted i call late label next found origin acts => exact Nat.le_of_eq acts.sessions_length.symm
  | joined sink =>
    rw [length_append]
    exact Nat.le_add_right _ _
  | adopted session version sessions sinks =>
    have lengths := congrArg length sinks
    rw [length_map, length_map] at lengths
    exact Nat.le_of_eq lengths.symm
  | sent | emitted => exact Nat.le_of_eq (congrArg length (deliver_sessions _).symm)
  | _ => exact Nat.le_refl _

end Frames

end McpServer

end BbtInfra.Mcp
