import BbtInfra.Rpc.Request

/-!
# The answer to an inbound request

What `AdmitInbound` keeps of an inbound frame to answer it, and the frames that `Complete`,
`Fail` and `PostReplyErrorNoWait` build from it. An error frame breaks no rule but those of
its error branch, so whether it can be sent depends on the error and on its size alone.
-/
namespace BbtInfra.Rpc

open SessionFrame

/-- `ReplyCompletionImpl`. Its deadline only bounds waits, and its link to the session is kept
with the item. -/
structure ReplyCompletionImpl where
  kind : FrameKind
  lane : TrafficClass
  messageId : Bytes := []
  requestId : Bytes := []
  service : Bytes := []
  method : Bytes := []
  requestSchema : Bytes := []
  responseSchema : Bytes := []
  deriving DecidableEq, Repr

/-- The credential that `AdmitInbound` makes: for a call, and for a send that asks for remote
acceptance. -/
def replyFor (frame : SessionFrame) : Option ReplyCompletionImpl :=
  if frame.kind = .call then
    some { kind := .response, lane := frame.traffic, requestId := frame.requestId
           service := frame.service, method := frame.method
           requestSchema := frame.requestSchema, responseSchema := frame.responseSchema }
  else if frame.kind = .send ∧ frame.acceptanceRequested = some true then
    some { kind := .sendAccepted, lane := frame.traffic, messageId := frame.messageId }
  else none

/-- How a reply is made terminal. -/
inductive Answer
  | complete (response : Response)
  | fail (error : Error)
  deriving DecidableEq

namespace ReplyCompletionImpl

/-- The error frame of `Fail` and of `PostReplyErrorNoWait`. -/
def errorFrame (impl : ReplyCompletionImpl) (epoch : UInt64) (error : Error) : SessionFrame :=
  if impl.kind = .sendAccepted then
    { sessionEpoch := epoch, hasOutcome := true, success := false, error, kind := .sendAccepted
      traffic := .system, messageId := impl.messageId, reply := .none }
  else
    { sessionEpoch := epoch, hasOutcome := true, success := false, error, reply := .required
      kind := .response, traffic := impl.lane, requestId := impl.requestId
      service := impl.service, method := impl.method
      requestSchema := impl.requestSchema, responseSchema := impl.responseSchema }

/-- The response carries the correlation fields of its request. -/
def correlates (impl : ReplyCompletionImpl) (response : Response) : Bool :=
  response.requestId = impl.requestId && response.service = impl.service &&
    response.method = impl.method && response.requestSchema = impl.requestSchema &&
    response.responseSchema = impl.responseSchema

/-- The error that an answer reports to the peer, if it reports one: `Complete` rewrites a
response to another request. -/
def reported (impl : ReplyCompletionImpl) : Answer → Option Error
  | .fail error => some error
  | .complete response =>
    if impl.kind = .sendAccepted ∨ impl.correlates response = true then none
    else some (err .protocolError "response correlation mismatch")

/-- The frame of an answer without an error. -/
def successFrame (impl : ReplyCompletionImpl) (epoch : UInt64) (response : Response) :
    SessionFrame :=
  if impl.kind = .sendAccepted then
    { sessionEpoch := epoch, hasOutcome := true, success := true, kind := .sendAccepted
      traffic := .system, messageId := impl.messageId }
  else { responseToSessionFrame response epoch with traffic := impl.lane }

/-- The frame that an answer builds. -/
def frame (impl : ReplyCompletionImpl) (epoch : UInt64) : Answer → SessionFrame
  | .fail error => impl.errorFrame epoch error
  | .complete response =>
    match impl.reported (.complete response) with
    | some error => impl.errorFrame epoch error
    | none => impl.successFrame epoch response

/-- The message of an error frame. -/
def errorMessage (impl : ReplyCompletionImpl) (epoch : UInt64) (error : Error) : Pb.SessionFrame :=
  if impl.kind = .sendAccepted then
    { profileVersion := kRpcV2ProfileVersion, frameKind := 6, sessionEpoch := epoch
      trafficClass := toProtoTraffic .system, replyMode := toProtoReply .none
      messageId := impl.messageId, outcome := .error (fillError error) }
  else
    { profileVersion := kRpcV2ProfileVersion, frameKind := 4, sessionEpoch := epoch
      trafficClass := toProtoTraffic impl.lane, replyMode := toProtoReply .required
      requestId := impl.requestId, service := impl.service, method := impl.method
      requestSchema := impl.requestSchema, responseSchema := impl.responseSchema
      outcome := .error (fillError error) }

/-- An error that can be sent back: it passes the rules of the error branch, and the message
with it serializes within the frame limit. -/
def Reportable (protobuf : Protobuf) (maxFrameBytes : Nat) (impl : ReplyCompletionImpl)
    (epoch : UInt64) (error : Error) : Prop :=
  validateErrorBranch error = .ok () ∧
    ∃ body, protobuf.serialize (impl.errorMessage epoch error) = some body ∧
      body.length ≤ maxFrameBytes

/-- An answer that reports an error builds its error frame. -/
theorem frame_of_reported {impl : ReplyCompletionImpl} {answer : Answer} {error : Error}
    (reported : impl.reported answer = some error) (epoch : UInt64) :
    impl.frame epoch answer = impl.errorFrame epoch error := by
  cases answer with
  | complete response =>
    simp only [frame, reported]
  | fail reason =>
    cases reported
    rfl

/-- An answer that reports no error completes with a response. -/
theorem frame_of_silent {impl : ReplyCompletionImpl} {answer : Answer}
    (silent : impl.reported answer = none) (epoch : UInt64) :
    ∃ response, impl.frame epoch answer = impl.successFrame epoch response := by
  cases answer with
  | complete response =>
    refine ⟨response, ?_⟩
    simp only [frame, silent]
  | fail error => cases silent

end ReplyCompletionImpl

/-- An answer with an error to a request, under its correlation fields. -/
structure Refuses (request answer : SessionFrame) : Prop where
  outcome : answer.hasOutcome = true ∧ answer.success = false
  call : request.kind = .call → answer.kind = .response ∧ answer.traffic = request.traffic ∧
    answer.requestId = request.requestId ∧ answer.service = request.service ∧
    answer.method = request.method ∧ answer.requestSchema = request.requestSchema ∧
    answer.responseSchema = request.responseSchema
  send : request.kind = .send → answer.kind = .sendAccepted ∧
    answer.messageId = request.messageId

variable {request : SessionFrame} {impl : ReplyCompletionImpl} {epoch : UInt64} {error : Error}

/-- A credential is made for a call or a send. -/
theorem replyFor_cases (made : replyFor request = some impl) :
    (request.kind = .call ∧ impl.kind = .response ∧ impl.lane = request.traffic ∧
        impl.requestId = request.requestId ∧ impl.service = request.service ∧
        impl.method = request.method ∧ impl.requestSchema = request.requestSchema ∧
        impl.responseSchema = request.responseSchema) ∨
      request.kind = .send ∧ impl.kind = .sendAccepted ∧ impl.messageId = request.messageId := by
  unfold replyFor at made
  by_cases call : request.kind = .call
  · rw [if_pos call, Option.some.injEq] at made
    subst made
    exact .inl ⟨call, rfl, rfl, rfl, rfl, rfl, rfl, rfl⟩
  · rw [if_neg call] at made
    by_cases send : request.kind = .send ∧ request.acceptanceRequested = some true
    · rw [if_pos send, Option.some.injEq] at made
      subst made
      exact .inr ⟨send.1, rfl, rfl⟩
    · rw [if_neg send] at made
      cases made

/-- The error frame of a request answers it. -/
theorem refuses_errorFrame (made : replyFor request = some impl) (epoch : UInt64) (error : Error) :
    Refuses request (impl.errorFrame epoch error) := by
  rcases replyFor_cases made with ⟨call, response, fields⟩ | ⟨send, accepted, messageId⟩
  · have built : impl.kind ≠ .sendAccepted := by simp [response]
    unfold ReplyCompletionImpl.errorFrame
    rw [if_neg built]
    exact ⟨⟨rfl, rfl⟩, fun _ => ⟨rfl, fields⟩, fun send => by simp [call] at send⟩
  · unfold ReplyCompletionImpl.errorFrame
    rw [if_pos accepted]
    exact ⟨⟨rfl, rfl⟩, fun call => by simp [send] at call, fun _ => ⟨rfl, messageId⟩⟩

/-- A frame without an error refuses nothing. -/
theorem not_refuses_successFrame (response : Response) :
    ¬Refuses request (impl.successFrame epoch response) := by
  intro refuses
  have failed := refuses.outcome.2
  unfold ReplyCompletionImpl.successFrame responseToSessionFrame at failed
  split at failed <;> cases failed

/-- What the rules ask of a call and of its answer alike. -/
structure CallRules (request : SessionFrame) : Prop where
  traffic : request.traffic ≠ .system
  epoch : request.sessionEpoch ≠ 0
  requestId : request.requestId ≠ []
  bounded : request.requestId ≠ [] →
    request.requestId.length ≤ kRpcV2MaxFieldBytes ∧ isValidUtf8 request.requestId = true
  service : checkUtf8Len request.service "service" kRpcV2MaxFieldBytes true = .ok ()
  method : checkUtf8Len request.method "method" kRpcV2MaxFieldBytes true = .ok ()
  requestSchema :
    checkUtf8Len request.requestSchema "request_schema" kRpcV2MaxFieldBytes true = .ok ()
  responseSchema :
    checkUtf8Len request.responseSchema "response_schema" kRpcV2MaxFieldBytes true = .ok ()

/-- An accepted call meets them. -/
theorem callRules_of_valid (accepted : request.validateKindRules true = .ok ())
    (call : request.kind = .call) : CallRules request := by
  simp only [validateKindRules, validateEnvelope,
    validateRequest, checks_ok, refuse_ok, onWire_ok] at accepted
  obtain ⟨⟨-, traffic, -, -, -, -, -, epoch⟩,
    ⟨-, -, named, bounded, service, method, -, -, -, -, -, -, -, asked, answered, -⟩, -⟩ := accepted
  have routed : request.routed = true := by simp [SessionFrame.routed, call]
  have data : request.data = true := by simp [SessionFrame.data, call]
  rw [routed] at named service method asked answered
  exact
    { traffic := fun system => traffic ⟨data, system⟩
      epoch := fun zero => epoch ⟨by simp [data], zero⟩
      requestId := fun empty => named ⟨rfl, empty⟩
      bounded := fun present => by simpa [present] using bounded
      service, method
      requestSchema := asked
      responseSchema := answered }

/-- The answer to an accepted call breaks no rule but those of its error branch. -/
theorem errorFrame_valid_call (rules : CallRules request) (response : impl.kind = .response)
    (lane : impl.lane = request.traffic) (requestId : impl.requestId = request.requestId)
    (service : impl.service = request.service) (method : impl.method = request.method)
    (requestSchema : impl.requestSchema = request.requestSchema)
    (responseSchema : impl.responseSchema = request.responseSchema) :
    (impl.errorFrame request.sessionEpoch error).validateKindRules false = .ok () ↔
      validateErrorBranch error = .ok () := by
  have built : impl.kind ≠ .sendAccepted := by simp [response]
  unfold ReplyCompletionImpl.errorFrame
  rw [if_neg built, lane, requestId, service, method, requestSchema, responseSchema]
  obtain ⟨traffic, epoch, named, bounded, service, method, asked, answered⟩ := rules
  have metadata : validateMetadata [] = .ok () := rfl
  simp [validateKindRules, validateEnvelope,
    validateRequest, validateOutcome, checks_ok, SessionFrame.handshake,
    SessionFrame.data, outcomeKind, routed, SessionFrame.messaging,
    traffic, epoch, named, bounded named, service, method, asked, answered, metadata]

/-- The answer to an accepted send breaks no rule but those of its error branch. -/
theorem errorFrame_valid_send (accepted : request.validateKindRules true = .ok ())
    (send : request.kind = .send) (sends : impl.kind = .sendAccepted)
    (messageId : impl.messageId = request.messageId) :
    (impl.errorFrame request.sessionEpoch error).validateKindRules false = .ok () ↔
      validateErrorBranch error = .ok () := by
  simp only [validateKindRules, validateEnvelope,
    validateRequest, checks_ok, refuse_ok, onWire_ok] at accepted
  obtain ⟨⟨-, -, -, -, -, -, -, epoch⟩, ⟨named, -⟩, -⟩ := accepted
  have messaging : request.messaging = true := by simp [SessionFrame.messaging, send]
  have data : request.data = true := by simp [SessionFrame.data, send]
  have current : request.sessionEpoch ≠ 0 := fun zero => epoch ⟨by simp [data], zero⟩
  have identified : ¬(request.messageId = [] ∨
      request.messageId.length > kRpcV2MaxMessageIdBytes ∨ isValidUtf8 request.messageId = false) :=
    fun bad => named ⟨messaging, bad⟩
  have metadata : validateMetadata [] = .ok () := rfl
  have absent : ∀ name, checkUtf8Len [] name kRpcV2MaxFieldBytes false = .ok () := fun _ => rfl
  unfold ReplyCompletionImpl.errorFrame
  rw [if_pos sends, messageId]
  simp [validateKindRules, validateEnvelope,
    validateRequest, validateOutcome, checks_ok, SessionFrame.handshake,
    SessionFrame.data, outcomeKind, routed, SessionFrame.messaging,
    current, identified, metadata, absent]

/-- The error frame of an accepted request becomes its message unless the error is refused. -/
theorem fillProto_errorFrame (accepted : request.validateKindRules true = .ok ())
    (made : replyFor request = some impl) (current : request.sessionEpoch = epoch) (error : Error)
    (message : Pb.SessionFrame) :
    fillProto (impl.errorFrame epoch error) = .ok message ↔
      validateErrorBranch error = .ok () ∧ impl.errorMessage epoch error = message := by
  subst current
  have valid : (impl.errorFrame request.sessionEpoch error).validateKindRules false = .ok () ↔
      validateErrorBranch error = .ok () := by
    rcases replyFor_cases made with ⟨call, response, lane, requestId, service, method, asked,
      answered⟩ | ⟨send, sends, messageId⟩
    · exact errorFrame_valid_call (callRules_of_valid accepted call) response lane requestId service
        method asked answered
    · exact errorFrame_valid_send accepted send sends messageId
  rw [fillProto, checks_ok, valid]
  apply and_congr_right
  intro _
  unfold ReplyCompletionImpl.errorFrame ReplyCompletionImpl.errorMessage
  by_cases sends : impl.kind = .sendAccepted
  · rw [if_pos sends, if_pos sends]
    exact iff_of_eq (Except.ok.injEq _ _)
  · rw [if_neg sends, if_neg sends]
    exact iff_of_eq (Except.ok.injEq _ _)

/-- The error frame of an accepted request encodes exactly when its error can be reported. -/
theorem encode_errorFrame (protobuf : Protobuf) {maxFrameBytes : Nat} (positive : 0 < maxFrameBytes)
    (bounded : maxFrameBytes ≤ kRpcV2MaxFrameBytes)
    (accepted : request.validateKindRules true = .ok ()) (made : replyFor request = some impl)
    (current : request.sessionEpoch = epoch) (error : Error) :
    (encodeFramedSessionFrame protobuf (impl.errorFrame epoch error) maxFrameBytes).isOk = true ↔
      impl.Reportable protobuf maxFrameBytes epoch error := by
  have filled := fillProto_errorFrame accepted made current error
  have limit : frameByteLimit (impl.errorFrame epoch error).kind maxFrameBytes = maxFrameBytes := by
    unfold frameByteLimit ReplyCompletionImpl.errorFrame
    split <;> rfl
  constructor
  · intro encoded
    cases made : encodeFramedSessionFrame protobuf (impl.errorFrame epoch error) maxFrameBytes with
    | error error =>
      rw [made] at encoded
      cases encoded
    | ok bytes =>
      obtain ⟨-, body, encoded, short, -⟩ := encodeFramedSessionFrame_ok made
      obtain ⟨message, became, serialized⟩ := encodeSessionFrame_ok encoded
      obtain ⟨valid, rfl⟩ := (filled message).mp became
      exact ⟨valid, body, serialized, limit ▸ short⟩
  · intro reportable
    obtain ⟨valid, body, serialized, short⟩ := reportable
    have became := (filled _).mpr ⟨valid, rfl⟩
    have encoded : encodeSessionFrame protobuf (impl.errorFrame epoch error) = .ok body := by
      unfold encodeSessionFrame
      rw [became]
      simp [Bind.bind, Except.bind, serialized]
    unfold encodeFramedSessionFrame
    rw [encoded, limit]
    have range : ¬(maxFrameBytes = 0 ∨ maxFrameBytes > kRpcV2MaxFrameBytes) := by omega
    have fits : ¬body.length > maxFrameBytes := by omega
    simp [refuse, range, fits, Bind.bind, Except.bind, pure, Except.pure, Except.isOk,
      Except.toBool]

end BbtInfra.Rpc
