import BbtInfra.Rpc.Codec

/-!
# Requests and responses

The value types that callers and handlers see, and their conversions to and from session
frames. Conversions copy fields; the rules of a frame are checked where a request becomes one.
-/
namespace BbtInfra.Rpc

/-- `bbt::coroutine::Deadline`: a point of the steady clock in nanoseconds, or `max()`. -/
abbrev Deadline := WithTop Nat

/-- `RequestContext`. The authenticated principal is left out: nothing here sets or reads it. -/
structure RequestContext where
  deadline : Deadline := ⊤
  peerIdentity : Bytes := []
  deriving DecidableEq

/-- `Request`. -/
structure Request where
  service : Bytes := []
  method : Bytes := []
  requestId : Bytes := []
  messageId : Bytes := []
  requestSchema : Bytes := []
  responseSchema : Bytes := []
  payload : Bytes := []
  metadata : Metadata := []
  traffic : TrafficClass := .service
  reply : ReplyMode := .none
  orderingKey : Bytes := []
  sequence : UInt64 := 0
  context : RequestContext := {}
  deriving DecidableEq

/-- `Response`. -/
structure Response where
  requestId : Bytes := []
  service : Bytes := []
  method : Bytes := []
  requestSchema : Bytes := []
  responseSchema : Bytes := []
  payload : Bytes := []
  metadata : Metadata := []
  deriving DecidableEq

/-- `ToSessionFrame`. -/
def toSessionFrame (request : Request) (kind : FrameKind) (sessionEpoch : UInt64)
    (remainingBudgetMs : UInt32) (acceptanceRequested : Option Bool) :
    Except Error SessionFrame := do
  refuse (kind ≠ .call ∧ kind ≠ .send)
    (makeError .invalidArgument (text "ToSessionFrame only accepts Call/Send"))
  let frame : SessionFrame :=
    { kind, traffic := request.traffic, sessionEpoch, messageId := request.messageId,
      requestId := request.requestId, service := request.service, method := request.method,
      reply := request.reply, sequence := request.sequence, orderingKey := request.orderingKey,
      remainingBudgetMs, requestSchema := request.requestSchema,
      responseSchema := request.responseSchema, payload := request.payload,
      metadata := request.metadata, acceptanceRequested }
  frame.validateKindRules false
  return frame

/-- `RequestFromSessionFrame`. -/
def requestFromSessionFrame (frame : SessionFrame) (context : RequestContext) :
    Except Error Request := do
  refuse (frame.kind ≠ .call ∧ frame.kind ≠ .send)
    (makeError .invalidArgument (text "RequestFromSessionFrame only accepts Call/Send"))
  return { service := frame.service, method := frame.method, requestId := frame.requestId,
           messageId := frame.messageId, requestSchema := frame.requestSchema,
           responseSchema := frame.responseSchema, payload := frame.payload,
           metadata := frame.metadata, traffic := frame.traffic, reply := frame.reply,
           orderingKey := frame.orderingKey, sequence := frame.sequence, context }

/-- `ResponseToSessionFrame`. -/
def responseToSessionFrame (response : Response) (sessionEpoch : UInt64) : SessionFrame where
  kind := .response
  traffic := .service
  sessionEpoch := sessionEpoch
  requestId := response.requestId
  service := response.service
  method := response.method
  reply := .required
  requestSchema := response.requestSchema
  responseSchema := response.responseSchema
  payload := response.payload
  metadata := response.metadata
  hasOutcome := true
  success := true

/-- `ResponseFromSessionFrame`. -/
def responseFromSessionFrame (frame : SessionFrame) : Except Error Response := do
  refuse (frame.kind ≠ .response)
    (makeError .invalidArgument (text "ResponseFromSessionFrame only accepts Response"))
  return { requestId := frame.requestId, service := frame.service, method := frame.method,
           requestSchema := frame.requestSchema, responseSchema := frame.responseSchema,
           payload := frame.payload, metadata := frame.metadata }

end BbtInfra.Rpc
