import Mathlib
import BbtInfra.Mcp.JsonValue

/-!
# JSON-RPC frames and the checks of one request

What Protocol.cc reads from a frame and what it writes into one. All of it looks at a single
frame. The texts of the answers are fixed, nothing of the input is echoed.
-/
namespace BbtInfra.Mcp

/-- `RequestId`. The default is the empty text. -/
inductive RequestId
  | string (value : Bytes)
  | int64 (value : Int64)
  | uint64 (value : UInt64)
  deriving DecidableEq

namespace RequestId

/-- `RequestId()`. -/
def default' : RequestId := .string []

/-- `ToJson`. -/
def toJson : RequestId → JsonValue
  | .string value => .string value
  | .int64 value => .int64 value
  | .uint64 value => .uint64 value

/-- `Key`: the prefix keeps a text apart from the number it spells. -/
def key : RequestId → Bytes
  | .string value => text "s:" ++ value
  | .int64 value => text "i:" ++ text value.toInt.repr
  | .uint64 value => text "u:" ++ text value.toNat.repr

end RequestId

/-- `JsonRpcErrorCode`. -/
inductive JsonRpcErrorCode
  | parseError | invalidRequest | methodNotFound | invalidParams | internalError
  | headerMismatch | missingRequiredClientCapability | unsupportedProtocolVersion
  deriving DecidableEq, Repr

/-- The number of a code. -/
def JsonRpcErrorCode.number : JsonRpcErrorCode → Int64
  | .parseError => -32700
  | .invalidRequest => -32600
  | .methodNotFound => -32601
  | .invalidParams => -32602
  | .internalError => -32603
  | .headerMismatch => -32020
  | .missingRequiredClientCapability => -32021
  | .unsupportedProtocolVersion => -32022

/-- `ProtocolFailure`. -/
structure ProtocolFailure where
  code : JsonRpcErrorCode := .internalError
  message : Bytes := []
  data : Option JsonValue := none

/-- `Failure`. -/
def failure (code : JsonRpcErrorCode) (message : String) : ProtocolFailure :=
  { code, message := text message }

/-- `InvalidParamsFailure`. -/
def invalidParams (message : String) : ProtocolFailure := failure .invalidParams message

/-- `ProtocolLimits`. -/
structure ProtocolLimits where
  maxMessageBytes : Nat := 1 <<< 20
  maxDepth : Nat := 32

/-- What speaks against a text, as the handler and Boost.JSON report it. -/
inductive JsonFault
  | duplicateKey | number | tooDeep | syntax'
  deriving DecidableEq, Repr

/-- `MakeJsonError` and its siblings: an error with its domain code. -/
def domainError (code : ErrorCode) (domainCode message : String) : Error :=
  { makeError code (text message) with domainCode := text domainCode }

/-- The error of a fault. -/
def JsonFault.error : JsonFault → Error
  | .duplicateKey =>
    domainError .protocolError "mcp.json.duplicate_key" "json object has duplicate key"
  | .number => domainError .protocolError "mcp.json.number" "json number is not representable"
  | .tooDeep => domainError .protocolError "mcp.json.max_depth" "json input exceeds max depth"
  | .syntax' =>
    domainError .protocolError "mcp.json.syntax" "json input is not a single valid document"

/-- `JsonRpcRequest`. -/
structure JsonRpcRequest where
  notification : Bool := false
  id : RequestId := .default'
  method : Bytes := []
  params : Option JsonValue := none

/-- What `ParseRequestFrame` returns and writes. -/
structure ParsedFrame where
  outcome : Except Error JsonRpcRequest
  detectedId : Option RequestId := none
  notificationRecognized : Bool := false

/-- `InvalidRequest`. -/
def invalidRequestError : Error :=
  domainError .protocolError "mcp.rpc.invalid_request"
    "invalid request: not a JSON-RPC 2.0 request"

/-- `InvalidParams`. -/
def invalidParamsError : Error :=
  domainError .protocolError "mcp.rpc.invalid_params"
    "invalid params: params must be an object or array"

/-- The id of a frame, when its kind is one of those allowed. -/
def readId : JsonValue → Option RequestId
  | .string value => some (.string value)
  | .int64 value => some (.int64 value)
  | .uint64 value => some (.uint64 value)
  | _ => none

/-- `ParseRequestFrame` behind the id. -/
def parseBody (frame : JsonValue) (id : Option RequestId) : ParsedFrame :=
  if (frame.find (text "result")).isSome || (frame.find (text "error")).isSome then
    { outcome := .error invalidRequestError, detectedId := id }
  else
    match (frame.find (text "method")).bind JsonValue.asString with
    | none | some [] => { outcome := .error invalidRequestError, detectedId := id }
    | some method =>
      let request : JsonRpcRequest :=
        { notification := id.isNone, id := id.getD .default', method }
      match frame.find (text "params") with
      | none =>
        { outcome := .ok request, detectedId := id, notificationRecognized := id.isNone }
      | some params =>
        if params.isObject || params.isArray then
          { outcome := .ok { request with params := some params }
            detectedId := id
            notificationRecognized := id.isNone }
        else
          { outcome := .error invalidParamsError
            detectedId := id
            notificationRecognized := id.isNone }

/-- `ParseRequestFrame` behind the parser. A frame that is not an object has no members. -/
def parseEnvelope (frame : JsonValue) : ParsedFrame :=
  if (frame.find (text "jsonrpc")).bind JsonValue.asString = some (text "2.0") then
    match frame.find (text "id") with
    | none => parseBody frame none
    | some value =>
      match readId value with
      | none => { outcome := .error invalidRequestError }
      | some id => parseBody frame (some id)
  else { outcome := .error invalidRequestError }

section Parser

-- Boost.JSON's parser under a limit of depth, driven by the handler that refuses duplicate keys and
-- numbers that are not representable.
variable (boost : Bytes → Nat → Except JsonFault JsonValue)

/-- `JsonValue::Parse`. -/
def parseJson (raw : Bytes) (maxBytes maxDepth : Nat) : Except Error JsonValue :=
  if maxBytes = 0 ∨ maxDepth = 0 then
    .error (domainError .invalidArgument "mcp.json.bound" "json parse bound must be positive")
  else if maxBytes < raw.length then
    .error (domainError .protocolError "mcp.json.max_bytes" "json input exceeds max bytes")
  else
    match boost raw maxDepth with
    | .error fault => .error fault.error
    | .ok value => .ok value

/-- `ParseRequestFrame`. -/
def parseRequestFrame (raw : Bytes) (limits : ProtocolLimits) : ParsedFrame :=
  match parseJson boost raw limits.maxMessageBytes limits.maxDepth with
  | .error error => { outcome := .error error }
  | .ok frame => parseEnvelope frame

end Parser

/-- `ToProtocolFailure`. -/
def toProtocolFailure (error : Error) : ProtocolFailure :=
  if (text "mcp.json.").isPrefixOf error.domainCode then failure .parseError "Parse error"
  else if error.domainCode = text "mcp.rpc.invalid_request" then
    failure .invalidRequest "Invalid Request"
  else if error.domainCode = text "mcp.rpc.invalid_params" then
    failure .invalidParams "Invalid params"
  else if error.domainCode = text "mcp.rpc.method_not_found" then
    failure .methodNotFound "Method not found"
  else failure .internalError "Internal error"

/-- `MakeSuccessResponse`. -/
def makeSuccessResponse (id : RequestId) (result : JsonValue) : JsonValue :=
  .object [(text "jsonrpc", .literal "2.0"), (text "id", id.toJson), (text "result", result)]

/-- `MakeErrorResponse`. -/
def makeErrorResponse (id : Option RequestId) (failure : ProtocolFailure) : JsonValue :=
  .object [(text "jsonrpc", .literal "2.0"),
    (text "id", (id.map RequestId.toJson).getD .null),
    (text "error", .object ([(text "code", .int64 failure.code.number),
      (text "message", .string failure.message)] ++
        (failure.data.map fun data => (text "data", data)).toList))]

/-- The id of an answer. -/
def responseId (response : JsonValue) : Option JsonValue := response.find (text "id")

/-- An error has the id it was made with, or null. -/
@[simp]
theorem responseId_error (id : Option RequestId) (failure : ProtocolFailure) :
    responseId (makeErrorResponse id failure) = some ((id.map RequestId.toJson).getD .null) := rfl

end BbtInfra.Mcp
