import BbtInfra.Lib.Framing
import BbtInfra.Rpc.Frame

/-!
# Frame codec

A frame is copied into the generated protobuf message, serialized, and framed by a 32 bit
big-endian length. The protobuf runtime is a parameter: `Protobuf` is the pair of calls the
codec makes, `Protobuf.Faithful` what their documentation promises. Encoding and decoding
are inverse up to the fields that a frame does not send.
-/
namespace BbtInfra.Rpc

open Lib SessionFrame

namespace Pb

/-- `RpcError`. Enumerations are open: the message keeps any 32 bit value. -/
structure RpcError where
  code : Int32 := 0
  domain : Bytes := []
  domainCode : Bytes := []
  message : Bytes := []
  backendCategory : Bytes := []
  backendCode : Int32 := 0
  transferredBytes : UInt64 := 0
  details : List (Bytes × Bytes) := []
  requestPhase : Option Int32 := none
  deriving DecidableEq, Repr

/-- The `outcome` oneof. -/
inductive Outcome
  | absent
  | success (value : Bool)
  | error (error : RpcError)
  deriving DecidableEq, Repr

/-- `SessionFrame`, with the proto3 defaults. -/
structure SessionFrame where
  profileVersion : UInt32 := 0
  frameKind : Int32 := 0
  trafficClass : Int32 := 0
  peerIdentity : Bytes := []
  sessionEpoch : UInt64 := 0
  messageId : Bytes := []
  requestId : Bytes := []
  service : Bytes := []
  method : Bytes := []
  replyMode : Int32 := 0
  sequence : UInt64 := 0
  orderingKey : Bytes := []
  remainingBudgetMs : UInt32 := 0
  requestSchema : Bytes := []
  responseSchema : Bytes := []
  payload : Bytes := []
  metadata : List (Bytes × Bytes) := []
  outcome : Outcome := .absent
  connectionNonce : UInt64 := 0
  acceptanceRequested : Option Bool := none
  deriving DecidableEq, Repr

/-- The `string` fields of an error hold well-formed text. -/
structure RpcError.Utf8 (error : RpcError) : Prop where
  domain : isValidUtf8 error.domain = true
  domainCode : isValidUtf8 error.domainCode = true
  message : isValidUtf8 error.message = true
  backendCategory : isValidUtf8 error.backendCategory = true
  details : ∀ pair ∈ error.details, isValidUtf8 pair.1 = true ∧ isValidUtf8 pair.2 = true

/-- The `string` fields of a message hold well-formed text; `bytes` fields hold anything. -/
structure SessionFrame.Utf8 (message : SessionFrame) : Prop where
  peerIdentity : isValidUtf8 message.peerIdentity = true
  messageId : isValidUtf8 message.messageId = true
  requestId : isValidUtf8 message.requestId = true
  service : isValidUtf8 message.service = true
  method : isValidUtf8 message.method = true
  requestSchema : isValidUtf8 message.requestSchema = true
  responseSchema : isValidUtf8 message.responseSchema = true
  metadata : ∀ pair ∈ message.metadata, isValidUtf8 pair.1 = true ∧ isValidUtf8 pair.2 = true
  error : ∀ error, message.outcome = .error error → error.Utf8

/-- Room for one field: a tag of at most two bytes and a varint of at most ten. -/
def fieldBound : Nat := 12

/-- Room for repeated entries: three length fields and the texts of each. -/
def entriesBound (entries : List (Bytes × Bytes)) : Nat :=
  (entries.map fun entry => 3 * fieldBound + entry.1.length + entry.2.length).sum

/-- A bound of the serialized size of an error. -/
def RpcError.sizeBound (message : RpcError) : Nat :=
  8 * fieldBound + message.domain.length + message.domainCode.length + message.message.length +
    message.backendCategory.length + entriesBound message.details

/-- A bound of the serialized size of an outcome. -/
def Outcome.sizeBound : Outcome → Nat
  | .absent => 0
  | .success _ => fieldBound
  | .error failure => fieldBound + failure.sizeBound

/-- A bound of the serialized size of a message. -/
def SessionFrame.sizeBound (message : SessionFrame) : Nat :=
  18 * fieldBound + message.peerIdentity.length + message.messageId.length +
    message.requestId.length + message.service.length + message.method.length +
    message.orderingKey.length + message.requestSchema.length + message.responseSchema.length +
    message.payload.length + entriesBound message.metadata + message.outcome.sizeBound

/-- Messages of 2 GiB and more do not serialize. -/
def messageLimit : Nat := 2 ^ 31

end Pb

/-- The protobuf runtime: `SerializeToString` and `ParseFromArray` of the generated message. -/
structure Protobuf where
  serialize : Pb.SessionFrame → Option Bytes
  parse : Bytes → Option Pb.SessionFrame

/-- What the codec relies on in the protobuf runtime. -/
structure Protobuf.Faithful (protobuf : Protobuf) : Prop where
  /-- A serialized message is parsed back, provided its `string` fields hold text. -/
  parse_serialize : ∀ message bytes, message.Utf8 → protobuf.serialize message = some bytes →
    protobuf.parse bytes = some message
  /-- No bytes are the message with every field at its default. -/
  parse_nil : protobuf.parse [] = some {}
  /-- Messages below 2 GiB serialize, to no more than their fields need. -/
  serialize_small : ∀ message, message.sizeBound < Pb.messageLimit →
    ∃ bytes, protobuf.serialize message = some bytes ∧ bytes.length ≤ message.sizeBound

/-- `ToProtoFrameKind`. -/
def toProtoFrameKind : FrameKind → Except Error Int32
  | .hello => .ok 1
  | .helloAck => .ok 2
  | .call => .ok 3
  | .response => .ok 4
  | .send => .ok 5
  | .sendAccepted => .ok 6
  | .sessionError => .ok 7
  | .close => .ok 8
  | .unspecified =>
    .error (makeError .protocolError (text "frame_kind is not a valid local kind"))

/-- `FromProtoFrameKind`. -/
def fromProtoFrameKind (kind : Int32) : Except Error FrameKind :=
  match kind.toInt with
  | 1 => .ok .hello
  | 2 => .ok .helloAck
  | 3 => .ok .call
  | 4 => .ok .response
  | 5 => .ok .send
  | 6 => .ok .sendAccepted
  | 7 => .ok .sessionError
  | 8 => .ok .close
  | _ => .error (makeError .protocolError (text "unrecognized frame_kind value"))

/-- `ToProtoTraffic`. -/
def toProtoTraffic : TrafficClass → Int32
  | .system => 0
  | .service => 1
  | .actor => 2

/-- `FromProtoTraffic`. -/
def fromProtoTraffic (traffic : Int32) : Except Error TrafficClass :=
  match traffic.toInt with
  | 0 => .ok .system
  | 1 => .ok .service
  | 2 => .ok .actor
  | _ => .error (makeError .protocolError (text "unrecognized traffic_class value"))

/-- `ToProtoReply`. -/
def toProtoReply : ReplyMode → Int32
  | .none => 0
  | .required => 1

/-- `FromProtoReply`. -/
def fromProtoReply (reply : Int32) : Except Error ReplyMode :=
  match reply.toInt with
  | 0 => .ok .none
  | 1 => .ok .required
  | _ => .error (makeError .protocolError (text "unrecognized reply_mode value"))

/-- `ToProtoErrorCode`. -/
def toProtoErrorCode : ErrorCode → Int32
  | .invalidArgument => 1
  | .invalidContext => 2
  | .runtimeUnavailable => 3
  | .closed => 4
  | .cancelled => 5
  | .timedOut => 6
  | .overloaded => 7
  | .unavailable => 8
  | .transportError => 9
  | .protocolError => 10
  | .notFound => 11
  | .typeMismatch => 12
  | .unsupportedRoute => 13
  | .outcomeUnknown => 14
  | .remoteError => 15
  | .internalError => 16

/-- `FromProtoErrorCode`: an unknown code is a protocol error, not an omission. -/
def fromProtoErrorCode (code : Int32) : ErrorCode :=
  match code.toInt with
  | 1 => .invalidArgument
  | 2 => .invalidContext
  | 3 => .runtimeUnavailable
  | 4 => .closed
  | 5 => .cancelled
  | 6 => .timedOut
  | 7 => .overloaded
  | 8 => .unavailable
  | 9 => .transportError
  | 10 => .protocolError
  | 11 => .notFound
  | 12 => .typeMismatch
  | 13 => .unsupportedRoute
  | 14 => .outcomeUnknown
  | 15 => .remoteError
  | 16 => .internalError
  | _ => .protocolError

/-- `FromProtoRequestPhase`. -/
def fromProtoRequestPhase : Option Int32 → Except Error (Option RequestPhase)
  | none => .ok none
  | some phase =>
    match phase.toInt with
    | 1 => .ok (some .notStarted)
    | 2 => .ok (some .connecting)
    | 3 => .ok (some .writing)
    | 4 => .ok (some .requestCommitted)
    | 5 => .ok (some .replyTerminal)
    | _ => .error (makeError .protocolError (text "unrecognized request_phase value"))

/-- A traffic class is read back. -/
@[simp] theorem fromProtoTraffic_toProto (traffic : TrafficClass) :
    fromProtoTraffic (toProtoTraffic traffic) = .ok traffic := by
  cases traffic <;> rfl

/-- A reply mode is read back. -/
@[simp] theorem fromProtoReply_toProto (reply : ReplyMode) :
    fromProtoReply (toProtoReply reply) = .ok reply := by
  cases reply <;> rfl

/-- An error code is read back. -/
@[simp] theorem fromProtoErrorCode_toProto (code : ErrorCode) :
    fromProtoErrorCode (toProtoErrorCode code) = code := by
  cases code <;> rfl

/-- A phase with a value on the wire is read back. -/
theorem fromProtoRequestPhase_toProto {error : Error} (named : foreignPhase error = false) :
    fromProtoRequestPhase (error.requestPhase.bind toProtoRequestPhase) = .ok error.requestPhase := by
  cases held : error.requestPhase with
  | none => rfl
  | some phase =>
    have sent : (toProtoRequestPhase phase).isSome = true := by
      simpa [foreignPhase, held] using named
    have listed := (toProtoRequestPhase_isSome phase).mp sent
    simp only [List.mem_cons, List.not_mem_nil, or_false] at listed
    rcases listed with rfl | rfl | rfl | rfl | rfl <;> rfl

/-- What is read is an enumerator, or nothing. -/
theorem fromProtoRequestPhase_local {sent : Option Int32} {error : Error}
    (read : fromProtoRequestPhase sent = .ok error.requestPhase) : foreignPhase error = false := by
  unfold foreignPhase
  unfold fromProtoRequestPhase at read
  split at read
  · rw [← Except.ok.inj read]
    rfl
  · split at read
    all_goals first
      | cases read
      | rw [← Except.ok.inj read]
        rfl

/-- Kinds that have a wire value are read back. -/
theorem fromProtoFrameKind_toProto {kind : FrameKind} {wire : Int32}
    (sent : toProtoFrameKind kind = .ok wire) : fromProtoFrameKind wire = .ok kind := by
  cases kind <;> simp only [toProtoFrameKind, Except.ok.injEq, reduceCtorEq] at sent <;>
    subst sent <;> rfl

/-- The error branch of `FillProto`. It checks the phase again, which never fails behind
`ValidateErrorBranch`. -/
def fillError (error : Error) : Pb.RpcError where
  code := toProtoErrorCode error.code
  domain := error.domain
  domainCode := error.domainCode
  message := error.message
  backendCategory := error.backendCategory
  backendCode := Int32.ofInt error.backendCode
  transferredBytes := UInt64.ofNat error.transferredBytes
  details := error.details
  requestPhase := error.requestPhase.bind toProtoRequestPhase

/-- The error branch of `FromProto`. -/
def readError (message : Pb.RpcError) : Except Error Error := do
  let requestPhase ← fromProtoRequestPhase message.requestPhase
  return {
    code := fromProtoErrorCode message.code
    domain := message.domain
    domainCode := message.domainCode
    message := message.message
    backendCategory := message.backendCategory
    backendCode := message.backendCode.toInt
    transferredBytes := message.transferredBytes.toNat
    details := message.details
    requestPhase }

/-- `FillProto`. A field that the source leaves out when it is empty is left at the empty
default here, which is the same message. -/
def fillProto (frame : SessionFrame) : Except Error Pb.SessionFrame := do
  frame.validateKindRules false
  let frameKind ← toProtoFrameKind frame.kind
  return {
    profileVersion := kRpcV2ProfileVersion
    frameKind
    trafficClass := toProtoTraffic frame.traffic
    peerIdentity := frame.peerIdentity
    sessionEpoch := frame.sessionEpoch
    messageId := frame.messageId
    requestId := frame.requestId
    service := frame.service
    method := frame.method
    replyMode := toProtoReply frame.reply
    sequence := frame.sequence
    orderingKey := frame.orderingKey
    remainingBudgetMs := frame.remainingBudgetMs
    requestSchema := frame.requestSchema
    responseSchema := frame.responseSchema
    payload := frame.payload
    metadata := frame.metadata
    outcome :=
      if frame.hasOutcome then
        if frame.success then .success true else .error (fillError frame.error)
      else .absent
    connectionNonce := frame.connectionNonce
    acceptanceRequested := frame.acceptanceRequested }

/-- The outcome fields of `FromProto`: present, successful, error. -/
def readOutcome : Pb.Outcome → Except Error (Bool × Bool × Error)
  | .error message => do return (true, false, ← readError message)
  | .success true => .ok (true, true, {})
  | .success false =>
    .error (makeError .protocolError (text "success=false without error branch"))
  | .absent => .ok (false, false, {})

/-- `FromProto`. -/
def fromProto (message : Pb.SessionFrame) : Except Error SessionFrame := do
  refuse (message.profileVersion ≠ kRpcV2ProfileVersion)
    (makeError .protocolError (text "unsupported profile_version"))
  let kind ← fromProtoFrameKind message.frameKind
  let traffic ← fromProtoTraffic message.trafficClass
  let reply ← fromProtoReply message.replyMode
  let (hasOutcome, success, error) ← readOutcome message.outcome
  let frame : SessionFrame := {
    kind, traffic, reply, hasOutcome, success, error
    peerIdentity := message.peerIdentity
    sessionEpoch := message.sessionEpoch
    messageId := message.messageId
    requestId := message.requestId
    service := message.service
    method := message.method
    sequence := message.sequence
    orderingKey := message.orderingKey
    remainingBudgetMs := message.remainingBudgetMs
    requestSchema := message.requestSchema
    responseSchema := message.responseSchema
    payload := message.payload
    metadata := message.metadata
    connectionNonce := message.connectionNonce
    acceptanceRequested := message.acceptanceRequested }
  frame.validateKindRules true
  return frame

/-- The error that arrives: its integers have the width of the wire. -/
def Error.carried (error : Error) : Error :=
  { error with
    backendCode := (Int32.ofInt error.backendCode).toInt
    transferredBytes := (UInt64.ofNat error.transferredBytes).toNat }

/-- The frame that arrives: the outcome fields are those of the branch that was sent. -/
def SessionFrame.carried (frame : SessionFrame) : SessionFrame :=
  { frame with
    success := frame.hasOutcome && frame.success
    error := if frame.hasOutcome && !frame.success then Error.carried frame.error else {} }

/-- The rules read nothing that does not arrive. -/
theorem SessionFrame.validateKindRules_carried (frame : SessionFrame) (decoding : Bool) :
    frame.carried.validateKindRules decoding = frame.validateKindRules decoding := by
  have outcome : frame.carried.validateOutcome decoding = frame.validateOutcome decoding := by
    unfold validateOutcome carried
    cases frame.hasOutcome <;> cases frame.success <;> rfl
  unfold validateKindRules
  rw [outcome]
  rfl

variable {frame : SessionFrame} {message : Pb.SessionFrame}

/-- A filled message holds well-formed text. -/
theorem fillProto_utf8 (filled : fillProto frame = .ok message) : message.Utf8 := by
  simp only [fillProto, checks_ok] at filled
  obtain ⟨valid, filled⟩ := filled
  have utf8 := validateKindRules_utf8 valid
  cases known : toProtoFrameKind frame.kind with
  | error error => simp [known, Bind.bind, Except.bind] at filled
  | ok kind =>
    simp only [known, Bind.bind, Except.bind, pure, Except.pure, Except.ok.injEq] at filled
    subst filled
    refine ⟨utf8.peerIdentity, utf8.messageId, utf8.requestId, utf8.service, utf8.method,
      utf8.requestSchema, utf8.responseSchema, utf8.metadata, ?_⟩
    intro error carried
    split_ifs at carried with outcome success
    cases carried
    have branch := utf8.error outcome (by simpa using success)
    exact ⟨branch.domain, branch.domainCode, branch.message, branch.backendCategory,
      branch.details⟩

/-- What is filled in is read back. -/
theorem fromProto_fillProto
    (filled : fillProto frame = .ok message) : fromProto message = .ok frame.carried := by
  simp only [fillProto, checks_ok] at filled
  obtain ⟨valid, filled⟩ := filled
  have admitted : frame.carried.validateKindRules true = .ok () := by
    rw [validateKindRules_carried, frame.validateKindRules_decoding
      (validateKindRules_phase valid)]
    exact valid
  cases known : toProtoFrameKind frame.kind with
  | error error => simp [known, Bind.bind, Except.bind] at filled
  | ok kind =>
    simp only [known, Bind.bind, Except.bind, pure, Except.pure, Except.ok.injEq] at filled
    subst filled
    have outcome : readOutcome (if frame.hasOutcome then
        if frame.success then Pb.Outcome.success true else .error (fillError frame.error)
        else .absent) = .ok (frame.hasOutcome, frame.carried.success, frame.carried.error) := by
      have named := validateKindRules_phase valid
      unfold carried
      cases outcome : frame.hasOutcome <;> cases success : frame.success <;>
        simp [readOutcome, readError, fillError, Error.carried, Bind.bind, Except.bind, pure,
          Except.pure, fromProtoRequestPhase_toProto, named, outcome, success]
    simp only [fromProto, outcome, fromProtoFrameKind_toProto known, fromProtoTraffic_toProto,
      fromProtoReply_toProto, refuse, Bind.bind, Except.bind, pure, Except.pure, ne_eq,
      not_true_eq_false, if_false]
    simp only [carried] at admitted ⊢
    rw [admitted]

/-- `EncodeSessionFrame`. -/
def encodeSessionFrame (protobuf : Protobuf) (frame : SessionFrame) : Except Error Bytes := do
  let message ← fillProto frame
  match protobuf.serialize message with
  | none => .error (makeError .protocolError (text "protobuf serialize failed"))
  | some bytes => .ok bytes

/-- `DecodeSessionFrame`. -/
def decodeSessionFrame (protobuf : Protobuf) (bytes : Bytes) : Except Error SessionFrame :=
  if bytes = [] then .error (makeError .protocolError (text "empty frame bytes"))
  else
    match protobuf.parse bytes with
    | none => .error (makeError .protocolError (text "frame parse failed"))
    | some message => fromProto message

/-- An encoded body is the serialization of the filled message. -/
theorem encodeSessionFrame_ok {protobuf : Protobuf} {body : Bytes}
    (encoded : encodeSessionFrame protobuf frame = .ok body) :
    ∃ message, fillProto frame = .ok message ∧ protobuf.serialize message = some body := by
  unfold encodeSessionFrame at encoded
  cases filled : fillProto frame with
  | error error => simp [filled, Bind.bind, Except.bind] at encoded
  | ok message =>
    simp only [filled, Bind.bind, Except.bind] at encoded
    cases serialized : protobuf.serialize message with
    | none => simp [serialized] at encoded
    | some bytes =>
      simp only [serialized, Except.ok.injEq] at encoded
      exact ⟨message, rfl, by rw [serialized, encoded]⟩

/-- A filled message is not the empty one: it carries the profile version. -/
theorem fillProto_profileVersion
    (filled : fillProto frame = .ok message) : message.profileVersion = kRpcV2ProfileVersion := by
  simp only [fillProto, checks_ok] at filled
  cases known : toProtoFrameKind frame.kind with
  | error error => simp [known, Bind.bind, Except.bind] at filled
  | ok kind =>
    simp only [known, Bind.bind, Except.bind, pure, Except.pure, Except.ok.injEq] at filled
    rw [← filled.2]

section Faithful

variable {protobuf : Protobuf} (faithful : protobuf.Faithful)
include faithful

section

variable {frame : SessionFrame} {body : Bytes}
  (encoded : encodeSessionFrame protobuf frame = .ok body)

include encoded

/-- An encoded body has bytes. -/
theorem encodeSessionFrame_ne_nil : body ≠ [] := by
  rintro rfl
  obtain ⟨message, filled, serialized⟩ := encodeSessionFrame_ok encoded
  have parsed := faithful.parse_serialize _ _ (fillProto_utf8 filled) serialized
  rw [faithful.parse_nil, Option.some.injEq] at parsed
  have version := fillProto_profileVersion filled
  rw [← parsed] at version
  exact absurd version (by decide)

/-- An encoded frame is decoded to the frame that arrives. -/
theorem decode_encodeSessionFrame : decodeSessionFrame protobuf body = .ok frame.carried := by
  obtain ⟨message, filled, serialized⟩ := encodeSessionFrame_ok encoded
  unfold decodeSessionFrame
  rw [if_neg (encodeSessionFrame_ne_nil faithful encoded),
    faithful.parse_serialize _ _ (fillProto_utf8 filled) serialized]
  exact fromProto_fillProto filled

end

end Faithful

/-- The width of the length field. -/
def kFramePrefixBytes : Nat := 4

/-- `EncodeFramePrefix`. -/
def encodeFramePrefix (payloadLength : Nat) : Bytes :=
  Framing.bigEndian kFramePrefixBytes payloadLength

/-- `DecodeFramePrefix`, of the four bytes in front. -/
def decodeFramePrefix (bytes : Bytes) : Nat := Framing.declared kFramePrefixBytes bytes

/-- `FrameByteLimit`. -/
def frameByteLimit (kind : FrameKind) (maxFrameBytes : Nat) : Nat :=
  if kind = .hello ∨ kind = .helloAck then min maxFrameBytes kRpcV2HelloMaxFrameBytes
  else maxFrameBytes

/-- `EncodeFramedSessionFrame`. -/
def encodeFramedSessionFrame (protobuf : Protobuf) (frame : SessionFrame) (maxFrameBytes : Nat) :
    Except Error Bytes := do
  refuse (maxFrameBytes = 0 ∨ maxFrameBytes > kRpcV2MaxFrameBytes)
    (makeError .invalidArgument (text "max_frame_bytes out of range"))
  let body ← encodeSessionFrame protobuf frame
  refuse (body.length > frameByteLimit frame.kind maxFrameBytes)
    (makeError .invalidArgument (text "frame body exceeds kind byte limit"))
  return encodeFramePrefix body.length ++ body

/-- A framed frame: its body, within the limits of its kind. -/
theorem encodeFramedSessionFrame_ok {protobuf : Protobuf} {maxFrameBytes : Nat} {bytes : Bytes}
    (encoded : encodeFramedSessionFrame protobuf frame maxFrameBytes = .ok bytes) :
    maxFrameBytes ≤ kRpcV2MaxFrameBytes ∧ ∃ body, encodeSessionFrame protobuf frame = .ok body ∧
      body.length ≤ frameByteLimit frame.kind maxFrameBytes ∧
      bytes = Framing.frame kFramePrefixBytes body := by
  simp only [encodeFramedSessionFrame, checks_ok, refuse_ok, not_or] at encoded
  obtain ⟨range, encoded⟩ := encoded
  cases made : encodeSessionFrame protobuf frame with
  | error error => simp [made, Bind.bind, Except.bind] at encoded
  | ok body =>
    rw [made] at encoded
    change (refuse _ _ >>= fun _ => pure _) = _ at encoded
    simp only [checks_ok, refuse_ok, pure, Except.pure, Except.ok.injEq] at encoded
    exact ⟨by omega, body, rfl, by omega, encoded.2.symm⟩

/-- A kind limit is at most the limit of every frame. -/
theorem frameByteLimit_le (kind : FrameKind) (maxFrameBytes : Nat) :
    frameByteLimit kind maxFrameBytes ≤ maxFrameBytes := by
  unfold frameByteLimit
  split_ifs
  · exact min_le_left _ _
  · exact le_rfl

/-- Lengths up to the hard limit fit the length field. -/
theorem length_fits {length : Nat} (bounded : length ≤ kRpcV2MaxFrameBytes) :
    length < 256 ^ kFramePrefixBytes := by
  have limit : kRpcV2MaxFrameBytes < 256 ^ kFramePrefixBytes := by decide
  omega

end BbtInfra.Rpc
