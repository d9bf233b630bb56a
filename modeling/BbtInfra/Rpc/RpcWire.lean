import BbtInfra.Rpc.EnvelopeProto
import BbtInfra.Rpc.RoundTrip

/-!
# The envelope codec

The first wire profile: one envelope for a request or its answer, whose direction both sides know.
`FillProto` and `FromProto` state the rules twice, once for the value that is sent and once for the
value that arrived. The maps of error codes and request phases and the validators of metadata and
errors have the text of those of the frame codec and are taken from there.
-/
namespace BbtInfra.Rpc

open Lib

/-- `kRpcWireProfileVersion`. -/
def kRpcWireProfileVersion : UInt32 := 1
/-- `kMaxRemainingBudgetMs`: 24 hours. -/
def kMaxRemainingBudgetMs : UInt32 := 86400000

/-- `RpcWireEnvelope`, with the defaults of the source. -/
structure RpcWireEnvelope where
  profileVersion : UInt32 := kRpcWireProfileVersion
  requestId : Bytes := []
  service : Bytes := []
  method : Bytes := []
  remainingBudgetMs : UInt32 := 0
  requestSchema : Bytes := []
  responseSchema : Bytes := []
  payload : Bytes := []
  metadata : Metadata := []
  success : Bool := true
  error : Error := {}
  deriving DecidableEq, Repr

namespace RpcWireEnvelope

/-- The identifier fields are not text. -/
def malformed (env : RpcWireEnvelope) : Bool :=
  !isValidUtf8 env.requestId || !isValidUtf8 env.service || !isValidUtf8 env.method ||
    !isValidUtf8 env.requestSchema || !isValidUtf8 env.responseSchema

/-- The checks of `FillProto`. -/
def checkSent (env : RpcWireEnvelope) (isResponse : Bool) : Except Error Unit := do
  refuse (env.profileVersion ≠ kRpcWireProfileVersion)
    (makeError .invalidArgument (text "unsupported profile_version"))
  refuse (env.requestId = [] ∨ env.service = [] ∨ env.method = [])
    (makeError .invalidArgument (text "request_id/service/method must be non-empty"))
  refuse (env.malformed = true)
    (makeError .invalidArgument (text "identifier fields not valid UTF-8"))
  refuse (env.remainingBudgetMs = 0)
    (makeError .invalidArgument (text "remaining_budget_ms zero is rejected"))
  refuse (env.remainingBudgetMs > kMaxRemainingBudgetMs)
    (makeError .invalidArgument (text "remaining_budget_ms exceeds max"))
  validateMetadata env.metadata
  refuse (isResponse = false ∧ env.success = false)
    (makeError .invalidArgument
      (text "request envelope must not carry failure outcome (success=false is response-only)"))
  if isResponse = true ∧ env.success = false then validateErrorBranch env.error else .ok ()

/-- The checks of `FromProto` on the value that it has read. -/
def checkRead (env : RpcWireEnvelope) : Except Error Unit := do
  refuse (env.requestId = [] ∨ env.service = [] ∨ env.method = [])
    (makeError .invalidArgument (text "decoded envelope missing required identifier"))
  refuse (env.malformed = true)
    (makeError .invalidArgument (text "decoded identifier fields not valid UTF-8"))
  refuse (env.remainingBudgetMs = 0)
    (makeError .invalidArgument (text "decoded remaining_budget_ms zero is rejected"))
  refuse (env.remainingBudgetMs > kMaxRemainingBudgetMs)
    (makeError .invalidArgument (text "decoded remaining_budget_ms exceeds max"))
  validateMetadata env.metadata
  if env.success = false then validateErrorBranch env.error else .ok ()

/-- The `outcome` that `FillProto` sets. -/
def filledOutcome (env : RpcWireEnvelope) (isResponse : Bool) : Pb.Outcome :=
  if isResponse then
    if env.success then .success true else .error (fillError env.error)
  else .absent

/-- `FillProto`. -/
def fillProto (env : RpcWireEnvelope) (isResponse : Bool) : Except Error Pb.RpcEnvelopeMsg := do
  env.checkSent isResponse
  return {
    profileVersion := env.profileVersion
    requestId := env.requestId
    service := env.service
    method := env.method
    remainingBudgetMs := env.remainingBudgetMs
    requestSchema := env.requestSchema
    responseSchema := env.responseSchema
    payload := env.payload
    metadata := env.metadata
    outcome := env.filledOutcome isResponse }

/-- The outcome that `FromProto` reads: whether it is a success, and the error. -/
def readOutcome (isResponse : Bool) : Pb.Outcome → Except Error (Bool × Error)
  | .error message =>
    if isResponse then do return (false, ← readError message)
    else .error (makeError .protocolError (text "request envelope must not set outcome"))
  | .success value =>
    if isResponse then
      if value then .ok (true, {})
      else .error (makeError .protocolError (text "response success=false without error"))
    else .error (makeError .protocolError (text "request envelope must not set outcome"))
  | .absent =>
    if isResponse then
      .error (makeError .protocolError (text "response envelope missing outcome oneof"))
    else .ok (true, {})

/-- `FromProto`. -/
def fromProto (message : Pb.RpcEnvelopeMsg) (isResponse : Bool) : Except Error RpcWireEnvelope := do
  refuse (message.profileVersion ≠ kRpcWireProfileVersion)
    (makeError .protocolError (text "unsupported profile_version"))
  let (success, error) ← readOutcome isResponse message.outcome
  let env : RpcWireEnvelope := {
    profileVersion := message.profileVersion
    requestId := message.requestId
    service := message.service
    method := message.method
    remainingBudgetMs := message.remainingBudgetMs
    requestSchema := message.requestSchema
    responseSchema := message.responseSchema
    payload := message.payload
    metadata := message.metadata
    success, error }
  env.checkRead
  return env

/-- `ValidateRpcWireEnvelope`. -/
def validate (env : RpcWireEnvelope) (isResponse : Bool) : Except Error Unit := do
  let _ ← env.fillProto isResponse
  return ()

/-- `EncodeRpcWireEnvelope`. -/
def encode (protobuf : EnvelopeProtobuf) (env : RpcWireEnvelope) (isResponse : Bool) :
    Except Error Bytes := do
  let message ← env.fillProto isResponse
  match protobuf.serialize message with
  | none => .error (makeError .protocolError (text "protobuf serialize failed"))
  | some bytes => .ok bytes

/-- `DecodeRpcWireEnvelope`. -/
def decode (protobuf : EnvelopeProtobuf) (bytes : Bytes) (isResponse : Bool) :
    Except Error RpcWireEnvelope :=
  if bytes = [] then .error (makeError .protocolError (text "empty envelope bytes"))
  else
    match protobuf.parse bytes with
    | none => .error (makeError .protocolError (text "envelope parse failed"))
    | some message => fromProto message isResponse

/-- The envelope that arrives: a success has no error, and the integers of an error have the width
of the wire. -/
def carried (env : RpcWireEnvelope) : RpcWireEnvelope :=
  { env with error := if env.success then {} else Error.carried env.error }

/-- The envelope without the error beside a success. -/
def meaningful (env : RpcWireEnvelope) : RpcWireEnvelope :=
  { env with error := if env.success then {} else env.error }

/-- The runtime serializes the message of this envelope, if it has one. -/
def Serializes (protobuf : EnvelopeProtobuf) (env : RpcWireEnvelope) (isResponse : Bool) : Prop :=
  ∀ message, env.fillProto isResponse = .ok message → ∃ bytes, protobuf.serialize message = some bytes

variable {env : RpcWireEnvelope} {isResponse : Bool} {protobuf : EnvelopeProtobuf} {bytes : Bytes}

/-- The rules of one side are those of the other: a request has no failure to tell. -/
theorem checkSent_ok :
    env.checkSent isResponse = .ok () ↔
      env.profileVersion = kRpcWireProfileVersion ∧ (isResponse = false → env.success = true) ∧
        env.checkRead = .ok () := by
  simp only [checkSent, checkRead, checks_ok, refuse_ok, Decidable.not_not]
  cases isResponse <;> cases env.success <;> simp

/-- An envelope passes the rules exactly when it has a message. -/
theorem validate_ok : env.validate isResponse = .ok () ↔ env.checkSent isResponse = .ok () := by
  simp only [validate, fillProto, Bind.bind, Except.bind, pure, Except.pure]
  cases env.checkSent isResponse <;> simp

/-- The message of an envelope. -/
theorem fillProto_ok {message : Pb.RpcEnvelopeMsg} :
    env.fillProto isResponse = .ok message ↔ env.checkSent isResponse = .ok () ∧
      message = {
        profileVersion := env.profileVersion
        requestId := env.requestId
        service := env.service
        method := env.method
        remainingBudgetMs := env.remainingBudgetMs
        requestSchema := env.requestSchema
        responseSchema := env.responseSchema
        payload := env.payload
        metadata := env.metadata
        outcome := env.filledOutcome isResponse } := by
  simp only [fillProto, checks_ok, pure, Except.pure, Except.ok.injEq]
  exact and_congr_right fun _ => eq_comm

/-- The rules read nothing that does not arrive. -/
theorem checkRead_carried : env.carried.checkRead = env.checkRead := by
  unfold carried checkRead
  cases env.success <;> rfl

/-- A filled message holds well-formed text. -/
theorem fillProto_utf8 {message : Pb.RpcEnvelopeMsg}
    (filled : env.fillProto isResponse = .ok message) : message.Utf8 := by
  obtain ⟨checked, rfl⟩ := fillProto_ok.mp filled
  simp only [checkSent, checks_ok, refuse_ok] at checked
  obtain ⟨-, -, wellFormed, -, -, metadata, -, error⟩ := checked
  simp only [malformed, Bool.or_eq_true, Bool.not_eq_true', not_or, Bool.not_eq_false] at wellFormed
  obtain ⟨⟨⟨⟨requestId, service⟩, method⟩, requestSchema⟩, responseSchema⟩ := wellFormed
  simp only [validateMetadata, checks_ok] at metadata
  refine ⟨requestId, service, method, requestSchema, responseSchema,
    validateMetadataFrom_utf8 metadata.2, ?_⟩
  intro failure sent
  simp only [filledOutcome] at sent
  split_ifs at sent with response success
  cases sent
  rw [if_pos ⟨response, by simpa using success⟩] at error
  have branch := validateErrorBranch_utf8 error
  exact ⟨branch.domain, branch.domainCode, branch.message, branch.backendCategory, branch.details⟩

/-- The outcome of a filled message is read back. -/
theorem readOutcome_filled (checked : env.checkSent isResponse = .ok ()) :
    readOutcome isResponse (env.filledOutcome isResponse) = .ok (env.success, env.carried.error) := by
  obtain ⟨-, direction, read⟩ := checkSent_ok.mp checked
  simp only [checkRead, checks_ok] at read
  have branch := read.2.2.2.2.2
  unfold filledOutcome carried
  cases isResponse with
  | false => simp [readOutcome, direction rfl]
  | true =>
    cases success : env.success with
    | false =>
      rw [if_pos success] at branch
      have named := validateErrorBranch_phase branch
      simp [readOutcome, readError, fillError, Error.carried, Bind.bind, Except.bind, pure,
        Except.pure, fromProtoRequestPhase_toProto named]
    | true => simp [readOutcome]

/-- What is filled in is read back. -/
theorem fromProto_fillProto {message : Pb.RpcEnvelopeMsg}
    (filled : env.fillProto isResponse = .ok message) :
    fromProto message isResponse = .ok env.carried := by
  obtain ⟨checked, rfl⟩ := fillProto_ok.mp filled
  obtain ⟨version, -, read⟩ := checkSent_ok.mp checked
  rw [← checkRead_carried] at read
  simp only [fromProto, readOutcome_filled checked, version, refuse, Bind.bind, Except.bind, pure,
    Except.pure, ne_eq, not_true_eq_false, if_false]
  have same : ({
      profileVersion := kRpcWireProfileVersion
      requestId := env.requestId
      service := env.service
      method := env.method
      remainingBudgetMs := env.remainingBudgetMs
      requestSchema := env.requestSchema
      responseSchema := env.responseSchema
      payload := env.payload
      metadata := env.metadata
      success := env.success
      error := env.carried.error } : RpcWireEnvelope) = env.carried := by
    rw [carried, ← version]
  rw [same, read]

/-- The bytes of an envelope are the serialization of its message. -/
theorem encode_ok :
    env.encode protobuf isResponse = .ok bytes ↔
      ∃ message, env.fillProto isResponse = .ok message ∧ protobuf.serialize message = some bytes := by
  unfold encode
  cases filled : env.fillProto isResponse with
  | error error => simp [Bind.bind, Except.bind]
  | ok message =>
    simp only [Bind.bind, Except.bind, Except.ok.injEq, exists_eq_left']
    cases protobuf.serialize message <;> simp

section Faithful

variable (faithful : protobuf.Faithful)
include faithful

/-- What an envelope is encoded to is decoded to what arrives. -/
theorem decode_encode (encoded : env.encode protobuf isResponse = .ok bytes) :
    decode protobuf bytes isResponse = .ok env.carried := by
  obtain ⟨message, filled, serialized⟩ := encode_ok.mp encoded
  have parsed := faithful.parse_serialize _ _ (fillProto_utf8 filled) serialized
  -- The version of a filled message is not the default, so it has bytes.
  have present : bytes ≠ [] := by
    rintro rfl
    obtain ⟨checked, same⟩ := fillProto_ok.mp filled
    have version : message.profileVersion = kRpcWireProfileVersion := by
      rw [same]
      exact (checkSent_ok.mp checked).1
    rw [faithful.parse_nil, Option.some.injEq] at parsed
    rw [← parsed] at version
    exact absurd version (by decide)
  unfold decode
  rw [if_neg present, parsed]
  exact fromProto_fillProto filled

/-- An envelope that passes the rules and serializes is encoded, and decoded to what arrives. -/
theorem encode_of_valid (valid : env.validate isResponse = .ok ())
    (serializes : env.Serializes protobuf isResponse) :
    ∃ bytes, env.encode protobuf isResponse = .ok bytes ∧
      decode protobuf bytes isResponse = .ok env.carried := by
  have filled := fillProto_ok.mpr ⟨validate_ok.mp valid, rfl⟩
  obtain ⟨bytes, serialized⟩ := serializes _ filled
  have encoded := encode_ok.mpr ⟨_, filled, serialized⟩
  exact ⟨bytes, encoded, decode_encode faithful encoded⟩

end Faithful

/-- An outcome that was read stays as it is on the way back. -/
theorem readOutcome_carried {message : Pb.Outcome} {success : Bool} {error : Error}
    (read : readOutcome isResponse message = .ok (success, error)) :
    (isResponse = false → success = true) ∧ (if success then {} else Error.carried error) = error := by
  cases message with
  | absent =>
    cases isResponse <;> simp only [readOutcome] at read <;> cases read
    exact ⟨fun _ => rfl, rfl⟩
  | success value =>
    cases isResponse <;> cases value <;> simp only [readOutcome] at read <;> cases read
    exact ⟨fun _ => rfl, rfl⟩
  | error failure =>
    cases isResponse with
    | false => cases read
    | true =>
      simp only [readOutcome, readError, Bind.bind, Except.bind, pure, Except.pure, if_true] at read
      cases phase : fromProtoRequestPhase failure.requestPhase with
      | error refused => simp [phase] at read
      | ok value =>
        simp only [phase, Except.ok.injEq, Prod.mk.injEq] at read
        obtain ⟨rfl, rfl⟩ := read
        simp [Error.carried]

/-- A decoded envelope passes the rules of its direction, and stays as it is on the way back. -/
theorem decode_ok {env : RpcWireEnvelope} (decoded : decode protobuf bytes isResponse = .ok env) :
    env.checkSent isResponse = .ok () ∧ env.carried = env := by
  unfold decode at decoded
  split_ifs at decoded
  split at decoded
  · cases decoded
  · next message parsed =>
    simp only [fromProto, checks_ok, refuse_ok, Decidable.not_not] at decoded
    obtain ⟨version, decoded⟩ := decoded
    obtain ⟨⟨success, error⟩, outcome, decoded⟩ := bind_ok decoded
    obtain ⟨direction, same⟩ := readOutcome_carried outcome
    simp only [checks_ok, pure, Except.pure, Except.ok.injEq] at decoded
    obtain ⟨read, rfl⟩ := decoded
    refine ⟨checkSent_ok.mpr ⟨version, direction, read⟩, ?_⟩
    simp only [carried, same]

end RpcWireEnvelope

/-- An `RpcWireEnvelope` variable. Its error takes the place of the error of `fields`. -/
structure NativeEnvelope where
  fields : RpcWireEnvelope
  error : NativeError := {}
  deriving DecidableEq, Repr

/-- The envelope as the codec sees it. -/
def NativeEnvelope.seen (native : NativeEnvelope) : RpcWireEnvelope :=
  { native.fields with error := native.error.seen }

/-- What arrives of an envelope is what has a meaning. -/
theorem NativeEnvelope.carried_seen (native : NativeEnvelope) :
    native.seen.carried = native.seen.meaningful := by
  have error : Error.carried native.seen.error = native.seen.error := native.error.carried_seen
  rw [RpcWireEnvelope.carried, RpcWireEnvelope.meaningful, error]

open RpcWireEnvelope in
/-- An envelope that passes the rules of its direction comes back from the wire but for the error
beside a success, and an envelope that came from the wire passes the rules and goes back
unchanged. -/
theorem rpc_wire_round_trip {protobuf : EnvelopeProtobuf} (faithful : protobuf.Faithful)
    (isResponse : Bool) :
    (∀ native : NativeEnvelope, native.seen.validate isResponse = .ok () →
      native.seen.Serializes protobuf isResponse →
      ∃ bytes, native.seen.encode protobuf isResponse = .ok bytes ∧
        decode protobuf bytes isResponse = .ok native.seen.meaningful) ∧
    (∀ bytes env, decode protobuf bytes isResponse = .ok env →
      env.validate isResponse = .ok () ∧
      (env.Serializes protobuf isResponse →
        ∃ again, env.encode protobuf isResponse = .ok again ∧
          decode protobuf again isResponse = .ok env)) := by
  constructor
  · intro native valid serializes
    rw [← native.carried_seen]
    exact RpcWireEnvelope.encode_of_valid faithful valid serializes
  · intro bytes env decoded
    obtain ⟨checked, same⟩ := decode_ok decoded
    have valid := validate_ok.mpr checked
    refine ⟨valid, fun serializes => ?_⟩
    obtain ⟨again, encoded, returned⟩ :=
      RpcWireEnvelope.encode_of_valid faithful valid serializes
    rw [same] at returned
    exact ⟨again, encoded, returned⟩

/-- A failed answer whose error code has no enumerator. -/
def failedAnswer : NativeEnvelope where
  fields := { requestId := text "r1", service := text "s", method := text "m",
              remainingBudgetMs := 5, metadata := [(text "fw.a", text "1")], success := false }
  error := { code := 99, message := text "no", backendCode := Int32.minValue,
             requestPhase := some .writing }

/-- The runtime serializes an envelope whose message is below 2 GiB. -/
theorem RpcWireEnvelope.serializes_of_small {env : RpcWireEnvelope} {isResponse : Bool}
    (small : (env.fillProto isResponse).toOption.all fun message =>
      decide (message.sizeBound < Pb.messageLimit)) : env.Serializes Pb.envelopeRuntime isResponse := by
  intro message filled
  simp only [filled, Except.toOption, Option.all_some, decide_eq_true_eq] at small
  exact Pb.envelopeRuntime_faithful.serialize_small message small

/-- It arrives as an internal error, and goes back as it arrived. -/
theorem rpc_wire_round_trip_failed : ∃ bytes again,
    failedAnswer.seen.encode Pb.envelopeRuntime true = .ok bytes ∧
      RpcWireEnvelope.decode Pb.envelopeRuntime bytes true = .ok failedAnswer.seen ∧
      failedAnswer.seen.encode Pb.envelopeRuntime true = .ok again ∧
      RpcWireEnvelope.decode Pb.envelopeRuntime again true = .ok failedAnswer.seen := by
  have serializes : failedAnswer.seen.Serializes Pb.envelopeRuntime true :=
    RpcWireEnvelope.serializes_of_small (by decide +kernel)
  obtain ⟨there, back⟩ := rpc_wire_round_trip Pb.envelopeRuntime_faithful true
  obtain ⟨bytes, encoded, decoded⟩ := there failedAnswer (by decide +kernel) serializes
  obtain ⟨-, returns⟩ := back bytes failedAnswer.seen decoded
  obtain ⟨again, encoded', decoded'⟩ := returns serializes
  exact ⟨bytes, again, encoded, decoded, encoded', decoded'⟩

end BbtInfra.Rpc
