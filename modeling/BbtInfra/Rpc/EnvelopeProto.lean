import BbtInfra.Rpc.FrameProto

/-!
# The protobuf encoding of an envelope

The message of `rpc_envelope.proto` and the runtime that the envelope codec calls, which is a
parameter: `EnvelopeProtobuf` is the pair of calls, `EnvelopeProtobuf.Faithful` what their
documentation promises. The field numbers and types of the message over the wire format, with the
scalar fields, entries and errors of the frame, are a faithful runtime.
-/
namespace BbtInfra.Rpc

namespace Pb

/-- `RpcEnvelopeMsg`, with the proto3 defaults. -/
structure RpcEnvelopeMsg where
  profileVersion : UInt32 := 0
  requestId : Bytes := []
  service : Bytes := []
  method : Bytes := []
  remainingBudgetMs : UInt32 := 0
  requestSchema : Bytes := []
  responseSchema : Bytes := []
  payload : Bytes := []
  metadata : List (Bytes × Bytes) := []
  outcome : Outcome := .absent
  deriving DecidableEq, Repr

/-- The `string` fields of an envelope hold well-formed text. -/
structure RpcEnvelopeMsg.Utf8 (message : RpcEnvelopeMsg) : Prop where
  requestId : isValidUtf8 message.requestId = true
  service : isValidUtf8 message.service = true
  method : isValidUtf8 message.method = true
  requestSchema : isValidUtf8 message.requestSchema = true
  responseSchema : isValidUtf8 message.responseSchema = true
  metadata : ∀ pair ∈ message.metadata, isValidUtf8 pair.1 = true ∧ isValidUtf8 pair.2 = true
  error : ∀ error, message.outcome = .error error → error.Utf8

/-- A bound of the serialized size of an envelope. -/
def RpcEnvelopeMsg.sizeBound (message : RpcEnvelopeMsg) : Nat :=
  8 * fieldBound + message.requestId.length + message.service.length + message.method.length +
    message.requestSchema.length + message.responseSchema.length + message.payload.length +
    entriesBound message.metadata + message.outcome.sizeBound

end Pb

/-- The protobuf runtime for envelopes. -/
structure EnvelopeProtobuf where
  serialize : Pb.RpcEnvelopeMsg → Option Bytes
  parse : Bytes → Option Pb.RpcEnvelopeMsg

/-- What the codec relies on in the protobuf runtime. -/
structure EnvelopeProtobuf.Faithful (protobuf : EnvelopeProtobuf) : Prop where
  /-- A serialized message is parsed back, provided its `string` fields hold text. -/
  parse_serialize : ∀ message bytes, message.Utf8 → protobuf.serialize message = some bytes →
    protobuf.parse bytes = some message
  /-- No bytes are the message with every field at its default. -/
  parse_nil : protobuf.parse [] = some {}
  /-- Messages below 2 GiB serialize. -/
  serialize_small : ∀ message, message.sizeBound < Pb.messageLimit →
    ∃ bytes, protobuf.serialize message = some bytes

namespace Pb

open Lib.ProtoWire RpcEnvelopeMsg List

/-- The `outcome` oneof of an envelope: field 10 or field 11. -/
def Outcome.envelopeRecords : Outcome → List Record
  | .absent => []
  | .success value => recordsOf 10 [boolValue value]
  | .error failure => recordsOf 11 [.bytes (encodeRecords failure.records)]

/-- The records of the `outcome` oneof. -/
def envelopeOutcomeFields (records : List Record) : List Record :=
  records.filter fun record => record.field = 10 || record.field = 11

/-- Read the `outcome` oneof: the last of its fields counts. Two `error` records are not merged, as
no writer here sends two. -/
def readEnvelopeOutcome (records : List Record) : Option Outcome :=
  match (envelopeOutcomeFields records).getLast? with
  | some { field := 10, value := .varint value } => some (.success (value ≠ 0))
  | some { field := 11, value := .bytes content } => do some (.error (← readRpcError content))
  | _ => some .absent

/-- `RpcEnvelopeMsg`, in field order. -/
def RpcEnvelopeMsg.records (message : RpcEnvelopeMsg) : List Record :=
  recordsOf 1 (uint32Field message.profileVersion) ++ recordsOf 2 (bytesField message.requestId) ++
  recordsOf 3 (bytesField message.service) ++ recordsOf 4 (bytesField message.method) ++
  recordsOf 5 (uint32Field message.remainingBudgetMs) ++
  recordsOf 6 (bytesField message.requestSchema) ++ recordsOf 7 (bytesField message.responseSchema) ++
  recordsOf 8 (bytesField message.payload) ++ recordsOf 9 (entriesField message.metadata) ++
  message.outcome.envelopeRecords

/-- The `string` fields of an envelope, as the parser checks them. -/
def RpcEnvelopeMsg.checkUtf8 (message : RpcEnvelopeMsg) : Bool :=
  isValidUtf8 message.requestId && isValidUtf8 message.service && isValidUtf8 message.method &&
    isValidUtf8 message.requestSchema && isValidUtf8 message.responseSchema &&
    entriesUtf8 message.metadata &&
    match message.outcome with
    | .error failure => failure.checkUtf8
    | _ => true

/-- Read an `RpcEnvelopeMsg`. -/
def readRpcEnvelopeMsg (records : List Record) : Option RpcEnvelopeMsg := do
  let metadata ← readEntries (values 9 records)
  let outcome ← readEnvelopeOutcome records
  let message : RpcEnvelopeMsg := {
    profileVersion := readUint32 (values 1 records)
    requestId := readBytes (values 2 records)
    service := readBytes (values 3 records)
    method := readBytes (values 4 records)
    remainingBudgetMs := readUint32 (values 5 records)
    requestSchema := readBytes (values 6 records)
    responseSchema := readBytes (values 7 records)
    payload := readBytes (values 8 records)
    metadata, outcome }
  if message.checkUtf8 then some message else none

/-- The runtime of `rpc_envelope.proto`. -/
def envelopeRuntime : EnvelopeProtobuf where
  serialize message :=
    if (encodeRecords message.records).length < messageLimit then
      some (encodeRecords message.records)
    else none
  parse bytes := do readRpcEnvelopeMsg (← decodeRecords bytes)

variable {message : RpcEnvelopeMsg}

/-- Every record of an outcome is within the format. -/
theorem written_envelopeOutcome (outcome : Outcome) : Written outcome.envelopeRecords := by
  cases outcome with
  | absent => exact written_nil
  | success value => exact written_single (written_bool (by decide) value)
  | error failure => exact written_single ⟨by simp, trivial⟩

/-- Every record of an envelope is within the format. -/
theorem written_rpcEnvelopeMsg (message : RpcEnvelopeMsg) : Written message.records := by
  unfold records
  simp (disch := decide) only [written_append, written_uint32, written_bytes, written_entries,
    written_envelopeOutcome, and_self]

/-- No other field is part of the oneof. -/
theorem envelopeOutcomeFields_recordsOf {field : Nat} (other : field ≠ 10 ∧ field ≠ 11)
    (all : List Value) : envelopeOutcomeFields (recordsOf field all) = [] := by
  simp [envelopeOutcomeFields, recordsOf, filter_map, Function.comp_def, other.1, other.2]

/-- The oneof records of an envelope are those of its outcome. -/
theorem envelopeOutcomeFields_records (message : RpcEnvelopeMsg) :
    envelopeOutcomeFields message.records = message.outcome.envelopeRecords := by
  have appended : ∀ records others : List Record, envelopeOutcomeFields (records ++ others) =
      envelopeOutcomeFields records ++ envelopeOutcomeFields others :=
    fun records others => filter_append ..
  have own : envelopeOutcomeFields message.outcome.envelopeRecords =
      message.outcome.envelopeRecords := by
    cases message.outcome <;> rfl
  unfold RpcEnvelopeMsg.records
  simp (disch := decide) only [appended, envelopeOutcomeFields_recordsOf, own, nil_append]

/-- An outcome has no other field. -/
theorem values_envelopeOutcome {field : Nat} (other : field ≠ 10 ∧ field ≠ 11) (outcome : Outcome) :
    values field outcome.envelopeRecords = [] := by
  cases outcome with
  | absent => rfl
  | success value => exact values_recordsOf_ne other.1.symm _
  | error failure => exact values_recordsOf_ne other.2.symm _

/-- An outcome is read back. -/
theorem readEnvelopeOutcome_records (small : (encodeRecords message.records).length < 2 ^ 64) :
    readEnvelopeOutcome message.records = some message.outcome := by
  unfold readEnvelopeOutcome
  rw [envelopeOutcomeFields_records]
  cases carried : message.outcome with
  | absent => rfl
  | success value => cases value <;> rfl
  | error failure =>
    have inside : { field := 11, value := .bytes (encodeRecords failure.records) } ∈
        message.records := by
      unfold records
      rw [carried]
      exact mem_append_right _ (mem_singleton_self _)
    have part := (content_length_le inside).trans_lt small
    simp only [Outcome.envelopeRecords, recordsOf, map_cons, map_nil,
      getLast?_singleton, readRpcError_records part, Option.bind_eq_bind, Option.bind_some]

/-- An envelope of text passes the parser's check. -/
theorem envelope_checkUtf8_of (utf8 : message.Utf8) : message.checkUtf8 = true := by
  unfold checkUtf8
  simp only [utf8.requestId, utf8.service, utf8.method, utf8.requestSchema, utf8.responseSchema,
    entriesUtf8_of utf8.metadata, Bool.and_self, Bool.true_and]
  cases carried : message.outcome with
  | absent => rfl
  | success value => rfl
  | error failure => exact rpcError_checkUtf8_of (utf8.error failure carried)

/-- An envelope is read back from its records. -/
theorem readRpcEnvelopeMsg_records (utf8 : message.Utf8)
    (small : (encodeRecords message.records).length < 2 ^ 64) :
    readRpcEnvelopeMsg message.records = some message := by
  have part : ∀ record ∈ recordsOf 9 (entriesField message.metadata), record ∈ message.records :=
    fun record member => mem_append_left _ (mem_append_right _ member)
  have metadata := readEntries_field (entries_small part small)
  have outcome := readEnvelopeOutcome_records small
  unfold readRpcEnvelopeMsg
  rw [outcome]
  unfold records
  simp (disch := decide) only [values_append, values_recordsOf_self, values_recordsOf_ne,
    values_envelopeOutcome, nil_append, append_nil, metadata, readBytes_field,
    readUint32_field, Option.bind_eq_bind, Option.bind_some]
  exact if_pos (envelope_checkUtf8_of utf8)

/-- An outcome needs its bound. -/
theorem envelopeOutcome_length_le (outcome : Outcome) :
    (encodeRecords outcome.envelopeRecords).length ≤ outcome.sizeBound := by
  cases outcome with
  | absent => simp [Outcome.envelopeRecords]
  | success value =>
    exact scalar_length_le _ (by simp [room, Value.room, boolValue, fieldBound])
  | error failure => exact errorField_length_le _ failure

/-- An envelope needs its bound. -/
theorem rpcEnvelopeMsg_length_le (message : RpcEnvelopeMsg) :
    (encodeRecords message.records).length ≤ message.sizeBound := by
  have version := scalar_length_le 1 (room_uint32 message.profileVersion)
  have requestId := bytes_length_le 2 message.requestId
  have service := bytes_length_le 3 message.service
  have method := bytes_length_le 4 message.method
  have budget := scalar_length_le 5 (room_uint32 message.remainingBudgetMs)
  have asked := bytes_length_le 6 message.requestSchema
  have answered := bytes_length_le 7 message.responseSchema
  have payload := bytes_length_le 8 message.payload
  have metadata := entries_length_le 9 message.metadata
  have outcome := envelopeOutcome_length_le message.outcome
  unfold records sizeBound
  simp only [encodeRecords_append, length_append]
  omega

/-- A serialized envelope is parsed back. -/
theorem envelopeRuntime_parse_serialize {bytes : Bytes} (utf8 : message.Utf8)
    (serialized : envelopeRuntime.serialize message = some bytes) :
    envelopeRuntime.parse bytes = some message := by
  simp only [envelopeRuntime] at serialized ⊢
  split_ifs at serialized with small
  have moderate : (encodeRecords message.records).length < 2 ^ 64 :=
    small.trans (show messageLimit < 2 ^ 64 by decide)
  rw [← Option.some.inj serialized, decode_written (written_rpcEnvelopeMsg message) moderate,
    Option.bind_eq_bind, Option.bind_some, readRpcEnvelopeMsg_records utf8 moderate]

/-- The envelope with every field at its default holds text. -/
theorem envelope_utf8_default : ({} : RpcEnvelopeMsg).Utf8 := by
  constructor <;> simp [isValidUtf8]

/-- The envelope with every field at its default has no records. -/
theorem envelopeRuntime_default : envelopeRuntime.serialize {} = some [] := by
  have empty : encodeRecords ({} : RpcEnvelopeMsg).records = [] := by decide
  decide

/-- The runtime of `rpc_envelope.proto` is faithful. -/
theorem envelopeRuntime_faithful : envelopeRuntime.Faithful where
  parse_serialize _ _ := envelopeRuntime_parse_serialize
  parse_nil := envelopeRuntime_parse_serialize envelope_utf8_default envelopeRuntime_default
  serialize_small message small := by
    have bounded := rpcEnvelopeMsg_length_le message
    refine ⟨encodeRecords message.records, ?_⟩
    simp only [envelopeRuntime]
    rw [if_pos (bounded.trans_lt small)]

end Pb

end BbtInfra.Rpc
