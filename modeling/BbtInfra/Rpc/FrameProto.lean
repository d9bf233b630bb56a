import BbtInfra.Lib.ProtoWire
import BbtInfra.Rpc.Codec

/-!
# The protobuf encoding of a session frame

The field numbers and types of `session_frame.proto`, over the wire format: a writer that
leaves out defaults and writes fields in order, and a reader that takes the last value of a
scalar, keeps the order of repeated fields, skips fields it does not know, and refuses
`string` fields that are not text. It is a faithful runtime for the codec.
-/
namespace BbtInfra.Rpc.Pb

open Lib.ProtoWire List

/-- A `uint64` field. -/
def uint64Field (value : UInt64) : List Value := if value = 0 then [] else [.varint value.toNat]

/-- A `uint32` field. -/
def uint32Field (value : UInt32) : List Value := if value = 0 then [] else [.varint value.toNat]

/-- An `int32` or enumeration value, sign-extended to 64 bits. -/
def int32Value (value : Int32) : Value := .varint (value.toInt % 2 ^ 64).toNat

/-- An `int32` or enumeration field. -/
def int32Field (value : Int32) : List Value := if value = 0 then [] else [int32Value value]

/-- A `bool` value. -/
def boolValue (value : Bool) : Value := .varint value.toNat

/-- A `string` or `bytes` field. -/
def bytesField (value : Bytes) : List Value := if value = [] then [] else [.bytes value]

/-- The last varint of a field. -/
def lastVarint (all : List Value) : Option Nat :=
  (all.filterMap fun
    | .varint value => some value
    | _ => none).getLast?

/-- The length-delimited values of a field. -/
def contents (all : List Value) : List Bytes :=
  all.filterMap fun
    | .bytes content => some content
    | _ => none

/-- Read a `uint64` field. -/
def readUint64 (all : List Value) : UInt64 := UInt64.ofNat ((lastVarint all).getD 0)

/-- Read a `uint32` field: the low 32 bits. -/
def readUint32 (all : List Value) : UInt32 := UInt32.ofNat ((lastVarint all).getD 0)

/-- Read an `int32` or enumeration field: the low 32 bits, in two's complement. -/
def readInt32 (all : List Value) : Int32 := Int32.ofInt (((lastVarint all).getD 0 : Nat) : Int)

/-- Read an `optional` enumeration field. -/
def readOptionalInt32 (all : List Value) : Option Int32 :=
  (lastVarint all).map fun value => Int32.ofInt (value : Int)

/-- Read an `optional bool` field. -/
def readOptionalBool (all : List Value) : Option Bool :=
  (lastVarint all).map fun value => value ≠ 0

/-- Read a `string` or `bytes` field. -/
def readBytes (all : List Value) : Bytes := (contents all).getLast?.getD []

/-- A written `uint64` is read back, the default that is left out too. -/
@[simp] theorem readUint64_field (value : UInt64) : readUint64 (uint64Field value) = value := by
  unfold readUint64 uint64Field
  split_ifs with zero
  · simp [lastVarint, zero]
  · simp [lastVarint]

/-- A written `uint32` is read back. -/
@[simp] theorem readUint32_field (value : UInt32) : readUint32 (uint32Field value) = value := by
  unfold readUint32 uint32Field
  split_ifs with zero
  · simp [lastVarint, zero]
  · simp [lastVarint]

/-- Sign extension keeps the value. -/
theorem ofInt_extended (value : Int32) :
    Int32.ofInt (((value.toInt % 2 ^ 64).toNat : Nat) : Int) = value := by
  have lower := value.le_toInt
  have upper := value.toInt_lt
  rw [Int.toNat_of_nonneg (Int.emod_nonneg _ (by decide)), Int32.ofInt_eq_iff_bmod_eq_toInt]
  rw [Int.bmod_def]
  omega

/-- A written `int32` is read back, a negative one too. -/
@[simp] theorem readInt32_field (value : Int32) : readInt32 (int32Field value) = value := by
  unfold readInt32 int32Field
  split_ifs with zero
  · simp [lastVarint, zero]
  · simpa [lastVarint, int32Value] using ofInt_extended value

/-- A written `optional` enumeration is read back, and so is its absence. -/
@[simp] theorem readOptionalInt32_field (value : Option Int32) :
    readOptionalInt32 (value.map int32Value).toList = value := by
  cases value with
  | none => rfl
  | some value => simpa [readOptionalInt32, lastVarint, int32Value] using ofInt_extended value

/-- A written `optional bool` is read back, and so is its absence. -/
@[simp] theorem readOptionalBool_field (value : Option Bool) :
    readOptionalBool (value.map boolValue).toList = value := by
  cases value with
  | none => rfl
  | some value => cases value <;> rfl

/-- A written text is read back. -/
@[simp] theorem readBytes_field (value : Bytes) : readBytes (bytesField value) = value := by
  unfold readBytes bytesField
  split_ifs with empty
  · simp [contents, empty]
  · simp [contents]

/-- `MetadataEntry`. -/
def entryRecords (entry : Bytes × Bytes) : List Record :=
  recordsOf 1 (bytesField entry.1) ++ recordsOf 2 (bytesField entry.2)

/-- A repeated message field. -/
def entriesField (entries : List (Bytes × Bytes)) : List Value :=
  entries.map fun entry => .bytes (encodeRecords (entryRecords entry))

/-- Read a `MetadataEntry`. -/
def readEntry (content : Bytes) : Option (Bytes × Bytes) := do
  let records ← decodeRecords content
  some (readBytes (values 1 records), readBytes (values 2 records))

/-- Read a repeated message field. -/
def readEntries (all : List Value) : Option (List (Bytes × Bytes)) := (contents all).mapM readEntry

/-- `RpcError`. -/
def RpcError.records (error : RpcError) : List Record :=
  recordsOf 1 (int32Field error.code) ++ recordsOf 2 (bytesField error.domain) ++
  recordsOf 3 (bytesField error.domainCode) ++ recordsOf 4 (bytesField error.message) ++
  recordsOf 5 (bytesField error.backendCategory) ++ recordsOf 6 (int32Field error.backendCode) ++
  recordsOf 7 (uint64Field error.transferredBytes) ++ recordsOf 8 (entriesField error.details) ++
  recordsOf 9 (error.requestPhase.map int32Value).toList

/-- Read an `RpcError`. -/
def readRpcError (content : Bytes) : Option RpcError := do
  let records ← decodeRecords content
  let details ← readEntries (values 8 records)
  some {
    code := readInt32 (values 1 records)
    domain := readBytes (values 2 records)
    domainCode := readBytes (values 3 records)
    message := readBytes (values 4 records)
    backendCategory := readBytes (values 5 records)
    backendCode := readInt32 (values 6 records)
    transferredBytes := readUint64 (values 7 records)
    details
    requestPhase := readOptionalInt32 (values 9 records) }

/-- The `outcome` oneof: field 18 or field 19. -/
def Outcome.records : Outcome → List Record
  | .absent => []
  | .success value => recordsOf 18 [boolValue value]
  | .error failure => recordsOf 19 [.bytes (encodeRecords failure.records)]

/-- The records of the `outcome` oneof. -/
def outcomeFields (records : List Record) : List Record :=
  records.filter fun record => record.field = 18 || record.field = 19

/-- Read the `outcome` oneof: the last of its fields counts. Two `error` records are not
merged, as no writer here sends two. -/
def readOutcomeField (records : List Record) : Option Outcome :=
  match (outcomeFields records).getLast? with
  | some { field := 18, value := .varint value } => some (.success (value ≠ 0))
  | some { field := 19, value := .bytes content } => do some (.error (← readRpcError content))
  | _ => some .absent

/-- `SessionFrame`, in field order. -/
def SessionFrame.records (message : SessionFrame) : List Record :=
  recordsOf 1 (uint32Field message.profileVersion) ++ recordsOf 2 (int32Field message.frameKind) ++
  recordsOf 3 (int32Field message.trafficClass) ++ recordsOf 4 (bytesField message.peerIdentity) ++
  recordsOf 5 (uint64Field message.sessionEpoch) ++ recordsOf 6 (bytesField message.messageId) ++
  recordsOf 7 (bytesField message.requestId) ++ recordsOf 8 (bytesField message.service) ++
  recordsOf 9 (bytesField message.method) ++ recordsOf 10 (int32Field message.replyMode) ++
  recordsOf 11 (uint64Field message.sequence) ++ recordsOf 12 (bytesField message.orderingKey) ++
  recordsOf 13 (uint32Field message.remainingBudgetMs) ++
  recordsOf 14 (bytesField message.requestSchema) ++
  recordsOf 15 (bytesField message.responseSchema) ++ recordsOf 16 (bytesField message.payload) ++
  recordsOf 17 (entriesField message.metadata) ++ message.outcome.records ++
  recordsOf 20 (uint64Field message.connectionNonce) ++
  recordsOf 21 (message.acceptanceRequested.map boolValue).toList

/-- The entries hold text. -/
def entriesUtf8 (entries : List (Bytes × Bytes)) : Bool :=
  entries.all fun entry => isValidUtf8 entry.1 && isValidUtf8 entry.2

/-- The `string` fields of an error, as the parser checks them. -/
def RpcError.checkUtf8 (error : RpcError) : Bool :=
  isValidUtf8 error.domain && isValidUtf8 error.domainCode && isValidUtf8 error.message &&
    isValidUtf8 error.backendCategory && entriesUtf8 error.details

/-- The `string` fields of a message, as the parser checks them. -/
def SessionFrame.checkUtf8 (message : SessionFrame) : Bool :=
  isValidUtf8 message.peerIdentity && isValidUtf8 message.messageId &&
    isValidUtf8 message.requestId && isValidUtf8 message.service && isValidUtf8 message.method &&
    isValidUtf8 message.requestSchema && isValidUtf8 message.responseSchema &&
    entriesUtf8 message.metadata &&
    match message.outcome with
    | .error failure => failure.checkUtf8
    | _ => true

/-- Read a `SessionFrame`. -/
def readSessionFrame (records : List Record) : Option SessionFrame := do
  let metadata ← readEntries (values 17 records)
  let outcome ← readOutcomeField records
  let message : SessionFrame := {
    profileVersion := readUint32 (values 1 records)
    frameKind := readInt32 (values 2 records)
    trafficClass := readInt32 (values 3 records)
    peerIdentity := readBytes (values 4 records)
    sessionEpoch := readUint64 (values 5 records)
    messageId := readBytes (values 6 records)
    requestId := readBytes (values 7 records)
    service := readBytes (values 8 records)
    method := readBytes (values 9 records)
    replyMode := readInt32 (values 10 records)
    sequence := readUint64 (values 11 records)
    orderingKey := readBytes (values 12 records)
    remainingBudgetMs := readUint32 (values 13 records)
    requestSchema := readBytes (values 14 records)
    responseSchema := readBytes (values 15 records)
    payload := readBytes (values 16 records)
    metadata, outcome
    connectionNonce := readUint64 (values 20 records)
    acceptanceRequested := readOptionalBool (values 21 records) }
  if message.checkUtf8 then some message else none

/-- `SerializeToString`. -/
@[irreducible] def serializeToString (message : SessionFrame) : Option Bytes :=
  if (encodeRecords message.records).length < messageLimit then
    some (encodeRecords message.records)
  else none

/-- `ParseFromArray`. -/
def parseFromArray (bytes : Bytes) : Option SessionFrame := do
  readSessionFrame (← decodeRecords bytes)

/-- The runtime of `session_frame.proto`. -/
def runtime : Protobuf where
  serialize := serializeToString
  parse := parseFromArray

variable {field : Nat} {message : SessionFrame} {entries : List (Bytes × Bytes)}

/-- One record within the format. -/
theorem written_single {value : Value} (written : ({ field, value } : Record).Written) :
    Written (recordsOf field [value]) := by
  simpa [recordsOf, Written] using written

section

variable (small : field < 2 ^ 29)

include small

/-- Written scalars are within the format. -/
theorem written_uint64 (value : UInt64) : Written (recordsOf field (uint64Field value)) := by
  unfold uint64Field
  split_ifs
  · exact written_nil
  · exact written_single ⟨small, value.toNat_lt⟩

/-- A `uint32` is within the format. -/
theorem written_uint32 (value : UInt32) : Written (recordsOf field (uint32Field value)) := by
  unfold uint32Field
  split_ifs
  · exact written_nil
  · exact written_single ⟨small, value.toNat_lt.trans (by decide)⟩

/-- An `int32` is, sign extended to 64 bits. -/
theorem written_int32Value (value : Int32) :
    ({ field, value := int32Value value } : Record).Written := by
  refine ⟨small, ?_⟩
  change (value.toInt % 2 ^ 64).toNat < 2 ^ 64
  omega

/-- A field that holds one is. -/
theorem written_int32 (value : Int32) : Written (recordsOf field (int32Field value)) := by
  unfold int32Field
  split_ifs
  · exact written_nil
  · exact written_single (written_int32Value small value)

/-- A text is. -/
theorem written_bytes (value : Bytes) : Written (recordsOf field (bytesField value)) := by
  unfold bytesField
  split_ifs
  · exact written_nil
  · exact written_single ⟨small, trivial⟩

/-- The entries of a map are. -/
theorem written_entries (entries : List (Bytes × Bytes)) :
    Written (recordsOf field (entriesField entries)) := by
  refine written_recordsOf fun wire member => ?_
  obtain ⟨entry, -, rfl⟩ := mem_map.mp member
  exact ⟨small, trivial⟩

end

/-- An `optional` field is within the format if its value is. -/
theorem written_optional {α : Type} (toValue : α → Value)
    (written : ∀ value, ({ field, value := toValue value } : Record).Written) (value : Option α) :
    Written (recordsOf field (value.map toValue).toList) := by
  refine written_recordsOf fun wire member => ?_
  cases value with
  | none => simp at member
  | some value =>
    simp only [Option.map_some, Option.toList_some, mem_singleton] at member
    subst member
    exact written value

/-- A `bool` is within the format. -/
theorem written_bool (small : field < 2 ^ 29) (value : Bool) :
    ({ field, value := boolValue value } : Record).Written :=
  ⟨small, by cases value <;> simp [boolValue]⟩

/-- The two fields of a map entry are. -/
theorem written_entry (entry : Bytes × Bytes) : Written (entryRecords entry) := by
  simp (disch := decide) only [entryRecords, written_append, written_bytes, and_self]

/-- Every field of an error is within the format. -/
theorem written_rpcError (error : RpcError) : Written error.records := by
  simp (disch := decide) only [RpcError.records, written_append, written_int32, written_bytes,
    written_uint64, written_entries, true_and]
  exact written_optional _ (written_int32Value (by decide)) _

/-- The chosen field of the oneof is. -/
theorem written_outcome (outcome : Outcome) : Written outcome.records := by
  cases outcome with
  | absent => exact written_nil
  | success value => exact written_single (written_bool (by decide) value)
  | error failure => exact written_single ⟨by simp, trivial⟩

/-- Every record of a frame is within the format. -/
theorem written_sessionFrame (message : SessionFrame) : Written message.records := by
  unfold SessionFrame.records
  simp (disch := decide) only [written_append, written_int32, written_uint32, written_bytes,
    written_uint64, written_entries, written_outcome, true_and]
  exact written_optional boolValue (fun value => written_bool (by decide) value) _

/-- An entry is read back. -/
theorem readEntry_records {entry : Bytes × Bytes}
    (small : (encodeRecords (entryRecords entry)).length < 2 ^ 64) :
    readEntry (encodeRecords (entryRecords entry)) = some entry := by
  unfold readEntry
  rw [decode_written (written_entry entry) small]
  simp (disch := decide) only [entryRecords, values_append, values_recordsOf_self,
    values_recordsOf_ne, nil_append, append_nil, readBytes_field, Option.bind_eq_bind,
    Option.bind_some]

/-- Entries are read back in order. -/
theorem readEntries_field
    (small : ∀ entry ∈ entries, (encodeRecords (entryRecords entry)).length < 2 ^ 64) :
    readEntries (entriesField entries) = some entries := by
  unfold readEntries entriesField contents
  induction entries with
  | nil => rfl
  | cons entry entries ih =>
    have rest := ih fun other member => small other (by simp [member])
    rw [map_cons, filterMap_cons, mapM_cons,
      readEntry_records (small entry (by simp)), rest]
    rfl

/-- The entries of a field are shorter than the message. -/
theorem entries_small {records : List Record}
    (part : ∀ record ∈ recordsOf field (entriesField entries), record ∈ records)
    (small : (encodeRecords records).length < 2 ^ 64) :
    ∀ entry ∈ entries, (encodeRecords (entryRecords entry)).length < 2 ^ 64 := by
  intro entry member
  have inside := part { field, value := .bytes (encodeRecords (entryRecords entry)) }
    (mem_map_of_mem (mem_map_of_mem member))
  exact (content_length_le inside).trans_lt small

/-- An error is read back. -/
theorem readRpcError_records {error : RpcError}
    (small : (encodeRecords error.records).length < 2 ^ 64) :
    readRpcError (encodeRecords error.records) = some error := by
  have part : ∀ record ∈ recordsOf 8 (entriesField error.details), record ∈ error.records :=
    fun record member => mem_append_left _ (mem_append_right _ member)
  have details := readEntries_field (entries_small part small)
  unfold readRpcError
  rw [decode_written (written_rpcError error) small]
  simp (disch := decide) only [RpcError.records, values_append, values_recordsOf_self,
    values_recordsOf_ne, nil_append, append_nil, details, readBytes_field,
    readInt32_field, readUint64_field, readOptionalInt32_field, Option.bind_eq_bind,
    Option.bind_some]

/-- The fields of the oneof, record by record. -/
theorem outcomeFields_append (records others : List Record) :
    outcomeFields (records ++ others) = outcomeFields records ++ outcomeFields others :=
  filter_append ..

/-- No other field is part of the oneof. -/
theorem outcomeFields_recordsOf (other : field ≠ 18 ∧ field ≠ 19)
    (all : List Value) : outcomeFields (recordsOf field all) = [] := by
  simp [outcomeFields, recordsOf, filter_map, Function.comp_def, other.1, other.2]

/-- The records of an outcome are those of the oneof. -/
theorem outcomeFields_records (outcome : Outcome) :
    outcomeFields outcome.records = outcome.records := by
  cases outcome <;> rfl

/-- An outcome has no other field. -/
theorem values_outcome (other : field ≠ 18 ∧ field ≠ 19) (outcome : Outcome) :
    values field outcome.records = [] := by
  cases outcome with
  | absent => rfl
  | success value => exact values_recordsOf_ne other.1.symm _
  | error failure => exact values_recordsOf_ne other.2.symm _

/-- An outcome is read back. -/
theorem readOutcomeField_records {outcome : Outcome} {records : List Record}
    (only : outcomeFields records = outcome.records)
    (small : ∀ failure, outcome = .error failure → (encodeRecords failure.records).length < 2 ^ 64) :
    readOutcomeField records = some outcome := by
  unfold readOutcomeField
  rw [only]
  cases outcome with
  | absent => rfl
  | success value => cases value <;> rfl
  | error failure =>
    simp only [Outcome.records, recordsOf, map_cons, map_nil, getLast?_singleton,
      readRpcError_records (small failure rfl), Option.bind_eq_bind, Option.bind_some]

/-- Text entries are text. -/
theorem entriesUtf8_of
    (utf8 : ∀ pair ∈ entries, isValidUtf8 pair.1 = true ∧ isValidUtf8 pair.2 = true) :
    entriesUtf8 entries = true := by
  unfold entriesUtf8
  rw [all_eq_true]
  exact fun pair member => by simp [utf8 pair member]

/-- An error of text passes the parser's check. -/
theorem rpcError_checkUtf8_of {error : RpcError} (utf8 : error.Utf8) : error.checkUtf8 = true := by
  simp only [RpcError.checkUtf8, utf8.domain, utf8.domainCode, utf8.message, utf8.backendCategory,
    entriesUtf8_of utf8.details, Bool.and_self]

/-- A message of text passes the parser's check. -/
theorem checkUtf8_of (utf8 : message.Utf8) : message.checkUtf8 = true := by
  unfold SessionFrame.checkUtf8
  simp only [utf8.peerIdentity, utf8.messageId, utf8.requestId, utf8.service, utf8.method,
    utf8.requestSchema, utf8.responseSchema, entriesUtf8_of utf8.metadata, Bool.and_self,
    Bool.true_and]
  cases carried : message.outcome with
  | absent => rfl
  | success value => rfl
  | error failure => exact rpcError_checkUtf8_of (utf8.error failure carried)

/-- The outcome is part of the message. -/
theorem outcome_mem_records {record : Record}
    (member : record ∈ message.outcome.records) : record ∈ message.records := by
  unfold SessionFrame.records
  exact mem_append_left _ (mem_append_left _ (mem_append_right _ member))

/-- The metadata is part of the message. -/
theorem metadata_mem_records {record : Record}
    (member : record ∈ recordsOf 17 (entriesField message.metadata)) :
    record ∈ message.records := by
  unfold SessionFrame.records
  exact mem_append_left _ (mem_append_left _ (mem_append_left _
    (mem_append_right _ member)))

/-- The oneof records of a message are those of its outcome. -/
theorem outcomeFields_sessionFrame (message : SessionFrame) :
    outcomeFields message.records = message.outcome.records := by
  unfold SessionFrame.records
  simp (disch := decide) only [outcomeFields_append, outcomeFields_recordsOf,
    outcomeFields_records, nil_append, append_nil]

/-- A message is read back from its records. -/
theorem readSessionFrame_records (utf8 : message.Utf8)
    (small : (encodeRecords message.records).length < 2 ^ 64) :
    readSessionFrame message.records = some message := by
  have metadata : readEntries (entriesField message.metadata) = some message.metadata :=
    readEntries_field (entries_small (fun _ => metadata_mem_records) small)
  have outcome : readOutcomeField message.records = some message.outcome := by
    refine readOutcomeField_records (outcomeFields_sessionFrame message) fun failure carried => ?_
    have inside : { field := 19, value := .bytes (encodeRecords failure.records) } ∈
        message.records :=
      outcome_mem_records (by rw [carried]; exact mem_singleton_self _)
    exact (content_length_le inside).trans_lt small
  unfold readSessionFrame
  rw [outcome]
  unfold SessionFrame.records
  simp (disch := decide) only [values_append, values_recordsOf_self, values_recordsOf_ne,
    values_outcome, nil_append, append_nil, metadata,
    readBytes_field, readInt32_field, readUint32_field, readUint64_field, readOptionalBool_field,
    Option.bind_eq_bind, Option.bind_some]
  exact if_pos (checkUtf8_of utf8)

/-- A scalar field of a message needs one record at most. -/
theorem scalar_length_le (field : Nat) {all : List Value} (scalar : room all ≤ fieldBound)
    (small : field < 2048 := by decide) :
    (encodeRecords (recordsOf field all)).length ≤ fieldBound :=
  (encodeRecords_recordsOf_length_le small all).trans scalar

/-- A `uint64` fits the room of a scalar. -/
theorem room_uint64 (value : UInt64) : room (uint64Field value) ≤ fieldBound := by
  unfold uint64Field
  split_ifs <;> simp [room, Value.room, fieldBound]

/-- A `uint32` does. -/
theorem room_uint32 (value : UInt32) : room (uint32Field value) ≤ fieldBound := by
  unfold uint32Field
  split_ifs <;> simp [room, Value.room, fieldBound]

/-- An `int32` does, at its ten bytes when it is negative. -/
theorem room_int32 (value : Int32) : room (int32Field value) ≤ fieldBound := by
  unfold int32Field int32Value
  split_ifs <;> simp [room, Value.room, fieldBound]

/-- An `optional` enumeration does. -/
theorem room_optionalInt32 (value : Option Int32) :
    room (value.map int32Value).toList ≤ fieldBound := by
  cases value <;> simp [room, Value.room, fieldBound, int32Value]

/-- An `optional bool` does. -/
theorem room_optionalBool (value : Option Bool) :
    room (value.map boolValue).toList ≤ fieldBound := by
  cases value <;> simp [room, Value.room, fieldBound, boolValue]

/-- A text field needs its bytes besides. -/
theorem bytes_length_le (field : Nat) (value : Bytes) (small : field < 2048 := by decide) :
    (encodeRecords (recordsOf field (bytesField value))).length ≤ fieldBound + value.length := by
  refine (encodeRecords_recordsOf_length_le small _).trans ?_
  unfold bytesField
  split_ifs <;> simp [room, Value.room, fieldBound]

/-- An entry needs two fields. -/
theorem entry_length_le (entry : Bytes × Bytes) :
    (encodeRecords (entryRecords entry)).length ≤
      2 * fieldBound + entry.1.length + entry.2.length := by
  have key := bytes_length_le 1 entry.1
  have value := bytes_length_le 2 entry.2
  rw [entryRecords, encodeRecords_append, length_append]
  omega

/-- Entries need their bound. -/
theorem entries_length_le (field : Nat) (entries : List (Bytes × Bytes))
    (small : field < 2048 := by decide) :
    (encodeRecords (recordsOf field (entriesField entries))).length ≤ entriesBound entries := by
  refine (encodeRecords_recordsOf_length_le small _).trans ?_
  induction entries with
  | nil => simp [entriesField, room, entriesBound]
  | cons entry entries ih =>
    have first := entry_length_le entry
    simp only [entriesField, room, entriesBound, map_cons, sum_cons, Value.room] at ih ⊢
    unfold fieldBound at first ih ⊢
    omega

/-- An error needs its bound. -/
theorem rpcError_length_le (error : RpcError) :
    (encodeRecords error.records).length ≤ error.sizeBound := by
  have code := scalar_length_le 1 (room_int32 error.code)
  have domain := bytes_length_le 2 error.domain
  have domainCode := bytes_length_le 3 error.domainCode
  have message := bytes_length_le 4 error.message
  have category := bytes_length_le 5 error.backendCategory
  have backendCode := scalar_length_le 6 (room_int32 error.backendCode)
  have transferred := scalar_length_le 7 (room_uint64 error.transferredBytes)
  have details := entries_length_le 8 error.details
  have phase := scalar_length_le 9 (room_optionalInt32 error.requestPhase)
  unfold RpcError.records RpcError.sizeBound
  simp only [encodeRecords_append, length_append]
  omega

/-- A field with an error needs its bound. -/
theorem errorField_length_le (field : Nat) (failure : RpcError)
    (small : field < 2048 := by decide) :
    (encodeRecords (recordsOf field [.bytes (encodeRecords failure.records)])).length ≤
      (Outcome.error failure).sizeBound := by
  have inside := rpcError_length_le failure
  refine (encodeRecords_recordsOf_length_le small _).trans ?_
  simp only [room, Value.room, map_cons, map_nil, sum_cons, sum_nil, Outcome.sizeBound]
  unfold fieldBound at *
  omega

/-- An outcome needs its bound. -/
theorem outcome_length_le (outcome : Outcome) :
    (encodeRecords outcome.records).length ≤ outcome.sizeBound := by
  cases outcome with
  | absent => simp [Outcome.records]
  | success value =>
    exact scalar_length_le _ (by simp [room, Value.room, boolValue, fieldBound])
  | error failure => exact errorField_length_le _ failure

/-- A message needs its bound. -/
theorem sessionFrame_length_le (message : SessionFrame) :
    (encodeRecords message.records).length ≤ message.sizeBound := by
  have version := scalar_length_le 1 (room_uint32 message.profileVersion)
  have kind := scalar_length_le 2 (room_int32 message.frameKind)
  have traffic := scalar_length_le 3 (room_int32 message.trafficClass)
  have identity := bytes_length_le 4 message.peerIdentity
  have epoch := scalar_length_le 5 (room_uint64 message.sessionEpoch)
  have messageId := bytes_length_le 6 message.messageId
  have requestId := bytes_length_le 7 message.requestId
  have service := bytes_length_le 8 message.service
  have method := bytes_length_le 9 message.method
  have reply := scalar_length_le 10 (room_int32 message.replyMode)
  have sequence := scalar_length_le 11 (room_uint64 message.sequence)
  have ordering := bytes_length_le 12 message.orderingKey
  have budget := scalar_length_le 13 (room_uint32 message.remainingBudgetMs)
  have asked := bytes_length_le 14 message.requestSchema
  have answered := bytes_length_le 15 message.responseSchema
  have payload := bytes_length_le 16 message.payload
  have metadata := entries_length_le 17 message.metadata
  have outcome := outcome_length_le message.outcome
  have nonce := scalar_length_le 20 (room_uint64 message.connectionNonce)
  have acceptance := scalar_length_le 21 (room_optionalBool message.acceptanceRequested)
  unfold SessionFrame.records SessionFrame.sizeBound
  simp only [encodeRecords_append, length_append]
  omega

/-- The message with every field at its default holds text. -/
theorem utf8_default : ({} : SessionFrame).Utf8 := by
  constructor <;> simp [isValidUtf8]

/-- A serialized message is parsed back. -/
theorem parseFromArray_serializeToString {bytes : Bytes}
    (utf8 : message.Utf8) (serialized : serializeToString message = some bytes) :
    parseFromArray bytes = some message := by
  unfold serializeToString at serialized
  split_ifs at serialized with small
  have moderate : (encodeRecords message.records).length < 2 ^ 64 :=
    small.trans (show messageLimit < 2 ^ 64 by decide)
  unfold parseFromArray
  rw [← Option.some.inj serialized, decode_written (written_sessionFrame message) moderate,
    Option.bind_eq_bind, Option.bind_some, readSessionFrame_records utf8 moderate]

/-- Messages below 2 GiB serialize within their bound. -/
theorem serializeToString_small (small : message.sizeBound < messageLimit) :
    ∃ bytes, serializeToString message = some bytes ∧ bytes.length ≤ message.sizeBound := by
  have bounded := sessionFrame_length_le message
  unfold serializeToString
  rw [if_pos (bounded.trans_lt small)]
  exact ⟨_, rfl, bounded⟩

/-- The message with every field at its default has no records. -/
theorem serializeToString_default : serializeToString {} = some [] := by
  unfold serializeToString
  decide

/-- The runtime of `session_frame.proto` is faithful. -/
theorem runtime_faithful : runtime.Faithful where
  parse_serialize _ _ := parseFromArray_serializeToString
  parse_nil := parseFromArray_serializeToString utf8_default serializeToString_default
  serialize_small _ := serializeToString_small

end BbtInfra.Rpc.Pb
