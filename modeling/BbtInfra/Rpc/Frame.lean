import BbtInfra.Rpc.Owner

/-!
# Session frames

The value type of one frame and the rules that say which fields each kind of frame carries.
The rules run once before encoding and once more behind decoding; only the errors differ.
-/
namespace BbtInfra.Rpc

/-- `kRpcV2ProfileVersion`. -/
def kRpcV2ProfileVersion : UInt32 := 2
/-- `kRpcV2MaxFrameBytes`: hard limit of one body. -/
def kRpcV2MaxFrameBytes : Nat := kNetworkLimitsMaxBodyBytes
/-- `kRpcV2HelloMaxFrameBytes`: limit of a handshake body. -/
def kRpcV2HelloMaxFrameBytes : Nat := 64 * 1024
/-- `kRpcV2MaxPeerIdentityBytes`. -/
def kRpcV2MaxPeerIdentityBytes : Nat := 256
/-- `kRpcV2MaxMessageIdBytes`. -/
def kRpcV2MaxMessageIdBytes : Nat := 128
/-- `kRpcV2MaxOrderingKeyBytes`. -/
def kRpcV2MaxOrderingKeyBytes : Nat := 256
/-- `kRpcV2MaxFieldBytes`: limit of a route, schema or request id. -/
def kRpcV2MaxFieldBytes : Nat := 256
/-- `kRpcV2MaxRemainingBudgetMs`: 24 hours. -/
def kRpcV2MaxRemainingBudgetMs : UInt32 := 86400000

/-- `FrameKind`. -/
inductive FrameKind
  | unspecified | hello | helloAck | call | response | send | sendAccepted | sessionError | close
  deriving DecidableEq, Repr

/-- `TrafficClass`. -/
inductive TrafficClass
  | system | service | actor
  deriving DecidableEq, Repr

/-- `ReplyMode`. -/
inductive ReplyMode
  | none | required
  deriving DecidableEq, Repr

/-- `Metadata`: ordered key and value pairs. -/
abbrev Metadata := List (Bytes × Bytes)

/-- `SessionFrame`, with the defaults of the source. -/
structure SessionFrame where
  kind : FrameKind := .unspecified
  traffic : TrafficClass := .system
  peerIdentity : Bytes := []
  sessionEpoch : UInt64 := 0
  messageId : Bytes := []
  requestId : Bytes := []
  service : Bytes := []
  method : Bytes := []
  reply : ReplyMode := .none
  sequence : UInt64 := 0
  orderingKey : Bytes := []
  remainingBudgetMs : UInt32 := 0
  requestSchema : Bytes := []
  responseSchema : Bytes := []
  payload : Bytes := []
  metadata : Metadata := []
  hasOutcome : Bool := false
  success : Bool := false
  error : Error := {}
  connectionNonce : UInt64 := 0
  acceptanceRequested : Option Bool := none
  deriving DecidableEq, Repr

/-- One check of a validator: a bad value ends it with an error. -/
def refuse (bad : Prop) [Decidable bad] (error : Error) : Except Error Unit :=
  if bad then .error error else .ok ()

/-- A check passes just when nothing is bad. -/
@[simp] theorem refuse_ok (bad : Prop) [Decidable bad] (error : Error) :
    refuse bad error = .ok () ↔ ¬bad := by
  unfold refuse
  split_ifs with fails <;> simp [fails]

/-- A sequence of checks passes when each of them does. -/
theorem checks_ok {β : Type} (first : Except Error Unit) (next : Unit → Except Error β)
    (result : β) :
    (first >>= next) = .ok result ↔ first = .ok () ∧ next () = .ok result := by
  cases first with
  | error | ok => simp [Bind.bind, Except.bind]

/-- `HasMetaPrefix`. -/
def hasMetaPrefix (key : Bytes) : Bool :=
  (text "fw.").isPrefixOf key || (text "route.").isPrefixOf key || (text "trace.").isPrefixOf key

/-- The entry loop of `ValidateMetadata`; `before` are the entries already passed. -/
def validateMetadataFrom (before : Metadata) : Metadata → Except Error Unit
  | [] => .ok ()
  | (key, value) :: rest => do
    refuse (key = [] ∨ key.length > kMaxKeyBytes)
      (makeError .protocolError (text "metadata key empty or exceeds max bytes"))
    refuse (value.length > kMaxValueBytes)
      (makeError .protocolError (text "metadata value exceeds max bytes"))
    refuse (hasMetaPrefix key = false)
      (makeError .protocolError (text "metadata key uses unregistered prefix"))
    refuse (isValidUtf8 key = false ∨ isValidUtf8 value = false)
      (makeError .protocolError (text "metadata not valid UTF-8"))
    refuse (duplicateKey before key = true)
      (makeError .protocolError (text "metadata duplicate key"))
    validateMetadataFrom (before ++ [(key, value)]) rest

/-- `ValidateMetadata`. -/
def validateMetadata (metadata : Metadata) : Except Error Unit := do
  refuse (metadata.length > 32)
    (makeError .protocolError (text "metadata exceeds max item count"))
  validateMetadataFrom [] metadata

/-- Accepted metadata holds only well-formed text. -/
theorem validateMetadataFrom_utf8 {before metadata : Metadata}
    (valid : validateMetadataFrom before metadata = .ok ()) :
    ∀ pair ∈ metadata, isValidUtf8 pair.1 = true ∧ isValidUtf8 pair.2 = true := by
  induction metadata generalizing before with
  | nil => simp
  | cons pair rest ih =>
    obtain ⟨key, value⟩ := pair
    simp only [validateMetadataFrom, checks_ok, refuse_ok] at valid
    obtain ⟨-, -, -, utf8, -, later⟩ := valid
    intro other member
    rcases List.mem_cons.mp member with rfl | inside
    · simpa using utf8
    · exact ih later other inside

/-- `ToProtoRequestPhase`: a phase without enumerator has no value on the wire. -/
def toProtoRequestPhase (phase : RequestPhase) : Option Int32 :=
  if phase = .notStarted then some 1
  else if phase = .connecting then some 2
  else if phase = .writing then some 3
  else if phase = .requestCommitted then some 4
  else if phase = .replyTerminal then some 5
  else none

/-- The phases with a value on the wire are the enumerators. -/
theorem toProtoRequestPhase_isSome (phase : RequestPhase) :
    (toProtoRequestPhase phase).isSome = true ↔
      phase ∈ [.notStarted, .connecting, .writing, .requestCommitted, .replyTerminal] := by
  unfold toProtoRequestPhase
  split_ifs <;> simp [*]

/-- A phase that is present and has no value on the wire. -/
def foreignPhase (error : Error) : Bool :=
  error.requestPhase.any fun phase => (toProtoRequestPhase phase).isNone

/-- `ValidateErrorBranch`. The phase is checked where an error is sent; the envelope codec, whose
validator has no such flag, checks it on both sides. -/
def validateErrorBranch (error : Error) (checkLocalPhase : Bool := true) : Except Error Unit := do
  refuse (isValidUtf8 error.domain = false ∨ isValidUtf8 error.domainCode = false ∨
      isValidUtf8 error.message = false ∨ isValidUtf8 error.backendCategory = false)
    (makeError .invalidArgument (text "error string fields not valid UTF-8"))
  refuse (error.domain.length > kMaxKeyBytes ∨ error.domainCode.length > kMaxKeyBytes ∨
      error.backendCategory.length > kMaxKeyBytes)
    (makeError .invalidArgument (text "error domain/domain_code/backend_category exceeds max bytes"))
  refuse (error.message.length > kMaxValueBytes)
    (makeError .invalidArgument (text "error message exceeds max bytes"))
  refuse (checkLocalPhase = true ∧ foreignPhase error = true)
    (makeError .protocolError (text "request_phase value is not a valid local phase"))
  validateErrorDetails error

/-- Every text of an error is well formed. -/
structure ErrorUtf8 (error : Error) : Prop where
  domain : isValidUtf8 error.domain = true
  domainCode : isValidUtf8 error.domainCode = true
  message : isValidUtf8 error.message = true
  backendCategory : isValidUtf8 error.backendCategory = true
  details : ∀ pair ∈ error.details, isValidUtf8 pair.1 = true ∧ isValidUtf8 pair.2 = true

/-- An accepted error branch is well-formed text. -/
theorem validateErrorBranch_utf8 {error : Error} {checkLocalPhase : Bool}
    (valid : validateErrorBranch error checkLocalPhase = .ok ()) : ErrorUtf8 error := by
  simp only [validateErrorBranch, checks_ok, refuse_ok, not_or, Bool.not_eq_false] at valid
  obtain ⟨⟨domain, domainCode, message, backendCategory⟩, -, -, -, details⟩ := valid
  refine ⟨domain, domainCode, message, backendCategory, ?_⟩
  unfold validateErrorDetails at details
  split_ifs at details with many
  exact validateDetailsFrom_utf8 details

/-- An error whose phase passes the check of the sending side passes on both sides alike. -/
theorem validateErrorBranch_local {error : Error} (named : foreignPhase error = false)
    (checkLocalPhase : Bool) : validateErrorBranch error checkLocalPhase = validateErrorBranch error := by
  simp [validateErrorBranch, named]

/-- The phase of an accepted error branch is absent or has a value on the wire. -/
theorem validateErrorBranch_phase {error : Error} (valid : validateErrorBranch error = .ok ()) :
    foreignPhase error = false := by
  simp only [validateErrorBranch, checks_ok, refuse_ok, true_and, Bool.not_eq_true] at valid
  exact valid.2.2.2.1

/-- `CheckUtf8Len`. -/
def checkUtf8Len (field : Bytes) (name : String) (max : Nat) (required : Bool) :
    Except Error Unit :=
  if field = [] then
    refuse (required = true) (makeError .invalidArgument (text (name ++ " must be non-empty")))
  else do
    refuse (field.length > max) (makeError .invalidArgument (text (name ++ " exceeds max bytes")))
    refuse (isValidUtf8 field = false)
      (makeError .invalidArgument (text (name ++ " not valid UTF-8")))

/-- A checked field is well-formed text. -/
theorem checkUtf8Len_utf8 {field : Bytes} {name : String} {max : Nat} {required : Bool}
    (valid : checkUtf8Len field name max required = .ok ()) : isValidUtf8 field = true := by
  unfold checkUtf8Len at valid
  split_ifs at valid with empty
  · simp [empty, isValidUtf8]
  · simp only [checks_ok, refuse_ok] at valid
    simpa using valid.2

/-- The errors of a failed rule: a bad value when encoding, a bad peer when decoding. -/
def ruleError (decoding : Bool) (what : String) : Error :=
  makeError (if decoding then .protocolError else .invalidArgument) (text what)

/-- A field check of the encoder that the decoder reports with its own text. -/
def onWire (decoding : Bool) (what : String) : Except Error Unit → Except Error Unit
  | .ok () => .ok ()
  | .error error => .error (if decoding then ruleError true what else error)

/-- Where it is made does not decide whether it passes. -/
@[simp] theorem onWire_ok (decoding : Bool) (what : String) (checked : Except Error Unit) :
    onWire decoding what checked = .ok () ↔ checked = .ok () := by
  cases checked <;> simp [onWire]

/-- The error branch as the decoder reports it: only bad values get the decoder's text. -/
def errorOnWire (decoding : Bool) : Except Error Unit → Except Error Unit
  | .ok () => .ok ()
  | .error error =>
    .error (if decoding ∧ error.code = .invalidArgument then
      ruleError true "error branch invalid on wire" else error)

/-- Nor does it for an error. -/
@[simp] theorem errorOnWire_ok (decoding : Bool) (checked : Except Error Unit) :
    errorOnWire decoding checked = .ok () ↔ checked = .ok () := by
  cases checked <;> simp [errorOnWire]

namespace SessionFrame

/-- The kinds of the handshake. -/
def handshake (frame : SessionFrame) : Bool := frame.kind = .hello || frame.kind = .helloAck
/-- The kinds that carry a request or its answer. -/
def data (frame : SessionFrame) : Bool :=
  frame.kind = .call || frame.kind = .send || frame.kind = .response
/-- The kinds that carry an outcome. -/
def outcomeKind (frame : SessionFrame) : Bool :=
  frame.kind = .response || frame.kind = .sendAccepted || frame.kind = .sessionError
/-- The kinds that name a route. -/
def routed (frame : SessionFrame) : Bool := frame.kind = .call || frame.kind = .response
/-- The kinds that carry a message id. -/
def messaging (frame : SessionFrame) : Bool := frame.kind = .send || frame.kind = .sendAccepted

/-- `ValidateKindRules`, the fields of the envelope: traffic, identity, nonce, epoch. -/
def validateEnvelope (frame : SessionFrame) (decoding : Bool) : Except Error Unit := do
  refuse (frame.kind = .unspecified)
    (makeError .protocolError (text "frame_kind is not a valid local kind"))
  refuse (frame.data = true ∧ frame.traffic = .system)
    (ruleError decoding "data frame must not use TRAFFIC_SYSTEM")
  refuse (frame.data = false ∧ frame.traffic ≠ .system)
    (ruleError decoding "control frame must use TRAFFIC_SYSTEM")
  refuse (frame.handshake = true ∧ (frame.peerIdentity = [] ∨
      frame.peerIdentity.length > kRpcV2MaxPeerIdentityBytes ∨
      isValidUtf8 frame.peerIdentity = false))
    (ruleError decoding "peer_identity required ≤256 UTF-8 on handshake frame")
  refuse (frame.handshake = false ∧ frame.peerIdentity ≠ [])
    (ruleError decoding "peer_identity must be absent on non-handshake frame")
  refuse (frame.handshake = true ∧ frame.connectionNonce = 0)
    (ruleError decoding "connection_nonce must be non-zero on handshake frame")
  refuse (frame.handshake = false ∧ frame.connectionNonce ≠ 0)
    (ruleError decoding "connection_nonce must be absent on non-handshake frame")
  refuse ((frame.handshake || frame.data || frame.kind = .sendAccepted) = true ∧
      frame.sessionEpoch = 0)
    (ruleError decoding "session_epoch must be non-zero")

/-- `ValidateKindRules`, the fields of a request: ids, route, order, budget, schemas. -/
def validateRequest (frame : SessionFrame) (decoding : Bool) : Except Error Unit := do
  refuse (frame.messaging = true ∧ (frame.messageId = [] ∨
      frame.messageId.length > kRpcV2MaxMessageIdBytes ∨ isValidUtf8 frame.messageId = false))
    (ruleError decoding "message_id required ≤128 UTF-8 on Send/SendAccepted")
  refuse (frame.messaging = false ∧ frame.messageId ≠ [])
    (ruleError decoding "message_id must be absent on non-Send frame")
  refuse (frame.routed = true ∧ frame.requestId = [])
    (ruleError decoding "request_id required on Call/Response")
  refuse (frame.requestId ≠ [] ∧
      (frame.requestId.length > kRpcV2MaxFieldBytes ∨ isValidUtf8 frame.requestId = false))
    (ruleError decoding "request_id exceeds max bytes / not UTF-8")
  onWire decoding "service invalid on wire"
    (checkUtf8Len frame.service "service" kRpcV2MaxFieldBytes frame.routed)
  onWire decoding "method invalid on wire"
    (checkUtf8Len frame.method "method" kRpcV2MaxFieldBytes frame.routed)
  refuse (frame.routed = true ∧ frame.reply ≠ .required)
    (ruleError decoding "reply_mode must be Required on Call/Response")
  refuse (frame.routed = false ∧ frame.reply ≠ .none)
    (ruleError decoding "reply_mode must be None on non-Call/Response frame")
  refuse (frame.sequence ≠ 0 ∧
      (frame.orderingKey = [] ∨ frame.orderingKey.length > kRpcV2MaxOrderingKeyBytes))
    (ruleError decoding "ordering_key required ≤256 when sequence enabled")
  refuse (frame.sequence = 0 ∧ frame.orderingKey ≠ [])
    (ruleError decoding "ordering_key requires non-zero sequence")
  refuse ((frame.kind = .call ∨ frame.kind = .send) ∧
      (frame.remainingBudgetMs = 0 ∨ frame.remainingBudgetMs > kRpcV2MaxRemainingBudgetMs))
    (ruleError decoding "remaining_budget_ms must be in 1..max on Call/Send")
  refuse ((frame.kind = .response ∨ frame.kind = .sendAccepted) ∧
      frame.remainingBudgetMs > kRpcV2MaxRemainingBudgetMs)
    (ruleError decoding "remaining_budget_ms exceeds max")
  refuse (frame.data = false ∧ frame.kind ≠ .sendAccepted ∧ frame.remainingBudgetMs ≠ 0)
    (ruleError decoding "remaining_budget_ms must be absent on control frame")
  onWire decoding "request_schema invalid on wire"
    (checkUtf8Len frame.requestSchema "request_schema" kRpcV2MaxFieldBytes frame.routed)
  onWire decoding "response_schema invalid on wire"
    (checkUtf8Len frame.responseSchema "response_schema" kRpcV2MaxFieldBytes frame.routed)
  refuse (frame.acceptanceRequested.isSome = true ∧ frame.kind ≠ .send)
    (ruleError decoding "acceptance_requested allowed only on Send")

/-- `ValidateKindRules`, the outcome and the metadata. -/
def validateOutcome (frame : SessionFrame) (decoding : Bool) : Except Error Unit := do
  refuse (frame.hasOutcome ≠ frame.outcomeKind)
    (ruleError decoding (if frame.outcomeKind then "outcome required on this frame kind"
      else "outcome must be absent on this frame kind"))
  (if frame.hasOutcome ∧ frame.success = false then
    errorOnWire decoding (validateErrorBranch frame.error !decoding) else .ok ())
  onWire decoding "metadata invalid on wire" (validateMetadata frame.metadata)

/-- `ValidateKindRules`. A traffic class or a reply mode outside its enumeration does not
exist here, so their range checks always pass. -/
def validateKindRules (frame : SessionFrame) (decoding : Bool) : Except Error Unit := do
  frame.validateEnvelope decoding
  frame.validateRequest decoding
  frame.validateOutcome decoding

/-- Both sides accept the same frames, but for a phase that the wire does not know. -/
theorem validateKindRules_decoding (frame : SessionFrame)
    (named : frame.hasOutcome = true → frame.success = false → foreignPhase frame.error = false) :
    frame.validateKindRules true = .ok () ↔ frame.validateKindRules false = .ok () := by
  simp only [validateKindRules, validateEnvelope, validateRequest, validateOutcome, checks_ok,
    refuse_ok, onWire_ok]
  split_ifs with failed
  · simp only [errorOnWire_ok, validateErrorBranch_local (named failed.1 failed.2)]
  · rfl

/-- The phase of a frame that may be sent has a value on the wire. -/
theorem validateKindRules_phase {frame : SessionFrame}
    (valid : frame.validateKindRules false = .ok ()) (outcome : frame.hasOutcome = true)
    (failed : frame.success = false) : foreignPhase frame.error = false := by
  simp only [validateKindRules, validateOutcome, checks_ok, refuse_ok, onWire_ok] at valid
  have error := valid.2.2.2.1
  rw [if_pos ⟨outcome, failed⟩, errorOnWire_ok] at error
  exact validateErrorBranch_phase error

/-- Every text field of a frame that goes on the wire is well formed. -/
structure Utf8 (frame : SessionFrame) : Prop where
  peerIdentity : isValidUtf8 frame.peerIdentity = true
  messageId : isValidUtf8 frame.messageId = true
  requestId : isValidUtf8 frame.requestId = true
  service : isValidUtf8 frame.service = true
  method : isValidUtf8 frame.method = true
  requestSchema : isValidUtf8 frame.requestSchema = true
  responseSchema : isValidUtf8 frame.responseSchema = true
  metadata : ∀ pair ∈ frame.metadata, isValidUtf8 pair.1 = true ∧ isValidUtf8 pair.2 = true
  error : frame.hasOutcome = true → frame.success = false → ErrorUtf8 frame.error

/-- A field that is empty unless its check passed is well-formed text. -/
theorem utf8_of_checked {field : Bytes} {due : Bool} {bad : Prop}
    (present : ¬(due = true ∧ (field = [] ∨ bad ∨ isValidUtf8 field = false)))
    (absent : ¬(due = false ∧ field ≠ [])) : isValidUtf8 field = true := by
  cases due with
  | true =>
    simp only [true_and, not_or, Bool.not_eq_false] at present
    exact present.2.2
  | false =>
    simp only [true_and, not_not] at absent
    simp [absent, isValidUtf8]

/-- The rules admit only well-formed text. -/
theorem validateKindRules_utf8 {frame : SessionFrame} {decoding : Bool}
    (valid : frame.validateKindRules decoding = .ok ()) : frame.Utf8 := by
  simp only [validateKindRules, validateEnvelope, validateRequest, validateOutcome, checks_ok,
    refuse_ok, onWire_ok] at valid
  obtain ⟨⟨-, -, -, identity, noIdentity, -⟩,
    ⟨message, noMessage, -, request, service, method, -, -, -, -, -, -, -, asked, answered, -⟩,
    -, error, metadata⟩ := valid
  refine ⟨utf8_of_checked identity noIdentity, utf8_of_checked message noMessage, ?_,
    checkUtf8Len_utf8 service, checkUtf8Len_utf8 method, checkUtf8Len_utf8 asked,
    checkUtf8Len_utf8 answered, ?_, ?_⟩
  · by_cases empty : frame.requestId = []
    · simp [empty, isValidUtf8]
    · simpa [empty] using (not_or.mp (not_and.mp request empty)).2
  · simp only [validateMetadata, checks_ok] at metadata
    exact validateMetadataFrom_utf8 metadata.2
  · intro outcome failed
    rw [if_pos ⟨outcome, failed⟩, errorOnWire_ok] at error
    exact validateErrorBranch_utf8 error

end SessionFrame

end BbtInfra.Rpc
