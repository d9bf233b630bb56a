import BbtInfra.Rpc.RpcWire

/-!
# The envelope server

`HandleWireRequest`: one request body through the envelope codec, the deadline, the handler and the
look at the fields that tie an answer to its request, to the body of an answer. The handler and the
three readings of the steady clock are parameters; times are nanoseconds.
-/
namespace BbtInfra.Rpc

open RpcWireEnvelope

/-- `RpcEnvelope`. -/
structure RpcEnvelope where
  service : Bytes := []
  method : Bytes := []
  requestId : Bytes := []
  requestSchema : Bytes := []
  responseSchema : Bytes := []
  payload : Bytes := []
  metadata : Metadata := []
  deriving DecidableEq, Repr

/-- `IncomingCallContext`. -/
structure IncomingCallContext where
  deadline : Int
  peerPrincipal : Bytes := []
  deriving DecidableEq, Repr

/-- `RpcHandler`, as a function of what it is given. -/
abbrev RpcHandler := IncomingCallContext → RpcEnvelope → Except NativeError RpcEnvelope

/-- The readings of the clock in one request. -/
structure Readings where
  /-- Behind the parse of the request. -/
  arrival : Int
  /-- In front of the handler. -/
  check : Int
  /-- Behind the handler. -/
  answer : Int
  deriving DecidableEq, Repr

/-- Nanoseconds of a millisecond. -/
def nanosPerMs : Int := 1000000

/-- `RemainingBudgetMs`. -/
def remainingBudgetMs (deadline now : Int) : Except Error UInt32 :=
  if deadline ≤ now then .error (makeError .timedOut (text "rpc deadline already expired"))
  else
    let remaining := (deadline - now) / nanosPerMs
    let remaining := if remaining < 1 then 1 else remaining
    .ok (UInt32.ofNat (if remaining > kMaxRemainingBudgetMs.toNat then kMaxRemainingBudgetMs.toNat
      else remaining.toNat))

/-- `ErrorEnvelope`. -/
def errorEnvelope (error : Error) (requestId service method requestSchema responseSchema : Bytes) :
    RpcWireEnvelope where
  requestId := if requestId = [] then text "unparsed" else requestId
  service := if service = [] then text "unknown" else service
  method := if method = [] then text "unknown" else method
  requestSchema := requestSchema
  responseSchema := responseSchema
  remainingBudgetMs := 1
  success := false
  error := error

/-- The envelope of `EncodeErrorReply`. -/
def errorReply (error : Error) : Option RpcWireEnvelope → RpcWireEnvelope
  | some wire => errorEnvelope error wire.requestId wire.service wire.method wire.requestSchema
      wire.responseSchema
  | none => errorEnvelope error [] [] [] [] []

/-- `EncodeErrorReply`. -/
def encodeErrorReply (protobuf : EnvelopeProtobuf) (error : Error) (wire : Option RpcWireEnvelope) :
    Except Error Bytes :=
  (errorReply error wire).encode protobuf true

/-- `ToWireEnvelope`. -/
def toWireEnvelope (env : RpcEnvelope) (remainingBudgetMs : UInt32) : Except Error RpcWireEnvelope := do
  let wire : RpcWireEnvelope := {
    requestId := env.requestId
    service := env.service
    method := env.method
    remainingBudgetMs
    requestSchema := env.requestSchema
    responseSchema := env.responseSchema
    payload := env.payload
    metadata := env.metadata }
  wire.validate false
  return wire

/-- `FromWireEnvelope`. It does not fail. -/
def fromWireEnvelope (env : RpcWireEnvelope) : RpcEnvelope where
  service := env.service
  method := env.method
  requestId := env.requestId
  requestSchema := env.requestSchema
  responseSchema := env.responseSchema
  payload := env.payload
  metadata := env.metadata

/-- The context that the handler gets: the deadline is the earlier of the two. -/
def effectiveContext (context : IncomingCallContext) (readings : Readings) (wire : RpcWireEnvelope) :
    IncomingCallContext :=
  { context with
    deadline := min context.deadline
      (readings.arrival + wire.remainingBudgetMs.toNat * nanosPerMs) }

/-- An answer of the handler has other association fields than the request. -/
def changedAssociation (reply : RpcEnvelope) (wire : RpcWireEnvelope) : Bool :=
  reply.requestId ≠ wire.requestId || reply.service ≠ wire.service || reply.method ≠ wire.method ||
    reply.requestSchema ≠ wire.requestSchema || reply.responseSchema ≠ wire.responseSchema

/-- `HandleWireRequest`. -/
def handleWireRequest (protobuf : EnvelopeProtobuf) (handler : RpcHandler) (readings : Readings)
    (context : IncomingCallContext) (body : Bytes) : Except Error Bytes :=
  match decode protobuf body false with
  | .error error => encodeErrorReply protobuf error none
  | .ok wire =>
    let effective := effectiveContext context readings wire
    if effective.deadline ≤ readings.check then
      encodeErrorReply protobuf (makeError .timedOut (text "rpc request deadline expired")) (some wire)
    else
      match handler effective (fromWireEnvelope wire) with
      | .error error => encodeErrorReply protobuf error.seen (some wire)
      | .ok reply =>
        if changedAssociation reply wire then
          encodeErrorReply protobuf
            (makeError .protocolError (text "rpc handler changed association fields")) (some wire)
        else
          match remainingBudgetMs effective.deadline readings.answer with
          | .error error => encodeErrorReply protobuf error (some wire)
          | .ok budget =>
            match toWireEnvelope reply budget with
            | .error error => encodeErrorReply protobuf error (some wire)
            | .ok out => out.encode protobuf true

namespace WireServer

variable {protobuf : EnvelopeProtobuf} {handler : RpcHandler} {readings : Readings}
  {context : IncomingCallContext} {body : Bytes}

/-- The envelope of the answer to a parsed request. -/
def answerTo (handler : RpcHandler) (readings : Readings) (context : IncomingCallContext)
    (wire : RpcWireEnvelope) : RpcWireEnvelope :=
  let effective := effectiveContext context readings wire
  if effective.deadline ≤ readings.check then
    errorReply (makeError .timedOut (text "rpc request deadline expired")) (some wire)
  else
    match handler effective (fromWireEnvelope wire) with
    | .error error => errorReply error.seen (some wire)
    | .ok reply =>
      if changedAssociation reply wire then
        errorReply (makeError .protocolError (text "rpc handler changed association fields"))
          (some wire)
      else
        match (remainingBudgetMs effective.deadline readings.answer).bind (toWireEnvelope reply) with
        | .error error => errorReply error (some wire)
        | .ok out => out

/-- The envelope of the answer. -/
def answer (protobuf : EnvelopeProtobuf) (handler : RpcHandler) (readings : Readings)
    (context : IncomingCallContext) (body : Bytes) : RpcWireEnvelope :=
  match decode protobuf body false with
  | .error error => errorReply error none
  | .ok wire => answerTo handler readings context wire

/-- Every exit encodes an answer. -/
theorem handleWireRequest_eq :
    handleWireRequest protobuf handler readings context body =
      (answer protobuf handler readings context body).encode protobuf true := by
  unfold handleWireRequest answer
  cases decode protobuf body false with
  | error error => rfl
  | ok wire =>
    simp only [answerTo]
    split
    · rfl
    · cases handler (effectiveContext context readings wire) (fromWireEnvelope wire) with
      | error error => rfl
      | ok reply =>
        simp only
        split
        · rfl
        · cases remainingBudgetMs (effectiveContext context readings wire).deadline
              readings.answer with
          | error error => rfl
          | ok budget =>
            simp only [Except.bind]
            cases toWireEnvelope reply budget <;> rfl

/-- An answer arrives that belongs to the request. -/
def Answered (protobuf : EnvelopeProtobuf) (body : Bytes) (outcome : Except Error Bytes) : Prop :=
  ∃ bytes reply, outcome = .ok bytes ∧ decode protobuf bytes true = .ok reply ∧
    ∀ wire, decode protobuf body false = .ok wire →
      reply.requestId = wire.requestId ∧ reply.service = wire.service ∧
        reply.method = wire.method ∧ reply.requestSchema = wire.requestSchema ∧
        reply.responseSchema = wire.responseSchema

/-- An error of the handler, if the handler is reached and fails, passes the rules of the error
branch. -/
def SoundHandler (protobuf : EnvelopeProtobuf) (handler : RpcHandler) (readings : Readings)
    (context : IncomingCallContext) (body : Bytes) : Prop :=
  ∀ wire error, decode protobuf body false = .ok wire →
    readings.check < (effectiveContext context readings wire).deadline →
    handler (effectiveContext context readings wire) (fromWireEnvelope wire) = .error error →
    validateErrorBranch error.seen = .ok ()

/-! ### The errors of the codec -/

/-- Every error of a computation has the property. -/
def Reports {β : Type} (good : Error → Prop) (checked : Except Error β) : Prop :=
  ∀ error, checked = .error error → good error

variable {good : Error → Prop} {β γ : Type}

/-- A value reports nothing. -/
theorem Reports.ok (value : β) : Reports good (.ok value) := nofun

/-- A check reports its own error. -/
theorem Reports.refuse {bad : Prop} [Decidable bad] {error : Error} (fine : good error) :
    Reports good (refuse bad error) := by
  intro other refused
  unfold Rpc.refuse at refused
  split_ifs at refused
  obtain rfl := Except.error.inj refused
  exact fine

/-- A sequence reports what its parts report. -/
theorem Reports.bind {first : Except Error β} {next : β → Except Error γ} (one : Reports good first)
    (rest : ∀ value, first = .ok value → Reports good (next value)) : Reports good (first >>= next) := by
  intro error failed
  cases first with
  | error other =>
    obtain rfl := Except.error.inj failed
    exact one _ rfl
  | ok value => exact rest value rfl error failed

/-- The texts of the errors of the codec and of the server. -/
def plainTexts : List String :=
  ["decoded envelope missing required identifier", "decoded identifier fields not valid UTF-8",
    "decoded remaining_budget_ms zero is rejected", "decoded remaining_budget_ms exceeds max",
    "unsupported profile_version", "request_id/service/method must be non-empty",
    "identifier fields not valid UTF-8", "remaining_budget_ms zero is rejected",
    "remaining_budget_ms exceeds max", "metadata key empty or exceeds max bytes",
    "metadata value exceeds max bytes", "metadata key uses unregistered prefix",
    "metadata not valid UTF-8", "metadata duplicate key", "metadata exceeds max item count",
    "request envelope must not set outcome", "empty envelope bytes", "envelope parse failed",
    "request envelope must not carry failure outcome (success=false is response-only)",
    "rpc deadline already expired", "rpc request deadline expired",
    "rpc handler changed association fields"]

/-- They are seven-bit texts of a short length. -/
theorem plainTexts_plain : ∀ message ∈ plainTexts,
    ((text message).all (· < 0x80) && decide ((text message).length ≤ kMaxValueBytes)) = true := by
  decide +kernel

/-- An error that has one of these texts only. -/
theorem validateErrorBranch_makeError (code : ErrorCode) {message : String}
    (listed : message ∈ plainTexts) : validateErrorBranch (makeError code (text message)) = .ok () := by
  obtain ⟨ascii, short⟩ :
      (∀ byte ∈ text message, byte < 0x80) ∧ (text message).length ≤ kMaxValueBytes := by
    simpa using plainTexts_plain message listed
  have utf8 := isValidUtf8_ascii ascii
  have domain : isValidUtf8 (text "infra") = true := by decide +kernel
  have none' : isValidUtf8 [] = true := by simp [isValidUtf8]
  simp only [validateErrorBranch, checks_ok, refuse_ok]
  refine ⟨by simp [makeError, utf8, domain, none'], ?_, Nat.not_lt.mpr short,
    by simp [makeError, foreignPhase], rfl⟩
  show ¬((text "infra").length > kMaxKeyBytes ∨ (0 : Nat) > kMaxKeyBytes ∨ (0 : Nat) > kMaxKeyBytes)
  decide

/-- The errors of the metadata rules. -/
theorem validateMetadata_reports (metadata : Metadata) :
    Reports (fun error => validateErrorBranch error = .ok ()) (validateMetadata metadata) := by
  have entries : ∀ (rest before : Metadata),
      Reports (fun error => validateErrorBranch error = .ok ()) (validateMetadataFrom before rest) := by
    intro rest
    induction rest with
    | nil => exact fun _ => .ok ()
    | cons pair rest ih =>
      intro before
      obtain ⟨key, value⟩ := pair
      refine .bind (.refuse ?_) fun _ _ => .bind (.refuse ?_) fun _ _ => .bind (.refuse ?_)
        fun _ _ => .bind (.refuse ?_) fun _ _ => .bind (.refuse ?_) fun _ _ => ih _
      all_goals exact validateErrorBranch_makeError _ (by simp [plainTexts])
  refine .bind (.refuse ?_) fun _ _ => entries metadata []
  exact validateErrorBranch_makeError _ (by simp [plainTexts])

/-- The errors of the rules for what arrived, without those of an error branch. -/
theorem checkRead_reports {env : RpcWireEnvelope} (succeeds : env.success = true) :
    Reports (fun error => validateErrorBranch error = .ok ()) env.checkRead := by
  unfold checkRead
  rw [if_neg (by simp [succeeds])]
  refine .bind (.refuse ?_) fun _ _ => .bind (.refuse ?_) fun _ _ => .bind (.refuse ?_)
    fun _ _ => .bind (.refuse ?_) fun _ _ => .bind (validateMetadata_reports _) fun _ _ => .ok ()
  all_goals exact validateErrorBranch_makeError _ (by simp [plainTexts])

/-- The errors of the rules for what is sent, without those of an error branch. -/
theorem checkSent_reports {env : RpcWireEnvelope} (succeeds : env.success = true) (isResponse : Bool) :
    Reports (fun error => validateErrorBranch error = .ok ()) (env.checkSent isResponse) := by
  unfold checkSent
  rw [if_neg (by simp [succeeds])]
  refine .bind (.refuse ?_) fun _ _ => .bind (.refuse ?_) fun _ _ => .bind (.refuse ?_)
    fun _ _ => .bind (.refuse ?_) fun _ _ => .bind (.refuse ?_) fun _ _ =>
      .bind (validateMetadata_reports _) fun _ _ => .bind (.refuse ?_) fun _ _ => .ok ()
  all_goals exact validateErrorBranch_makeError _ (by simp [plainTexts])

/-- The outcome of a request. -/
theorem readOutcome_request (outcome : Pb.Outcome) :
    Reports (fun error => validateErrorBranch error = .ok ()) (RpcWireEnvelope.readOutcome false outcome) ∧
    ∀ success error, RpcWireEnvelope.readOutcome false outcome = .ok (success, error) →
      success = true := by
  have refused : validateErrorBranch
      (makeError .protocolError (text "request envelope must not set outcome")) = .ok () :=
    validateErrorBranch_makeError _ (by simp [plainTexts])
  cases outcome with
  | absent =>
    refine ⟨.ok _, ?_⟩
    rintro success error ⟨⟩
    rfl
  | success | error =>
    refine ⟨?_, fun _ _ read => nomatch read⟩
    rintro error ⟨⟩
    exact refused

/-- The errors of a request body. -/
theorem decode_reports (protobuf : EnvelopeProtobuf) (body : Bytes) :
    Reports (fun error => validateErrorBranch error = .ok ())
      (RpcWireEnvelope.decode protobuf body false) := by
  unfold decode
  split
  · rintro error ⟨⟩
    exact validateErrorBranch_makeError _ (by simp [plainTexts])
  split
  · rintro error ⟨⟩
    exact validateErrorBranch_makeError _ (by simp [plainTexts])
  · next message _ =>
    obtain ⟨reports, succeeds⟩ := readOutcome_request message.outcome
    refine .bind (.refuse ?_) fun _ _ => .bind reports ?_
    · exact validateErrorBranch_makeError _ (by simp [plainTexts])
    · rintro ⟨success, error⟩ read
      exact .bind (checkRead_reports (succeeds success error read)) fun _ _ => .ok _

/-! ### The answers -/

variable {wire : RpcWireEnvelope}

/-- A parsed request passes the rules of what is sent, and tells of no failure. -/
theorem request_rules (decoded : decode protobuf body false = .ok wire) :
    ¬(wire.requestId = [] ∨ wire.service = [] ∨ wire.method = []) ∧ wire.malformed = false := by
  have checked := (decode_ok decoded).1
  simp only [checkSent, checks_ok, refuse_ok] at checked
  exact ⟨checked.2.1, by simpa using checked.2.2.1⟩

/-- The budget of an error answer is within the rules. -/
theorem errorBudget : ¬(1 : UInt32) = 0 ∧ ¬(1 : UInt32) > kMaxRemainingBudgetMs := by decide

/-- An error answer to a parsed request passes the rules exactly when its error does. -/
theorem errorReply_ok (decoded : decode protobuf body false = .ok wire)
    (error : Error) :
    (errorReply error (some wire)).checkSent true = .ok () ↔ validateErrorBranch error = .ok () := by
  obtain ⟨named, wellFormed⟩ := request_rules decoded
  have same : errorReply error (some wire) = {
      requestId := wire.requestId, service := wire.service, method := wire.method
      remainingBudgetMs := 1, requestSchema := wire.requestSchema
      responseSchema := wire.responseSchema, success := false, error } := by
    obtain ⟨requestId, service, method⟩ := not_or.mp named |>.imp_right not_or.mp
    simp [errorReply, errorEnvelope, requestId, service, method]
  have malformed : (errorReply error (some wire)).malformed = false := by
    rw [same]
    exact wellFormed
  rw [checkSent_ok, checkRead]
  simp only [checks_ok, refuse_ok]
  rw [same] at malformed ⊢
  constructor
  · rintro ⟨-, -, -, -, -, -, -, branch⟩
    exact branch
  · intro branch
    exact ⟨rfl, by simp, named, by rw [malformed]; exact Bool.false_ne_true, errorBudget.1,
      errorBudget.2, rfl, branch⟩

/-- An error answer to a body that does not parse passes the rules. -/
theorem errorReply_unparsed {error : Error} (branch : validateErrorBranch error = .ok ()) :
    (errorReply error none).checkSent true = .ok () := by
  have same : errorReply error none = {
      requestId := text "unparsed", service := text "unknown", method := text "unknown"
      remainingBudgetMs := 1, success := false, error } := by
    simp [errorReply, errorEnvelope]
  have named : ¬(text "unparsed" = [] ∨ text "unknown" = [] ∨ text "unknown" = []) := by decide
  have malformed : (errorReply error none).malformed = false := by
    have texts : isValidUtf8 (text "unparsed") = true ∧ isValidUtf8 (text "unknown") = true ∧
        isValidUtf8 [] = true := by decide +kernel
    rw [same]
    simp only [RpcWireEnvelope.malformed, texts]
    rfl
  rw [checkSent_ok, checkRead]
  simp only [checks_ok, refuse_ok]
  exact ⟨rfl, by simp, named, by rw [malformed]; exact Bool.false_ne_true, errorBudget.1,
    errorBudget.2, rfl, branch⟩

/-- A successful answer, or the error in the way of one. -/
theorem toWireEnvelope_ok {reply : RpcEnvelope} {budget : UInt32} :
    Reports (fun error => validateErrorBranch error = .ok ()) (toWireEnvelope reply budget) ∧
    ∀ out, toWireEnvelope reply budget = .ok out → out.checkSent true = .ok () ∧
      out.requestId = reply.requestId ∧ out.service = reply.service ∧ out.method = reply.method ∧
      out.requestSchema = reply.requestSchema ∧ out.responseSchema = reply.responseSchema := by
  constructor
  · refine .bind (.bind (.bind (checkSent_reports rfl false) fun _ _ => .ok _) fun _ _ => .ok ())
      fun _ _ => .ok _
  · intro out made
    simp only [toWireEnvelope, checks_ok, pure, Except.pure, Except.ok.injEq] at made
    obtain ⟨valid, rfl⟩ := made
    have sent := checkSent_ok.mp (validate_ok.mp valid)
    exact ⟨checkSent_ok.mpr ⟨sent.1, fun _ => rfl, sent.2.2⟩, rfl, rfl, rfl, rfl, rfl⟩

/-- The error of a spent budget. -/
theorem remainingBudgetMs_reports (deadline now : Int) :
    Reports (fun error => validateErrorBranch error = .ok ()) (remainingBudgetMs deadline now) := by
  unfold remainingBudgetMs
  split
  · rintro error ⟨⟩
    exact validateErrorBranch_makeError _ (by simp [plainTexts])
  · exact .ok _

/-- The association fields of an envelope are those of another one. -/
def Associated (reply wire : RpcWireEnvelope) : Prop :=
  reply.requestId = wire.requestId ∧ reply.service = wire.service ∧ reply.method = wire.method ∧
    reply.requestSchema = wire.requestSchema ∧ reply.responseSchema = wire.responseSchema

/-- An error answer belongs to its request. -/
theorem errorReply_associated
    (decoded : decode protobuf body false = .ok wire) (error : Error) :
    Associated (errorReply error (some wire)) wire := by
  obtain ⟨requestId, service, method⟩ := not_or.mp (request_rules decoded).1 |>.imp_right not_or.mp
  simp [Associated, errorReply, errorEnvelope, requestId, service, method]

/-- The answer to a parsed request belongs to it, and passes the rules exactly when an error of the
handler does. -/
theorem answerTo_ok (decoded : RpcWireEnvelope.decode protobuf body false = .ok wire) :
    Associated (answerTo handler readings context wire) wire ∧
    ((answerTo handler readings context wire).checkSent true = .ok () ↔
      SoundHandler protobuf handler readings context body) := by
  have only : ∀ other, decode protobuf body false = .ok other → wire = other := by
    intro other also
    exact Except.ok.inj (decoded.symm.trans also)
  unfold answerTo
  dsimp only
  split
  · next expired =>
    refine ⟨errorReply_associated decoded _, iff_of_true ?_ ?_⟩
    · exact (errorReply_ok decoded _).mpr (validateErrorBranch_makeError _ (by simp [plainTexts]))
    · intro other error also open' failed
      obtain rfl := only other also
      omega
  · next open' =>
    cases handled : handler (effectiveContext context readings wire) (fromWireEnvelope wire) with
    | error error =>
      refine ⟨errorReply_associated decoded _, (errorReply_ok decoded _).trans ⟨?_, ?_⟩⟩
      · intro branch other failure also _ failed
        obtain rfl := only other also
        rw [handled] at failed
        obtain rfl := Except.error.inj failed
        exact branch
      · intro sound
        exact sound wire error decoded (by omega) handled
    | ok reply =>
      have sound : SoundHandler protobuf handler readings context body := by
        intro other failure also _ failed
        obtain rfl := only other also
        rw [handled] at failed
        cases failed
      simp only
      split
      · refine ⟨errorReply_associated decoded _, iff_of_true ?_ sound⟩
        exact (errorReply_ok decoded _).mpr (validateErrorBranch_makeError _ (by simp [plainTexts]))
      · next unchanged =>
        have reports : Reports (fun error => validateErrorBranch error = .ok ())
            ((remainingBudgetMs (effectiveContext context readings wire).deadline
              readings.answer).bind (toWireEnvelope reply)) :=
          .bind (remainingBudgetMs_reports _ _) fun _ _ => toWireEnvelope_ok.1
        cases made : (remainingBudgetMs (effectiveContext context readings wire).deadline
            readings.answer).bind (toWireEnvelope reply) with
        | error error =>
          exact ⟨errorReply_associated decoded _,
            iff_of_true ((errorReply_ok decoded _).mpr (reports error made)) sound⟩
        | ok out =>
          obtain ⟨budget, -, made⟩ := bind_ok made
          obtain ⟨checked, requestId, service, method, requestSchema, responseSchema⟩ :=
            toWireEnvelope_ok.2 out made
          refine ⟨?_, iff_of_true checked sound⟩
          simp only [changedAssociation, Bool.or_eq_true, decide_eq_true_eq, not_or,
            Decidable.not_not] at unchanged
          obtain ⟨⟨⟨⟨one, two⟩, three⟩, four⟩, five⟩ := unchanged
          exact ⟨requestId.trans one, service.trans two, method.trans three,
            requestSchema.trans four, responseSchema.trans five⟩

/-- An answer arrives that belongs to the request, exactly when the handler does not fail with an
error that the error branch refuses. -/
theorem wire_request_answered (faithful : protobuf.Faithful)
    (serializes : (answer protobuf handler readings context body).Serializes protobuf true) :
    Answered protobuf body (handleWireRequest protobuf handler readings context body) ↔
      SoundHandler protobuf handler readings context body := by
  have passes : (answer protobuf handler readings context body).checkSent true = .ok () ↔
      SoundHandler protobuf handler readings context body := by
    unfold answer
    cases decoded : RpcWireEnvelope.decode protobuf body false with
    | error error =>
      refine iff_of_true (errorReply_unparsed (decode_reports protobuf body error decoded)) ?_
      intro wire failure also
      rw [decoded] at also
      cases also
    | ok wire => exact (answerTo_ok decoded).2
  rw [handleWireRequest_eq, ← passes]
  constructor
  · rintro ⟨bytes, reply, encoded, -⟩
    obtain ⟨message, filled, -⟩ := RpcWireEnvelope.encode_ok.mp encoded
    exact (RpcWireEnvelope.fillProto_ok.mp filled).1
  · intro checked
    have valid := RpcWireEnvelope.validate_ok.mpr checked
    obtain ⟨bytes, encoded, returned⟩ :=
      RpcWireEnvelope.encode_of_valid faithful valid serializes
    refine ⟨bytes, _, encoded, returned, ?_⟩
    intro wire decoded
    have associated : Associated (answerTo handler readings context wire) wire :=
      (answerTo_ok decoded).1
    have same : answer protobuf handler readings context body =
        answerTo handler readings context wire := by
      simp only [answer, decoded]
    rw [same]
    exact associated

/-- A request with a second left. -/
def plainRequest : RpcWireEnvelope where
  requestId := text "r1"
  service := text "s"
  method := text "m"
  remainingBudgetMs := 1000

/-- Its body. -/
def plainBody : Bytes := (plainRequest.encode Pb.envelopeRuntime false).toOption.getD []

/-- A context and a clock that leave the handler its time. -/
def plainContext : IncomingCallContext := { deadline := 10 ^ 12 }
def plainReadings : Readings := { arrival := 0, check := 1, answer := 2 }

/-- A handler that fails with a text. -/
def failingHandler (message : Bytes) : RpcHandler := fun _ _ => .error { message }

/-- The failure of a handler is answered. -/
theorem wire_request_answered_failure :
    Answered Pb.envelopeRuntime plainBody (handleWireRequest Pb.envelopeRuntime
      (failingHandler (text "no")) plainReadings plainContext plainBody) := by
  refine (wire_request_answered Pb.envelopeRuntime_faithful ?_).mpr ?_
  · exact serializes_of_small (by decide +kernel)
  · intro wire error _ _ failed
    obtain rfl := Except.error.inj failed
    decide +kernel

/-- A failure whose text is too long for the error branch is not. -/
theorem wire_request_unanswered : ¬∀ handler : RpcHandler,
    Answered Pb.envelopeRuntime plainBody (handleWireRequest Pb.envelopeRuntime handler plainReadings
      plainContext plainBody) := by
  intro answered
  obtain ⟨bytes, reply, sent, -⟩ := answered (failingHandler (List.replicate 257 0x78))
  have refused : (handleWireRequest Pb.envelopeRuntime (failingHandler (List.replicate 257 0x78))
      plainReadings plainContext plainBody).toOption = none := by decide +kernel
  rw [sent] at refused
  cases refused

end WireServer

end BbtInfra.Rpc
