import BbtInfra.Rpc.Segmentation

/-!
# Round trips of the frame codec

A frame that passes its own rules is read back by the other side, and a frame that was read
can be sent on. What does not come back is what the flags of the frame leave without meaning:
an outcome that is not there, the error beside a success, an error code without enumerator.
The incremental decoder of the data phase adds nothing to that: from any cut of the framed
frames, `Feed` and `Next` hand out the same frames.
-/
namespace BbtInfra.Rpc

open Lib SessionFrameDecoder SessionFrame
open List hiding after

/-- The enumerator that the switch of `ToProtoErrorCode` finds for the value of an `ErrorCode`
variable. A value without enumerator falls through to the internal error. -/
def enumeratorOf (code : Int32) : ErrorCode :=
  match code.toInt with
  | 0 => .invalidArgument
  | 1 => .invalidContext
  | 2 => .runtimeUnavailable
  | 3 => .closed
  | 4 => .cancelled
  | 5 => .timedOut
  | 6 => .overloaded
  | 7 => .unavailable
  | 8 => .transportError
  | 9 => .protocolError
  | 10 => .notFound
  | 11 => .typeMismatch
  | 12 => .unsupportedRoute
  | 13 => .outcomeUnknown
  | 14 => .remoteError
  | _ => .internalError

/-- An `Error` variable: its code and its phase are any values of the types of the enumerations, and
its integers have the widths of the source. -/
structure NativeError where
  code : Int32 := 15
  domain : Bytes := text "infra"
  domainCode : Bytes := []
  message : Bytes := []
  backendCategory : Bytes := []
  backendCode : Int32 := 0
  transferredBytes : UInt64 := 0
  details : ErrorDetails := []
  requestPhase : Option RequestPhase := none
  deriving DecidableEq, Repr

/-- The error as the codec sees it. -/
def NativeError.seen (error : NativeError) : Error where
  code := enumeratorOf error.code
  domain := error.domain
  domainCode := error.domainCode
  message := error.message
  backendCategory := error.backendCategory
  backendCode := error.backendCode.toInt
  transferredBytes := error.transferredBytes.toNat
  details := error.details
  requestPhase := error.requestPhase

/-- A `SessionFrame` variable. Its error takes the place of the error of `fields`; a kind, a
traffic class or a reply mode without enumerator does not pass `ValidateSessionFrame` and is
left out. -/
structure NativeFrame where
  fields : SessionFrame
  error : NativeError := {}
  deriving DecidableEq, Repr

/-- The frame as the codec sees it. -/
def NativeFrame.seen (native : NativeFrame) : SessionFrame :=
  { native.fields with error := native.error.seen }

/-- `ValidateSessionFrame`. -/
def validateSessionFrame (frame : SessionFrame) : Except Error Unit :=
  frame.validateKindRules false

namespace SessionFrame

/-- The frame without what its flags leave without meaning. -/
def meaningful (frame : SessionFrame) : SessionFrame :=
  { frame with
    success := frame.hasOutcome && frame.success
    error := if frame.hasOutcome && !frame.success then frame.error else {} }

/-- The runtime serializes the message of this frame, if it has one. -/
def Serializes (protobuf : Protobuf) (frame : SessionFrame) : Prop :=
  ∀ message, fillProto frame = .ok message → ∃ bytes, protobuf.serialize message = some bytes

end SessionFrame

/-- No digit of an error's integers is lost on the wire. -/
@[simp] theorem NativeError.carried_seen (error : NativeError) :
    Error.carried error.seen = error.seen := by
  simp [Error.carried, NativeError.seen]

/-- What arrives of a frame is what has a meaning. -/
theorem NativeFrame.carried_seen (native : NativeFrame) :
    native.seen.carried = native.seen.meaningful := by
  have error : Error.carried native.seen.error = native.seen.error := native.error.carried_seen
  rw [carried, meaningful, error]

variable {frame : SessionFrame}

/-- A frame that passes the rules has a message. -/
theorem fillProto_of_valid (valid : validateSessionFrame frame = .ok ()) :
    ∃ message, fillProto frame = .ok message := by
  have kind : frame.kind ≠ .unspecified := by
    have rules := valid
    simp only [validateSessionFrame, validateKindRules,
      validateEnvelope, checks_ok, refuse_ok] at rules
    exact rules.1.1
  have sent : ∃ wire, toProtoFrameKind frame.kind = .ok wire := by
    cases known : frame.kind <;> simp_all [toProtoFrameKind]
  obtain ⟨wire, sent⟩ := sent
  unfold validateSessionFrame at valid
  unfold fillProto
  rw [valid, sent]
  exact ⟨_, rfl⟩

/-- An outcome that was read stays as it is on the way back, and its phase can be sent. -/
theorem readOutcome_carried {message : Pb.Outcome} {hasOutcome success : Bool} {error : Error}
    (read : readOutcome message = .ok (hasOutcome, success, error)) :
    (hasOutcome && success) = success ∧
      (if hasOutcome && !success then Error.carried error else {}) = error ∧
      foreignPhase error = false := by
  cases message with
  | absent =>
    cases read
    exact ⟨rfl, rfl, rfl⟩
  | success value =>
    cases value with
    | false => cases read
    | true =>
      cases read
      exact ⟨rfl, rfl, rfl⟩
  | error failure =>
    simp only [readOutcome, readError, Bind.bind, Except.bind, pure, Except.pure] at read
    cases phase : fromProtoRequestPhase failure.requestPhase with
    | error refused => simp [phase] at read
    | ok value =>
      simp only [phase, Except.ok.injEq, Prod.mk.injEq] at read
      obtain ⟨rfl, rfl, rfl⟩ := read
      refine ⟨rfl, ?_, fromProtoRequestPhase_local phase⟩
      simp [Error.carried]

/-- A frame that was decoded stays as it is on the way back, and its phase can be sent. -/
theorem decodeSessionFrame_carried {protobuf : Protobuf} {bytes : Bytes}
    (decoded : decodeSessionFrame protobuf bytes = .ok frame) :
    frame.carried = frame ∧ foreignPhase frame.error = false := by
  unfold decodeSessionFrame at decoded
  split_ifs at decoded
  split at decoded
  · simp at decoded
  · next message parsed =>
    simp only [fromProto, checks_ok] at decoded
    obtain ⟨-, decoded⟩ := decoded
    obtain ⟨kind, -, decoded⟩ := bind_ok decoded
    obtain ⟨traffic, -, decoded⟩ := bind_ok decoded
    obtain ⟨reply, -, decoded⟩ := bind_ok decoded
    obtain ⟨⟨hasOutcome, success, error⟩, outcome, decoded⟩ := bind_ok decoded
    obtain ⟨flag, same, named⟩ := readOutcome_carried outcome
    simp only [checks_ok, pure, Except.pure, Except.ok.injEq] at decoded
    obtain ⟨-, rfl⟩ := decoded
    simp only [carried, flag, same, named, and_self]

/-- A frame that passes the rules and serializes is encoded, and decoded to what arrives. -/
theorem encode_of_valid {protobuf : Protobuf} (faithful : protobuf.Faithful)
    (valid : validateSessionFrame frame = .ok ()) (serializes : frame.Serializes protobuf) :
    ∃ bytes, encodeSessionFrame protobuf frame = .ok bytes ∧
      decodeSessionFrame protobuf bytes = .ok frame.carried := by
  obtain ⟨message, filled⟩ := fillProto_of_valid valid
  obtain ⟨bytes, serialized⟩ := serializes message filled
  have encoded : encodeSessionFrame protobuf frame = .ok bytes := by
    simp only [encodeSessionFrame, filled, serialized, Bind.bind, Except.bind]
  exact ⟨bytes, encoded, decode_encodeSessionFrame faithful encoded⟩

/-- A frame that passes the rules comes back from the wire with all that has a meaning, and a
frame that came from the wire passes the rules and goes back unchanged. -/
theorem session_frame_round_trip {protobuf : Protobuf} (faithful : protobuf.Faithful) :
    (∀ native : NativeFrame, validateSessionFrame native.seen = .ok () →
      native.seen.Serializes protobuf →
      ∃ bytes, encodeSessionFrame protobuf native.seen = .ok bytes ∧
        decodeSessionFrame protobuf bytes = .ok native.seen.meaningful) ∧
    (∀ bytes frame, decodeSessionFrame protobuf bytes = .ok frame →
      validateSessionFrame frame = .ok () ∧
      (frame.Serializes protobuf →
        ∃ again, encodeSessionFrame protobuf frame = .ok again ∧
          decodeSessionFrame protobuf again = .ok frame)) := by
  constructor
  · intro native valid serializes
    rw [← native.carried_seen]
    exact encode_of_valid faithful valid serializes
  · intro bytes frame decoded
    obtain ⟨same, named⟩ := decodeSessionFrame_carried decoded
    have valid : validateSessionFrame frame = .ok () :=
      (frame.validateKindRules_decoding fun _ _ => named).mp (decodeSessionFrame_valid decoded)
    refine ⟨valid, fun serializes => ?_⟩
    obtain ⟨again, encoded, returned⟩ := encode_of_valid faithful valid serializes
    rw [same] at returned
    exact ⟨again, encoded, returned⟩

/-- A refusal whose error code has no enumerator, with an integer at each end of its range. -/
def refusal : NativeFrame where
  fields := { kind := .sessionError, hasOutcome := true }
  error := { code := 99, message := text "no", backendCode := Int32.minValue,
             transferredBytes := UInt64.ofNat (2 ^ 64 - 1), requestPhase := some .writing }

/-- The refusal is within what is serialized. -/
theorem refusal_serializes : refusal.seen.Serializes Pb.runtime := by
  intro message filled
  have size : (fillProto refusal.seen).toOption.all fun message =>
      decide (message.sizeBound < Pb.messageLimit) := by decide +kernel
  simp only [filled, Except.toOption, Option.all_some, decide_eq_true_eq] at size
  obtain ⟨bytes, serialized, -⟩ := Pb.runtime_faithful.serialize_small message size
  exact ⟨bytes, serialized⟩

/-- The refusal arrives as an internal error, and goes back as it arrived. -/
theorem session_frame_round_trip_refusal : ∃ bytes again,
    encodeSessionFrame Pb.runtime refusal.seen = .ok bytes ∧
      decodeSessionFrame Pb.runtime bytes = .ok refusal.seen ∧
      encodeSessionFrame Pb.runtime refusal.seen = .ok again ∧
      decodeSessionFrame Pb.runtime again = .ok refusal.seen := by
  obtain ⟨there, back⟩ := session_frame_round_trip Pb.runtime_faithful
  obtain ⟨bytes, encoded, decoded⟩ := there refusal (by decide +kernel) refusal_serializes
  obtain ⟨-, returns⟩ := back bytes refusal.seen decoded
  obtain ⟨again, encoded', decoded'⟩ := returns refusal_serializes
  exact ⟨bytes, again, encoded, decoded, encoded', decoded'⟩

section Incremental

variable {protobuf : Protobuf}

/-- `Next` until it has no frame: the frames, and the error that ended it, if one did. -/
def takeAll (protobuf : Protobuf) (decoder : SessionFrameDecoder) :
    List SessionFrame × Option Error × SessionFrameDecoder :=
  match _taken : decoder.next protobuf with
  | (.error error, after) => ([], some error, after)
  | (.ok none, after) => ([], none, after)
  | (.ok (some frame), after) =>
    let later := takeAll protobuf after
    (frame :: later.1, later.2)
termination_by decoder.buffer.length
decreasing_by
  obtain ⟨-, -, body, split, -⟩ := next_some _taken
  rw [split, List.length_append, Framing.frame_length]
  unfold kFramePrefixBytes
  omega

/-- `Feed` for one chunk after the other, with all the frames of `Next` taken behind each. -/
def receive (protobuf : Protobuf) (decoder : SessionFrameDecoder) :
    List Bytes → List SessionFrame × Option Error × SessionFrameDecoder
  | [] => ([], none, decoder)
  | chunk :: chunks =>
    match decoder.feed chunk with
    | (.error error, after) => ([], some error, after)
    | (.ok (), fed) =>
      match takeAll protobuf fed with
      | (frames, some error, after) => (frames, some error, after)
      | (frames, none, after) =>
        let later := receive protobuf after chunks
        (frames ++ later.1, later.2)

/-- Each `Feed` stays within the pending limit, with what `Next` has left in the buffer. -/
def StaysPending (protobuf : Protobuf) (decoder : SessionFrameDecoder) : List Bytes → Prop
  | [] => True
  | chunk :: chunks =>
    decoder.pendingBytes + chunk.length ≤ decoder.pendingLimit ∧
      StaysPending protobuf (takeAll protobuf (decoder.feed chunk).2).2.2 chunks

variable {decoder : SessionFrameDecoder}

/-- A decoder without a whole frame ends the loop. -/
theorem takeAll_waits {after : SessionFrameDecoder}
    (waits : decoder.next protobuf = (.ok none, after)) :
    takeAll protobuf decoder = ([], none, after) := by
  rw [takeAll]
  split <;> simp_all

/-- A frame is taken, and the loop goes on. -/
theorem takeAll_frame {after : SessionFrameDecoder} {frame : SessionFrame}
    (taken : decoder.next protobuf = (.ok (some frame), after)) :
    takeAll protobuf decoder =
      (frame :: (takeAll protobuf after).1, (takeAll protobuf after).2) := by
  rw [takeAll]
  split <;> simp_all

/-- The loop takes the whole frames of a buffer and leaves less than a frame. -/
theorem takeAll_whole {later : Bytes}
    (streaming : Streaming decoder) (todo : List (Bytes × SessionFrame))
    (deliverable : ∀ d ∈ todo, Deliverable protobuf decoder.maxFrameBytes d.1 d.2)
    (legal : decoder.buffer ++ later = Framing.stream kFramePrefixBytes (todo.map Prod.fst)) :
    ∃ done left rest, todo = done ++ left ∧
      rest ++ later = Framing.stream kFramePrefixBytes (left.map Prod.fst) ∧
      (∀ d ∈ left.head?, rest.length < kFramePrefixBytes + d.1.length) ∧
      takeAll protobuf decoder = (done.map Prod.snd, none, { decoder with buffer := rest }) := by
  induction todo generalizing decoder with
  | nil =>
    rcases next_stream streaming [] deliverable legal with ⟨short, -, waits⟩ | taken
    · exact ⟨[], [], decoder.buffer, rfl, legal, short, takeAll_waits waits⟩
    · obtain ⟨body, frame, others, rest, absurd', -⟩ := taken
      cases absurd'
  | cons first others ih =>
    rcases next_stream streaming (first :: others) deliverable legal with
      ⟨short, -, waits⟩ | ⟨body, frame, others', behind, same, -, legal', taken⟩
    · exact ⟨[], first :: others, decoder.buffer, rfl, legal, short, takeAll_waits waits⟩
    · cases same
      obtain ⟨done, left, rest, split, legal', short, rest'⟩ :=
        ih (streaming.refill behind) (fun d member => deliverable d (by simp [member])) legal'
      refine ⟨(body, frame) :: done, left, rest, by rw [split]; rfl, legal', short, ?_⟩
      rw [takeAll_frame taken, rest']
      rfl

/-- A chunk of a legal stream is fed when it stays within the pending limit. -/
theorem feed_stream {chunk later : Bytes} {bodies : List Bytes} (streaming : Streaming decoder)
    (room : decoder.buffer.length + chunk.length ≤ decoder.pendingLimit)
    (small : ∀ body ∈ bodies, body.length ≤ decoder.maxFrameBytes)
    (legal : decoder.buffer ++ chunk ++ later = Framing.stream kFramePrefixBytes bodies) :
    decoder.feed chunk = (.ok (), { decoder with buffer := decoder.buffer ++ chunk }) := by
  apply feed_accepts streaming.alive room
  rw [streaming.data, streaming.limits.1]
  have fits : ∀ body ∈ bodies, body.length < 256 ^ kFramePrefixBytes := by
    intro body member
    exact length_fits ((small body member).trans streaming.most)
  exact feedLoop_data bodies (Nat.zero_le _)
    (by rw [drop_zero]; exact legal) fits small

/-- From any cut of the rest of a legal stream the decoder hands out its frames. The buffer
holds less than the first of them. -/
theorem receive_stream (streaming : Streaming decoder)
    (todo : List (Bytes × SessionFrame)) (chunks : List Bytes)
    (deliverable : ∀ d ∈ todo, Deliverable protobuf decoder.maxFrameBytes d.1 d.2)
    (short : ∀ d ∈ todo.head?, decoder.buffer.length < kFramePrefixBytes + d.1.length)
    (legal : decoder.buffer ++ chunks.flatten =
      Framing.stream kFramePrefixBytes (todo.map Prod.fst))
    (stays : StaysPending protobuf decoder chunks) :
    receive protobuf decoder chunks =
      (todo.map Prod.snd, none, { decoder with buffer := [] }) := by
  induction chunks generalizing decoder todo with
  | nil =>
    rw [flatten_nil, append_nil] at legal
    cases todo with
    | nil =>
      rw [map_nil, Framing.stream_nil] at legal
      simp [receive, ← legal]
    | cons first others =>
      have part := short first rfl
      have lengths := congrArg length legal
      rw [map_cons, Framing.stream_cons, length_append, Framing.frame_length] at lengths
      omega
  | cons chunk chunks ih =>
    obtain ⟨room, stays⟩ := stays
    rw [flatten_cons, ← append_assoc] at legal
    have small : ∀ body ∈ todo.map Prod.fst, body.length ≤ decoder.maxFrameBytes := by
      intro body member
      obtain ⟨d, own, rfl⟩ := mem_map.mp member
      exact (deliverable d own).small
    have fed := feed_stream streaming room small legal
    obtain ⟨done, left, rest, rfl, legal', short', taken⟩ :=
      takeAll_whole (streaming.refill (decoder.buffer ++ chunk)) todo deliverable legal
    rw [fed, taken] at stays
    have next := ih (streaming.refill rest) left
      (fun d member => deliverable d (by simp [member])) short' legal' stays
    simp only [receive, fed, taken, next, map_append]

/-- Chunks without bytes change nothing. -/
theorem receive_nothing (alive : decoder.terminalError = none)
    (empty : decoder.buffer = []) {chunks : List Bytes} (nothing : chunks.flatten = []) :
    receive protobuf decoder chunks = ([], none, decoder) := by
  induction chunks with
  | nil => rfl
  | cons chunk chunks ih =>
    rw [flatten_cons, append_eq_nil_iff] at nothing
    obtain ⟨rfl, nothing⟩ := nothing
    have clean : (feedLoop decoder.declaredLimit decoder.helloPhase 0
        decoder.buffer []).2 = none := by
      rw [empty, feedLoop]
      rfl
    have fed := feed_accepts alive (by simp [empty]) clean
    have same : { decoder with buffer := decoder.buffer ++ [] } = decoder := by simp
    rw [same] at fed
    have waits := takeAll_waits (next_empty protobuf alive empty)
    simp only [receive, fed, waits, ih nothing, nil_append]

end Incremental

/-- From any cut of framed frames that never feeds more than the pending limit, the decoder of
the data phase accepts every chunk, hands out the frames in their order and keeps nothing. -/
theorem incremental_decoding {protobuf : Protobuf} (faithful : protobuf.Faithful)
    (maxFrameBytes : Nat) (frames : List NativeFrame) (frameBytes chunks : List Bytes)
    (sent : List.Forall₂ (fun native bytes =>
      encodeFramedSessionFrame protobuf native.seen maxFrameBytes = .ok bytes) frames frameBytes)
    (cut : chunks.flatten = frameBytes.flatten)
    (stays : StaysPending protobuf { maxFrameBytes, helloPhase := false } chunks) :
    receive protobuf { maxFrameBytes, helloPhase := false } chunks =
      (frames.map fun native => native.seen.meaningful, none,
        { maxFrameBytes, helloPhase := false }) := by
  cases sent with
  | nil => exact receive_nothing rfl rfl cut
  | @cons native bytes others otherBytes encoded later =>
    have most := (encodeFramedSessionFrame_ok encoded).1
    obtain ⟨todo, deliverable, split, carried⟩ := LegalStream.exists_deliverable faithful
      (forall₂_map_left_iff.mpr (.cons encoded later))
    have legal : chunks.flatten = Framing.stream kFramePrefixBytes (todo.map Prod.fst) := by
      rw [cut, split, Framing.stream, map_map]
    have start : Streaming { maxFrameBytes, helloPhase := false } := ⟨rfl, rfl, most⟩
    have received := receive_stream start todo chunks deliverable
      (fun d _ => by unfold kFramePrefixBytes; simp) legal stays
    rw [received, ← carried, map_map]
    congr 1
    exact map_congr_left fun native _ => native.carried_seen

/-- A `Close` that says it was a success, though it has no outcome. -/
def boast : NativeFrame where
  fields := { kind := .close, success := true }

/-- It is written, and its bytes stay within the pending limit. -/
theorem boast_encodes : ∃ bytes, encodeFramedSessionFrame Pb.runtime boast.seen 64 = .ok bytes ∧
    StaysPending Pb.runtime { maxFrameBytes := 64, helloPhase := false } [bytes] := by
  have size : (encodeFramedSessionFrame Pb.runtime boast.seen 64).toOption.any
      (fun bytes => decide (bytes.length ≤ 68)) := by decide +kernel
  cases encoded : encodeFramedSessionFrame Pb.runtime boast.seen 64 with
  | error error => simp [encoded, Except.toOption] at size
  | ok bytes =>
    simp only [encoded, Except.toOption, Option.any_some, decide_eq_true_eq] at size
    refine ⟨bytes, rfl, ?_, trivial⟩
    show 0 + bytes.length ≤ 132
    omega

/-- The frame is taken out of its bytes, fed as one chunk. -/
theorem incremental_decoding_boast : ∃ bytes,
    encodeFramedSessionFrame Pb.runtime boast.seen 64 = .ok bytes ∧
      receive Pb.runtime { maxFrameBytes := 64, helloPhase := false } [bytes] =
        ([boast.seen.meaningful], none, { maxFrameBytes := 64, helloPhase := false }) := by
  obtain ⟨bytes, encoded, stays⟩ := boast_encodes
  exact ⟨bytes, encoded, incremental_decoding Pb.runtime_faithful 64 [boast] [bytes] [bytes]
    (.cons encoded .nil) rfl stays⟩

/-- What is handed out for the boast is not the frame that was encoded. -/
theorem boast_returns_plain : ∃ bytes,
    encodeFramedSessionFrame Pb.runtime boast.seen 64 = .ok bytes ∧
      StaysPending Pb.runtime { maxFrameBytes := 64, helloPhase := false } [bytes] ∧
      (receive Pb.runtime { maxFrameBytes := 64, helloPhase := false } [bytes]).1 ≠
        [boast.seen] := by
  obtain ⟨bytes, encoded, stays⟩ := boast_encodes
  obtain ⟨body, rfl, deliverable⟩ := Deliverable.of_encoded Pb.runtime_faithful encoded
  have start : Streaming { maxFrameBytes := 64, helloPhase := false } :=
    ⟨rfl, rfl, by decide⟩
  have received := receive_stream start [(body, boast.seen.carried)] _
    (by simpa using deliverable) (fun d _ => by unfold kFramePrefixBytes; simp)
    (by simp [Framing.stream]) stays
  refine ⟨_, encoded, stays, ?_⟩
  have plain : [boast.seen.carried] ≠ [boast.seen] := by decide +kernel
  rw [received]
  exact plain

end BbtInfra.Rpc
