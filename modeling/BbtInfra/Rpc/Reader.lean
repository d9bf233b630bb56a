import BbtInfra.Rpc.HandshakeRuns

/-!
# Reading a link

What comes in on one connection is read three times over: by `ReadHandshakeFrame` for the
`Hello`, by `ReadHandshakeFrame` for the `HelloAck`, and by `ReaderLoop` for the rest. Here the
batches of `Read` are given and each reader takes as many of them as it needs. The checks and
writes between the reads touch neither the decoder nor the stash and are left out.
-/
namespace BbtInfra.Rpc

open Lib SessionFrameDecoder Framing
open List hiding after

/-- What `ReadHandshakeFrame` makes of the batches of `Read` when its gate lets it pass: a frame
and the batches it did not need, or none when it waits for another batch. -/
def handshakeRead (protobuf : Protobuf) (decoder : SessionFrameDecoder) (stash : Bytes)
    (batches : List (List Bytes)) : Except Error (Option (HandshakeRead × List (List Bytes))) :=
  match scanHeld protobuf decoder stash with
  | .error error => .error error
  | .ok (.found read) => .ok (some (read, batches))
  | .ok (.dry drained) =>
    match batches with
    | [] => .ok none
    | segments :: later =>
      match takeBatch protobuf drained segments with
      | .error error => .error error
      | .ok (.found read) => .ok (some (read, later))
      | .ok (.dry after) => handshakeRead protobuf after [] later

section Rounds

variable {protobuf : Protobuf} {body tail later : Bytes} {frame : SessionFrame}

/-- Less than a frame and no stash ask for a batch. -/
theorem scanHeld_waits {decoder : SessionFrameDecoder} (listening : Listening decoder)
    (admissible : Admissible protobuf decoder.maxFrameBytes body frame)
    (legal : decoder.buffer ++ later = Framing.frame kFramePrefixBytes body ++ tail)
    (part : decoder.buffer.length < kFramePrefixBytes + body.length) :
    scanHeld protobuf decoder [] = .ok (.dry decoder) := by
  have declared : body.length ≤ decoder.declaredLimit := by
    rw [listening.limits.1]
    exact admissible.limited
  unfold scanHeld
  rw [next_waits protobuf listening.alive legal part admissible.filled
    admissible.fits declared]
  dsimp only
  rw [feedChunks, dif_pos rfl]
  rfl

/-- A frame that is not there yet comes with the batch that brings its last byte, when the piece
that does fits, and is refused otherwise. -/
theorem handshakeRead_rounds {decoder drained : SessionFrameDecoder} {stash : Bytes}
    {batches : List (List Bytes)} (scanned : scanHeld protobuf decoder stash = .ok (.dry drained))
    (listening : Listening drained)
    (admissible : Admissible protobuf drained.maxFrameBytes body frame)
    (legal : drained.buffer ++ batches.flatten.flatten =
      Framing.frame kFramePrefixBytes body ++ tail)
    (part : drained.buffer.length < kFramePrefixBytes + body.length) :
    ∃ before segments others, batches = before ++ segments :: others ∧
      drained.buffer.length + before.flatten.flatten.length < kFramePrefixBytes + body.length ∧
      kFramePrefixBytes + body.length ≤
        drained.buffer.length + before.flatten.flatten.length + segments.flatten.length ∧
      (segmentReach (drained.buffer.length + before.flatten.flatten.length)
          (segments.map List.length) (kFramePrefixBytes + body.length) ≤ drained.pendingLimit →
        ∃ rest, rest ++ others.flatten.flatten = tail ∧
          handshakeRead protobuf decoder stash batches =
            .ok (some ({ frame, decoder := { drained with buffer := [] }, stash := rest },
              others))) ∧
      (drained.pendingLimit < segmentReach (drained.buffer.length + before.flatten.flatten.length)
          (segments.map List.length) (kFramePrefixBytes + body.length) →
        ∃ error, handshakeRead protobuf decoder stash batches = .error error) := by
  induction batches generalizing decoder stash drained with
  | nil =>
    have lengths := congrArg length legal
    simp only [flatten_nil, append_nil, length_append, frame_length]
      at lengths
    omega
  | cons segments others ih =>
    rw [flatten_cons, flatten_append, ← append_assoc] at legal
    by_cases short : drained.buffer.length + segments.flatten.length <
        kFramePrefixBytes + body.length
    · have taken := takeBatch_short listening admissible legal short
      have goes : handshakeRead protobuf decoder stash (segments :: others) =
          handshakeRead protobuf { drained with buffer := drained.buffer ++ segments.flatten } []
            others := by
        rw [handshakeRead, scanned]
        dsimp only
        rw [taken]
      have longer : (drained.buffer ++ segments.flatten).length =
          drained.buffer.length + segments.flatten.length := length_append
      have waits := scanHeld_waits (listening.refill (drained.buffer ++ segments.flatten))
        admissible legal (by rw [longer]; exact short)
      obtain ⟨before, last, more, split, early, reached, fits, large⟩ :=
        ih waits (listening.refill _) admissible legal (by rw [longer]; exact short)
      have moved : drained.buffer.length + (segments :: before).flatten.flatten.length =
          (drained.buffer ++ segments.flatten).length + before.flatten.flatten.length := by
        rw [longer, flatten_cons, flatten_append, length_append]
        omega
      refine ⟨segments :: before, last, more, by rw [split]; rfl, ?_⟩
      rw [moved, goes]
      exact ⟨early, reached, fits, large⟩
    · obtain ⟨fits, large⟩ := takeBatch_reach listening admissible legal part (by omega)
      refine ⟨[], segments, others, rfl, by simpa using part, by simpa using short, ?_, ?_⟩
      · intro room
        obtain ⟨read, taken⟩ := fits room
        have reads := takeBatch_found listening.hello taken
        obtain ⟨same, behind⟩ := reads.of_legal admissible legal
        refine ⟨read.stash, behind, ?_⟩
        rw [handshakeRead, scanned]
        dsimp only
        rw [taken, ← same, ← reads.decoder]
      · intro beyond
        obtain ⟨error, refused⟩ := large beyond
        refine ⟨error, ?_⟩
        rw [handshakeRead, scanned]
        dsimp only
        rw [refused]

/-- A frame that is there is found in the stash. -/
theorem handshakeRead_held {decoder : SessionFrameDecoder} {stash : Bytes}
    (batches : List (List Bytes)) (listening : Listening decoder) (empty : decoder.buffer = [])
    (admissible : Admissible protobuf decoder.maxFrameBytes body frame)
    (legal : stash ++ later = Framing.frame kFramePrefixBytes body ++ tail)
    (reached : kFramePrefixBytes + body.length ≤ stash.length) :
    (chunkReach 0 stash.length (kFramePrefixBytes + body.length) ≤ decoder.pendingLimit →
      ∃ rest, rest ++ later = tail ∧ handshakeRead protobuf decoder stash batches =
        .ok (some ({ frame, decoder := { decoder with buffer := [] }, stash := rest },
          batches))) ∧
    (decoder.pendingLimit < chunkReach 0 stash.length (kFramePrefixBytes + body.length) →
      ∃ error, handshakeRead protobuf decoder stash batches = .error error) := by
  obtain ⟨fits, large⟩ := scanHeld_reach listening empty admissible legal reached
  constructor
  · intro room
    obtain ⟨read, scanned⟩ := fits room
    have reads := scanHeld_found listening.hello scanned
    obtain ⟨same, behind⟩ := reads.of_legal admissible (by rw [empty]; exact legal)
    refine ⟨read.stash, behind, ?_⟩
    rw [handshakeRead, scanned, ← same, ← reads.decoder]
  · intro beyond
    obtain ⟨error, refused⟩ := large beyond
    refine ⟨error, ?_⟩
    rw [handshakeRead, refused]

end Rounds

/-- `std::errc::protocol_error`. -/
def protocolErrorCode : StdErrorCode := .generic 71
/-- `std::errc::connection_reset`. -/
def connectionResetCode : StdErrorCode := .generic 104

/-- `DispatchInbound`, as far as its reader is concerned: the frame kills the session. Frames of
another epoch are dropped before their kind is looked at. -/
def endsSession (epoch : UInt64) (frame : SessionFrame) : Bool :=
  if frame.sessionEpoch ≠ 0 ∧ frame.sessionEpoch ≠ epoch then false
  else
    match frame.kind with
    | .sessionError | .close | .hello | .helloAck | .unspecified => true
    | .call | .response | .send | .sendAccepted => false

/-- How far `ReaderLoop` has got, with the frames that it handed to `DispatchInbound`. -/
inductive Reading
  /-- In `Read`, or on its way there. -/
  | waiting (decoder : SessionFrameDecoder) (handed : List SessionFrame)
  /-- Returned because the session is dead. -/
  | dead (handed : List SessionFrame)
  /-- Returned behind a `Kill` of its own. -/
  | killed (reason : StdErrorCode) (handed : List SessionFrame)
  deriving DecidableEq

/-- The first loop of `ReaderLoop`: hand out what the decoder holds. The session is taken to be
alive unless a frame has ended it. -/
def drain (protobuf : Protobuf) (epoch : UInt64) (decoder : SessionFrameDecoder)
    (handed : List SessionFrame) : Reading :=
  match _taken : decoder.next protobuf with
  | (.error _, _) => .killed protocolErrorCode handed
  | (.ok none, after) => .waiting after handed
  | (.ok (some frame), after) =>
    if endsSession epoch frame then .dead (handed ++ [frame])
    else drain protobuf epoch after (handed ++ [frame])
termination_by decoder.buffer.length
decreasing_by
  obtain ⟨-, -, body, split, -⟩ := next_some _taken
  rw [split, length_append, frame_length]
  unfold kFramePrefixBytes
  omega

/-- The segment loop of `ReaderLoop`: no frame is handed out between two segments. -/
def feedAll (decoder : SessionFrameDecoder) : List Bytes → Option SessionFrameDecoder
  | [] => some decoder
  | segment :: later =>
    match decoder.feed segment with
    | (.ok (), after) => feedAll after later
    | (.error _, _) => none

/-- The reader did not kill the session, and handed out these frames. -/
def Reading.HandedOut : Reading → List SessionFrame → Prop
  | .waiting _ handed, frames => handed = frames
  | .dead handed, frames => handed = frames
  | .killed _ _, _ => False

/-- `ReaderLoop`, over what `Read` returns. -/
def readerLoop (protobuf : Protobuf) (epoch : UInt64) (decoder : SessionFrameDecoder)
    (handed : List SessionFrame) (reads : List (Except StdErrorCode (List Bytes))) : Reading :=
  match drain protobuf epoch decoder handed with
  | .dead handed => .dead handed
  | .killed reason handed => .killed reason handed
  | .waiting after handed =>
    match reads with
    | [] => .waiting after handed
    | .ok segments :: later =>
      match feedAll after segments with
      | some fed => readerLoop protobuf epoch fed handed later
      | none => .killed protocolErrorCode handed
    | .error code :: _ =>
      if code = .net NetErrc.eof then .killed connectionResetCode handed
      else .killed code handed

/-- The frames of a link at its three readers. -/
structure LinkReading where
  hello : SessionFrame
  ack : SessionFrame
  reading : Reading
  deriving DecidableEq

/-- The calls that read a link, in their order: `ReadHandshakeFrame` twice,
`CommitStashAfterFinalAck`, `ReaderLoop`. None when a handshake frame is still missing. -/
def readLink (protobuf : Protobuf) (epoch : UInt64) (maxFrameBytes : Nat)
    (batches : List (List Bytes)) : Except Error (Option LinkReading) := do
  match ← handshakeRead protobuf { maxFrameBytes } [] batches with
  | none => return none
  | some (hello, later) =>
    match ← handshakeRead protobuf hello.decoder hello.stash later with
    | none => return none
    | some (ack, rest) =>
      let decoder ← commitStashAfterFinalAck ack.decoder ack.stash
      let reading := readerLoop protobuf epoch decoder [] (rest.map .ok)
      return some { hello := hello.frame, ack := ack.frame, reading }

section Live

variable {protobuf : Protobuf} {epoch : UInt64} {decoder after : SessionFrameDecoder}
  {handed : List SessionFrame} {frame : SessionFrame} {body later : Bytes}

/-- A decoder of the data phase that has no error. -/
structure Streaming (decoder : SessionFrameDecoder) : Prop where
  alive : decoder.terminalError = none
  data : decoder.helloPhase = false
  most : decoder.maxFrameBytes ≤ kRpcV2MaxFrameBytes

/-- The limits of a decoder in the data phase. -/
theorem Streaming.limits (streaming : Streaming decoder) :
    decoder.declaredLimit = decoder.maxFrameBytes ∧
      decoder.pendingLimit = 4 + 2 * decoder.maxFrameBytes := by
  have declared : decoder.declaredLimit = decoder.maxFrameBytes := by
    simp [declaredLimit, streaming.data]
  refine ⟨declared, ?_⟩
  rw [pendingLimit, declared, min_eq_left streaming.most]

/-- A streaming decoder stays one when its buffer changes. -/
theorem Streaming.refill (streaming : Streaming decoder) (buffer : Bytes) :
    Streaming { decoder with buffer } := ⟨streaming.alive, streaming.data, streaming.most⟩

/-- A body that a decoder with this frame limit takes in the data phase. -/
structure Deliverable (protobuf : Protobuf) (maxFrameBytes : Nat) (body : Bytes)
    (frame : SessionFrame) : Prop where
  decoded : decodeSessionFrame protobuf body = .ok frame
  filled : body ≠ []
  limited : body.length ≤ frameByteLimit frame.kind maxFrameBytes

/-- The frame limit bounds every body. -/
theorem Deliverable.small {maxFrameBytes : Nat}
    (deliverable : Deliverable protobuf maxFrameBytes body frame) : body.length ≤ maxFrameBytes :=
  deliverable.limited.trans (frameByteLimit_le _ _)

/-- An encoded frame is deliverable at the other end. -/
theorem Deliverable.of_encoded (faithful : protobuf.Faithful) {maxFrameBytes : Nat} {bytes : Bytes}
    (encoded : encodeFramedSessionFrame protobuf frame maxFrameBytes = .ok bytes) :
    ∃ body, bytes = Framing.frame kFramePrefixBytes body ∧
      Deliverable protobuf maxFrameBytes body frame.carried := by
  obtain ⟨-, body, made, limited, rfl⟩ := encodeFramedSessionFrame_ok encoded
  exact ⟨body, rfl, decode_encodeSessionFrame faithful made,
    encodeSessionFrame_ne_nil faithful made, limited⟩

/-- A decoder without a whole frame ends the inner loop. -/
theorem drain_waits (waits : decoder.next protobuf = (.ok none, after)) :
    drain protobuf epoch decoder handed = .waiting after handed := by
  rw [drain]
  split <;> simp_all

/-- A frame is handed out, and the loop goes on unless it ends the session. -/
theorem drain_frame (taken : decoder.next protobuf = (.ok (some frame), after)) :
    drain protobuf epoch decoder handed =
      if endsSession epoch frame then .dead (handed ++ [frame])
      else drain protobuf epoch after (handed ++ [frame]) := by
  rw [drain]
  split <;> simp_all

/-- The frames up to the first that ends the session. -/
def untilEnd (epoch : UInt64) : List SessionFrame → List SessionFrame
  | [] => []
  | frame :: later => if endsSession epoch frame then [frame] else frame :: untilEnd epoch later

/-- Frames behind one that ends the session do not count. -/
theorem untilEnd_append (frames others : List SessionFrame) :
    untilEnd epoch (frames ++ others) =
      if frames.any (endsSession epoch) then untilEnd epoch frames
      else frames ++ untilEnd epoch others := by
  induction frames with
  | nil => simp
  | cons frame frames ih =>
    rw [cons_append, untilEnd, untilEnd, ih, any_cons]
    by_cases ends : endsSession epoch frame = true
    · simp [ends]
    · by_cases later : frames.any (endsSession epoch) = true
      · simp [ends, later]
      · simp [ends, later]

/-- No frame is added. -/
theorem untilEnd_length_le (frames : List SessionFrame) :
    (untilEnd epoch frames).length ≤ frames.length := by
  induction frames with
  | nil => exact Nat.le_refl _
  | cons frame frames ih =>
    rw [untilEnd]
    split_ifs
    · simp
    · rw [length_cons, length_cons]
      omega

/-- All frames count when none in front of the last ends the session. -/
theorem untilEnd_eq_iff (frames : List SessionFrame) :
    untilEnd epoch frames = frames ↔
      ∀ frame ∈ frames.dropLast, endsSession epoch frame = false := by
  induction frames with
  | nil => simp [untilEnd]
  | cons frame frames ih =>
    rw [untilEnd]
    cases frames with
    | nil => simp [untilEnd]
    | cons next later =>
      by_cases ends : endsSession epoch frame = true
      · simp [ends]
      · simp [ends, ih]

/-- `Next` on a buffer that begins at a frame boundary of a legal stream: it waits while less
than a frame is there, and takes the frame otherwise. -/
theorem next_stream (streaming : Streaming decoder) (todo : List (Bytes × SessionFrame))
    (deliverable : ∀ d ∈ todo, Deliverable protobuf decoder.maxFrameBytes d.1 d.2)
    (legal : decoder.buffer ++ later = stream kFramePrefixBytes (todo.map Prod.fst)) :
    ((∀ d ∈ todo.head?, decoder.buffer.length < kFramePrefixBytes + d.1.length) ∧
        (todo = [] → decoder.buffer = []) ∧ decoder.next protobuf = (.ok none, decoder)) ∨
      ∃ body frame others rest, todo = (body, frame) :: others ∧
        decoder.buffer = Framing.frame kFramePrefixBytes body ++ rest ∧
        rest ++ later = stream kFramePrefixBytes (others.map Prod.fst) ∧
        decoder.next protobuf = (.ok (some frame), { decoder with buffer := rest }) := by
  cases todo with
  | nil =>
    have empty : decoder.buffer = [] := (append_eq_nil_iff.mp legal).1
    exact .inl ⟨by simp, fun _ => empty,
      next_empty protobuf streaming.alive empty⟩
  | cons first others =>
    obtain ⟨body, frame⟩ := first
    have own : Deliverable protobuf decoder.maxFrameBytes body frame :=
      deliverable (body, frame) (by simp)
    have fits := length_fits (own.small.trans streaming.most)
    have declared : body.length ≤ decoder.declaredLimit := by
      rw [streaming.limits.1]
      exact own.small
    rw [map_cons, stream_cons] at legal
    by_cases part : decoder.buffer.length < kFramePrefixBytes + body.length
    · exact .inl ⟨by simpa using part, by simp, next_waits protobuf
        streaming.alive legal part own.filled fits declared⟩
    · have behind := drop_arrived legal (Nat.not_lt.mp part)
      have front : decoder.buffer = Framing.frame kFramePrefixBytes body ++
          decoder.buffer.drop (kFramePrefixBytes + body.length) := by
        have taken := congrArg (take (kFramePrefixBytes + body.length)) legal
        rw [take_append_of_le_length (Nat.not_lt.mp part),
          take_left' (frame_length _ _)] at taken
        rw [← taken, take_append_drop]
      exact .inr ⟨body, frame, others, _, rfl, front, behind, next_frame
        streaming.alive front own.decoded own.filled fits declared own.limited⟩

/-- The inner loop on a buffer that begins at a frame boundary: it hands out the whole frames,
up to the first that ends the session, and leaves less than a frame. -/
theorem drain_whole (streaming : Streaming decoder) (todo : List (Bytes × SessionFrame))
    (handed : List SessionFrame)
    (deliverable : ∀ d ∈ todo, Deliverable protobuf decoder.maxFrameBytes d.1 d.2)
    (legal : decoder.buffer ++ later = stream kFramePrefixBytes (todo.map Prod.fst)) :
    ∃ done left rest, todo = done ++ left ∧
      decoder.buffer = stream kFramePrefixBytes (done.map Prod.fst) ++ rest ∧
      rest ++ later = stream kFramePrefixBytes (left.map Prod.fst) ∧
      (∀ d ∈ left.head?, rest.length < kFramePrefixBytes + d.1.length) ∧
      drain protobuf epoch decoder handed =
        if (done.map Prod.snd).any (endsSession epoch) then
          .dead (handed ++ untilEnd epoch (done.map Prod.snd))
        else .waiting { decoder with buffer := rest } (handed ++ done.map Prod.snd) := by
  induction todo generalizing decoder handed with
  | nil =>
    rcases next_stream streaming [] deliverable legal with ⟨-, _, waits⟩ | taken
    · refine ⟨[], [], decoder.buffer, rfl, rfl, legal, by simp, ?_⟩
      rw [drain_waits waits]
      simp
    · obtain ⟨body, frame, others, rest, absurd', -⟩ := taken
      cases absurd'
  | cons first others ih =>
    rcases next_stream streaming (first :: others) deliverable legal with
      ⟨short, -, waits⟩ | ⟨body, frame, others', behind, same, front, legal', taken⟩
    · refine ⟨[], first :: others, decoder.buffer, rfl, rfl, legal, short, ?_⟩
      rw [drain_waits waits]
      simp
    · cases same
      obtain ⟨done, left, rest, split, whole, legal', short, drained⟩ :=
        ih (streaming.refill behind) (handed ++ [frame])
          (fun d member => deliverable d (by simp [member])) legal'
      refine ⟨(body, frame) :: done, left, rest, by rw [split]; rfl, ?_, legal', short, ?_⟩
      · rw [map_cons, stream_cons, append_assoc]
        exact front.trans (congrArg _ whole)
      · rw [drain_frame taken, map_cons, any_cons, untilEnd]
        by_cases ends : endsSession epoch frame = true
        · simp [ends]
        · rw [if_neg ends, drained, if_neg ends]
          simp only [ends, Bool.false_or, append_assoc, cons_append, nil_append]

/-- Segments of a legal stream are taken when they fit, all together, and refused otherwise. -/
theorem feedAll_iff (streaming : Streaming decoder) (segments : List Bytes) (bodies : List Bytes)
    (held : decoder.buffer.length ≤ decoder.pendingLimit)
    (small : ∀ body ∈ bodies, body.length ≤ decoder.maxFrameBytes)
    (legal : decoder.buffer ++ segments.flatten ++ later =
      Framing.stream kFramePrefixBytes bodies) :
    feedAll decoder segments =
      if decoder.buffer.length + segments.flatten.length ≤ decoder.pendingLimit then
        some { decoder with buffer := decoder.buffer ++ segments.flatten }
      else none := by
  induction segments generalizing decoder with
  | nil => simp [feedAll, held]
  | cons segment others ih =>
    rw [flatten_cons, length_append]
    rw [feedAll]
    by_cases room : decoder.buffer.length + segment.length ≤ decoder.pendingLimit
    · have clean : (feedLoop decoder.declaredLimit decoder.helloPhase 0
          decoder.buffer segment).2 = none := by
        rw [streaming.data, streaming.limits.1]
        have ahead : decoder.buffer.drop 0 ++ segment ++ (others.flatten ++ later) =
            stream kFramePrefixBytes bodies := by
          rw [drop_zero, ← legal, flatten_cons]
          simp only [append_assoc]
        have fits : ∀ body ∈ bodies, body.length < 256 ^ kFramePrefixBytes := by
          intro body member
          exact length_fits ((small body member).trans streaming.most)
        exact feedLoop_data bodies (Nat.zero_le _) ahead fits small
      rw [feed_accepts streaming.alive room clean]
      have same : { decoder with buffer := decoder.buffer ++ segment }.pendingLimit =
          decoder.pendingLimit := rfl
      have rest := ih (streaming.refill (decoder.buffer ++ segment))
        (by rw [same, length_append]; exact room) small
        (by rw [← legal, flatten_cons]; simp only [append_assoc])
      dsimp only
      rw [rest, same, length_append, append_assoc, Nat.add_assoc]
    · obtain ⟨error, after, refused⟩ := feed_overflow (Nat.not_le.mp room)
      rw [refused, if_neg (by omega)]

end Live

end BbtInfra.Rpc
