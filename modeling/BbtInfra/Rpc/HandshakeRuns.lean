import BbtInfra.Rpc.HandshakeSpec

/-!
# When a handshake read succeeds

Both loops of `ReadHandshakeFrame` feed pieces of at most 32 KiB and look for a frame behind
each. A frame is found when the piece that completes it still fits the decoder; the place
where that piece ends depends on the cut of the stream only.
-/
namespace BbtInfra.Rpc

open Lib SessionFrameDecoder Framing List

/-- The end of the first 32 KiB piece that reaches the target, in bytes that begin at `start`. -/
def chunkReach (start size target : Nat) : Nat :=
  start + min size
    (kHandshakeFeedChunk * ((target - start + (kHandshakeFeedChunk - 1)) / kHandshakeFeedChunk))

/-- The first piece reaches the target. -/
theorem chunkReach_first {start size target : Nat} (before : start < target)
    (reached : target ≤ start + min size kHandshakeFeedChunk) :
    chunkReach start size target = start + min size kHandshakeFeedChunk := by
  have one : (target - start + (kHandshakeFeedChunk - 1)) / kHandshakeFeedChunk = 1 := by
    unfold kHandshakeFeedChunk at reached ⊢
    omega
  rw [chunkReach, one, Nat.mul_one]

/-- The first piece falls short of the target. -/
theorem chunkReach_next {start size target : Nat}
    (short : start + kHandshakeFeedChunk < target) (more : kHandshakeFeedChunk ≤ size) :
    chunkReach start size target =
      chunkReach (start + kHandshakeFeedChunk) (size - kHandshakeFeedChunk) target := by
  have fewer : (target - start + (kHandshakeFeedChunk - 1)) / kHandshakeFeedChunk =
      (target - (start + kHandshakeFeedChunk) + (kHandshakeFeedChunk - 1)) /
        kHandshakeFeedChunk + 1 := by
    rw [← Nat.add_div_right _ (by decide)]
    congr 1
    omega
  rw [chunkReach, chunkReach, fewer, Nat.mul_add, Nat.mul_one]
  omega

/-- A piece ends within its bytes. -/
theorem chunkReach_le (start size target : Nat) : chunkReach start size target ≤ start + size := by
  unfold chunkReach
  omega

/-- A body that a handshake decoder with this frame limit takes. -/
structure Admissible (protobuf : Protobuf) (maxFrameBytes : Nat) (body : Bytes)
    (frame : SessionFrame) : Prop where
  decoded : decodeSessionFrame protobuf body = .ok frame
  filled : body ≠ []
  kind : frame.kind = .hello ∨ frame.kind = .helloAck
  limited : body.length ≤ min maxFrameBytes kRpcV2HelloMaxFrameBytes

namespace Admissible

variable {protobuf : Protobuf} {maxFrameBytes : Nat} {body : Bytes} {frame : SessionFrame}

/-- The body fits the length field. -/
theorem fits (admissible : Admissible protobuf maxFrameBytes body frame) :
    body.length < 256 ^ kFramePrefixBytes := by
  have limit : kRpcV2HelloMaxFrameBytes < 256 ^ kFramePrefixBytes := by decide
  have limited := admissible.limited
  omega

/-- An encoded handshake frame is admissible at the other end. -/
theorem of_encoded (faithful : protobuf.Faithful) {bytes : Bytes}
    (encoded : encodeFramedSessionFrame protobuf frame maxFrameBytes = .ok bytes)
    (kind : frame.kind = .hello ∨ frame.kind = .helloAck) :
    ∃ body, bytes = Framing.frame kFramePrefixBytes body ∧
      Admissible protobuf maxFrameBytes body frame.carried := by
  obtain ⟨-, body, made, limited, rfl⟩ := encodeFramedSessionFrame_ok encoded
  refine ⟨body, rfl, decode_encodeSessionFrame faithful made,
    encodeSessionFrame_ne_nil faithful made, kind, ?_⟩
  unfold frameByteLimit at limited
  rwa [if_pos kind] at limited

end Admissible

section Feeding

variable {protobuf : Protobuf} {body later tail : Bytes} {frame : SessionFrame}

/-- A decoder of the handshake phase that has no error. -/
structure Listening (decoder : SessionFrameDecoder) : Prop where
  alive : decoder.terminalError = none
  hello : decoder.helloPhase = true

variable {decoder : SessionFrameDecoder} {bytes : Bytes} {segments : List Bytes}

/-- The limits of a listening decoder. -/
theorem Listening.limits (listening : Listening decoder) :
    decoder.declaredLimit = min decoder.maxFrameBytes kRpcV2HelloMaxFrameBytes ∧
      4 + 2 * min decoder.maxFrameBytes kRpcV2HelloMaxFrameBytes = decoder.pendingLimit := by
  have declared : decoder.declaredLimit = min decoder.maxFrameBytes kRpcV2HelloMaxFrameBytes := by
    unfold declaredLimit
    rw [if_pos listening.hello]
  have limit : kRpcV2HelloMaxFrameBytes ≤ kRpcV2MaxFrameBytes := by decide
  refine ⟨declared, ?_⟩
  unfold pendingLimit
  omega

/-- Input in front of which an admissible body stands is accepted when it fits. -/
theorem Listening.feeds (listening : Listening decoder)
    (admissible : Admissible protobuf decoder.maxFrameBytes body frame) {input : Bytes}
    (legal : decoder.buffer ++ input ++ later = Framing.frame kFramePrefixBytes body ++ tail)
    (room : decoder.buffer.length + input.length ≤ decoder.pendingLimit) :
    decoder.feed input = (.ok (), { decoder with buffer := decoder.buffer ++ input }) := by
  refine feed_accepts listening.alive room ?_
  rw [listening.hello]
  refine feedLoop_hello legal admissible.fits ?_
  rw [listening.limits.1]
  exact admissible.limited

/-- A listening decoder stays one when its buffer changes. -/
theorem Listening.refill (listening : Listening decoder)
    (buffer : Bytes) : Listening { decoder with buffer } := ⟨listening.alive, listening.hello⟩

/-- The part of a stream that is fed first. -/
theorem legal_piece {buffer rest : Bytes} (size : Nat) (legal : buffer ++ bytes ++ later = rest) :
    buffer ++ bytes.take size ++ (bytes.drop size ++ later) = rest := by
  rw [← legal, append_assoc, ← append_assoc (bytes.take size), take_append_drop,
    append_assoc]

section

variable (rejected : Error) (listening : Listening decoder)
  (admissible : Admissible protobuf decoder.maxFrameBytes body frame)
  (legal : decoder.buffer ++ bytes ++ later = Framing.frame kFramePrefixBytes body ++ tail)

include listening admissible legal

/-- A piece that falls short of the frame is buffered. -/
theorem feedChunks_passes
    (filled : bytes ≠ []) (short : decoder.buffer.length + min kHandshakeFeedChunk bytes.length <
      kFramePrefixBytes + body.length) :
    feedChunks protobuf rejected decoder bytes =
      feedChunks protobuf rejected
        { decoder with buffer := decoder.buffer ++ bytes.take kHandshakeFeedChunk }
        (bytes.drop kHandshakeFeedChunk) := by
  have limited := admissible.limited
  have limits := listening.limits
  have piece := legal_piece kHandshakeFeedChunk legal
  have room : decoder.buffer.length + (bytes.take kHandshakeFeedChunk).length ≤
      decoder.pendingLimit := by
    rw [length_take]
    unfold kFramePrefixBytes at short
    omega
  have waits := next_waits protobuf
    (listening.refill (decoder.buffer ++ bytes.take kHandshakeFeedChunk)).alive piece
    (by rw [length_append, length_take]; exact short) admissible.filled admissible.fits
    (by rw [(listening.refill _).limits.1]; exact limited)
  rw [feedChunks, dif_neg filled, listening.feeds admissible piece room]
  dsimp only
  rw [waits]

/-- Pieces that fall short of the frame are all buffered. -/
theorem feedChunks_short
    (short : decoder.buffer.length + bytes.length < kFramePrefixBytes + body.length) :
    feedChunks protobuf rejected decoder bytes =
      .ok (.dry { decoder with buffer := decoder.buffer ++ bytes }) := by
  induction size : bytes.length using Nat.strongRecOn generalizing decoder bytes with
  | ind size ih =>
    by_cases filled : bytes = []
    · rw [feedChunks, dif_pos filled, filled, append_nil]
    · have some' := length_pos_of_ne_nil filled
      have piece := legal_piece kHandshakeFeedChunk legal
      rw [← append_assoc] at piece
      rw [feedChunks_passes rejected listening admissible legal filled (by omega),
        ih (bytes.drop kHandshakeFeedChunk).length _
          (listening.refill (decoder.buffer ++ bytes.take kHandshakeFeedChunk)) admissible piece _ rfl]
      · rw [append_assoc, take_append_drop]
      · rw [length_drop]
        unfold kHandshakeFeedChunk
        omega
      · rw [length_append, length_take, length_drop]
        omega

/-- Pieces that reach the end of the frame hand it out when the last of them fits, and are
refused otherwise. -/
theorem feedChunks_reach (part : decoder.buffer.length < kFramePrefixBytes + body.length)
    (reached : kFramePrefixBytes + body.length ≤ decoder.buffer.length + bytes.length) :
    (chunkReach decoder.buffer.length bytes.length (kFramePrefixBytes + body.length) ≤
        decoder.pendingLimit →
      ∃ after unfed, feedChunks protobuf rejected decoder bytes = .ok (.found frame after unfed)) ∧
    (decoder.pendingLimit <
        chunkReach decoder.buffer.length bytes.length (kFramePrefixBytes + body.length) →
      feedChunks protobuf rejected decoder bytes = .error rejected) := by
  induction size : bytes.length using Nat.strongRecOn generalizing decoder bytes with
  | ind size ih =>
    have filled : bytes ≠ [] := by
      rintro rfl
      simp only [length_nil] at reached
      omega
    have piece := legal_piece kHandshakeFeedChunk legal
    by_cases short : decoder.buffer.length + min kHandshakeFeedChunk bytes.length <
        kFramePrefixBytes + body.length
    · -- the piece is a whole chunk, the frame ends behind it
      rw [feedChunks_passes rejected listening admissible legal filled short, ← size,
        chunkReach_next (by omega) (by omega)]
      rw [← append_assoc] at piece
      have lengths : (decoder.buffer ++ bytes.take kHandshakeFeedChunk).length =
          decoder.buffer.length + kHandshakeFeedChunk := by
        rw [length_append, length_take]
        omega
      have step := ih (bytes.drop kHandshakeFeedChunk).length
        (by rw [length_drop]; unfold kHandshakeFeedChunk; omega)
        (listening.refill (decoder.buffer ++ bytes.take kHandshakeFeedChunk)) admissible piece (by rw [lengths]; omega)
        (by rw [lengths, length_drop]; omega) rfl
      have limit : { decoder with
          buffer := decoder.buffer ++ bytes.take kHandshakeFeedChunk }.pendingLimit =
            decoder.pendingLimit := rfl
      rwa [lengths, length_drop, limit] at step
    · rw [← size, chunkReach_first part (by omega), Nat.min_comm]
      rw [feedChunks, dif_neg filled]
      refine ⟨fun room => ?_, fun large => ?_⟩
      · rw [listening.feeds admissible piece (by rw [length_take]; exact room)]
        have whole : decoder.buffer ++ bytes.take kHandshakeFeedChunk =
            Framing.frame kFramePrefixBytes body ++
              (decoder.buffer ++ bytes.take kHandshakeFeedChunk).drop
                (kFramePrefixBytes + body.length) := by
          have front := congrArg (take (kFramePrefixBytes + body.length)) piece
          rw [take_append_of_le_length
              (by rw [length_append, length_take]; omega),
            take_left' (frame_length _ _)] at front
          rw [← front, take_append_drop]
        have handed := next_frame
          (listening.refill (decoder.buffer ++ bytes.take kHandshakeFeedChunk)).alive whole
          admissible.decoded admissible.filled admissible.fits
          (by rw [(listening.refill _).limits.1]; exact admissible.limited)
          (by unfold frameByteLimit; rw [if_pos admissible.kind]; exact admissible.limited)
        dsimp only
        rw [handed]
        exact ⟨_, _, rfl⟩
      · have beyond : decoder.buffer.length + (bytes.take kHandshakeFeedChunk).length >
            decoder.pendingLimit := by
          rw [length_take]
          omega
        obtain ⟨error, after, refused⟩ := feed_overflow beyond
        rw [refused]

end

/-- The end of the piece that reaches the target, when segments are cut into pieces one by
one. -/
def segmentReach (start : Nat) (sizes : List Nat) (target : Nat) : Nat :=
  match sizes with
  | [] => start
  | size :: later =>
    if start + size < target then segmentReach (start + size) later target
    else chunkReach start size target

section

variable (rejected : Error) (listening : Listening decoder)
  (admissible : Admissible protobuf decoder.maxFrameBytes body frame)
  (legal : decoder.buffer ++ segments.flatten ++ later = Framing.frame kFramePrefixBytes body ++ tail)

include listening admissible legal

/-- Segments that fall short of the frame are all buffered. -/
theorem feedSegments_short
    (short : decoder.buffer.length + segments.flatten.length < kFramePrefixBytes + body.length) :
    feedSegments protobuf rejected decoder segments =
      .ok (.dry { decoder with buffer := decoder.buffer ++ segments.flatten }) := by
  induction segments generalizing decoder with
  | nil => simp [feedSegments]
  | cons segment others ih =>
    rw [flatten_cons, length_append] at short
    rw [flatten_cons, ← append_assoc] at legal
    have first := legal
    rw [append_assoc] at first
    rw [feedSegments, feedChunks_short _ listening admissible first (by omega)]
    dsimp only
    rw [ih (listening.refill (decoder.buffer ++ segment)) admissible legal
      (by rw [length_append]; omega), flatten_cons, append_assoc]

/-- Segments that reach the end of the frame hand it out when the piece that does fits, and are
refused otherwise. -/
theorem feedSegments_reach (part : decoder.buffer.length < kFramePrefixBytes + body.length)
    (reached : kFramePrefixBytes + body.length ≤ decoder.buffer.length + segments.flatten.length) :
    (segmentReach decoder.buffer.length (segments.map List.length)
        (kFramePrefixBytes + body.length) ≤ decoder.pendingLimit →
      ∃ after unfed, feedSegments protobuf rejected decoder segments =
        .ok (.found frame after unfed)) ∧
    (decoder.pendingLimit < segmentReach decoder.buffer.length (segments.map List.length)
        (kFramePrefixBytes + body.length) →
      feedSegments protobuf rejected decoder segments = .error rejected) := by
  induction segments generalizing decoder with
  | nil =>
    simp only [flatten_nil, length_nil] at reached
    omega
  | cons segment others ih =>
    rw [flatten_cons, length_append] at reached
    rw [flatten_cons, ← append_assoc] at legal
    have first := legal
    rw [append_assoc] at first
    rw [map_cons, segmentReach]
    by_cases short : decoder.buffer.length + segment.length < kFramePrefixBytes + body.length
    · rw [if_pos short, feedSegments, feedChunks_short _ listening admissible first short]
      have step := ih (listening.refill (decoder.buffer ++ segment)) admissible legal
        (by rw [length_append]; omega) (by rw [length_append]; omega)
      rw [length_append] at step
      exact step
    · rw [if_neg short]
      obtain ⟨fits, large⟩ := feedChunks_reach rejected listening admissible first
        part (by omega)
      refine ⟨fun room => ?_, fun beyond => ?_⟩
      · obtain ⟨after, unfed, found⟩ := fits room
        rw [feedSegments, found]
        exact ⟨_, _, rfl⟩
      · rw [feedSegments, large beyond]

end

/-- A frame that was read from the front of a stream is the frame there. -/
theorem Reads.of_legal {read : HandshakeRead} (reads : Reads protobuf decoder bytes read)
    (admissible : Admissible protobuf decoder.maxFrameBytes body frame)
    (legal : decoder.buffer ++ bytes ++ later = Framing.frame kFramePrefixBytes body ++ tail) :
    read.frame = frame ∧ read.stash ++ later = tail := by
  obtain ⟨⟨found, carries, split⟩, -⟩ := reads
  rw [split, append_assoc] at legal
  obtain ⟨rfl, rest⟩ := frame_append_inj carries.fits admissible.fits legal
  exact ⟨carries.unique ⟨admissible.decoded, admissible.fits⟩, rest⟩

/-- Every handshake frame is accepted. -/
theorem acceptFrame_found (kind : frame.kind = .hello ∨ frame.kind = .helloAck)
    (decoder : SessionFrameDecoder) (stash : Bytes) :
    ∃ read, acceptFrame frame decoder stash = .ok read := by
  unfold acceptFrame
  rw [if_neg (by rcases kind with kind | kind <;> simp [kind])]
  split_ifs
  · exact ⟨_, rfl⟩
  · exact ⟨_, rfl⟩

section

variable (listening : Listening decoder)
  (admissible : Admissible protobuf decoder.maxFrameBytes body frame)
  (legal : decoder.buffer ++ segments.flatten ++ later = Framing.frame kFramePrefixBytes body ++ tail)

include listening admissible legal

/-- A batch that falls short of the frame is buffered. -/
theorem takeBatch_short
    (short : decoder.buffer.length + segments.flatten.length < kFramePrefixBytes + body.length) :
    takeBatch protobuf decoder segments =
      .ok (.dry { decoder with buffer := decoder.buffer ++ segments.flatten }) := by
  unfold takeBatch
  rw [feedSegments_short _ listening admissible legal short]
  rfl

/-- A batch that reaches the end of the frame. -/
theorem takeBatch_reach (part : decoder.buffer.length < kFramePrefixBytes + body.length)
    (reached : kFramePrefixBytes + body.length ≤ decoder.buffer.length + segments.flatten.length) :
    (segmentReach decoder.buffer.length (segments.map List.length)
        (kFramePrefixBytes + body.length) ≤ decoder.pendingLimit →
      ∃ read, takeBatch protobuf decoder segments = .ok (.found read)) ∧
    (decoder.pendingLimit < segmentReach decoder.buffer.length (segments.map List.length)
        (kFramePrefixBytes + body.length) →
      ∃ error, takeBatch protobuf decoder segments = .error error) := by
  obtain ⟨fits, large⟩ := feedSegments_reach
    (err .protocolError "handshake frame decode rejected") listening admissible legal
    part reached
  unfold takeBatch
  refine ⟨fun room => ?_, fun beyond => ?_⟩
  · obtain ⟨after, unfed, found⟩ := fits room
    obtain ⟨read, accepted⟩ := acceptFrame_found admissible.kind after []
    rw [found]
    simp only [Bind.bind, Except.bind, accepted]
    exact ⟨_, rfl⟩
  · rw [large beyond]
    exact ⟨_, rfl⟩

end

section

variable (listening : Listening decoder) (empty : decoder.buffer = [])
  (admissible : Admissible protobuf decoder.maxFrameBytes body frame)

include listening empty admissible

section

variable {stash : Bytes} (legal : stash ++ later = Framing.frame kFramePrefixBytes body ++ tail)

include legal

/-- Bytes kept from before that fall short of the frame are buffered. -/
theorem scanHeld_short (short : stash.length < kFramePrefixBytes + body.length) :
    scanHeld protobuf decoder stash = .ok (.dry { decoder with buffer := stash }) := by
  unfold scanHeld
  rw [next_empty protobuf listening.alive empty]
  dsimp only
  rw [feedChunks_short _ listening admissible (by rw [empty]; exact legal)
    (by rw [empty]; simpa using short), empty]
  rfl

/-- Bytes kept from before that reach the end of the frame. -/
theorem scanHeld_reach (reached : kFramePrefixBytes + body.length ≤ stash.length) :
    (chunkReach 0 stash.length (kFramePrefixBytes + body.length) ≤ decoder.pendingLimit →
      ∃ read, scanHeld protobuf decoder stash = .ok (.found read)) ∧
    (decoder.pendingLimit < chunkReach 0 stash.length (kFramePrefixBytes + body.length) →
      ∃ error, scanHeld protobuf decoder stash = .error error) := by
  obtain ⟨fits, large⟩ := feedChunks_reach
    (err .protocolError "handshake stash decode rejected") listening admissible
    (by rw [empty]; exact legal)
    (by rw [empty, length_nil]; unfold kFramePrefixBytes; omega)
    (by rw [empty, length_nil]; omega)
  rw [empty] at fits large
  unfold scanHeld
  rw [next_empty protobuf listening.alive empty]
  refine ⟨fun room => ?_, fun beyond => ?_⟩
  · obtain ⟨after, unfed, found⟩ := fits room
    obtain ⟨read, accepted⟩ := acceptFrame_found admissible.kind after unfed
    simp only [found, Bind.bind, Except.bind, accepted]
    exact ⟨_, rfl⟩
  · simp only [large beyond, Bind.bind, Except.bind]
    exact ⟨_, rfl⟩

end

end

end Feeding

section Small

variable {protobuf : Protobuf} {body tail : Bytes} {frame : SessionFrame}

variable {decoder : SessionFrameDecoder}

/-- A frame that a call takes from a stream, and the state behind it. -/
theorem Reads.state {read : HandshakeRead} {bytes : Bytes}
    (reads : Reads protobuf decoder bytes read)
    (admissible : Admissible protobuf decoder.maxFrameBytes body frame)
    (legal : decoder.buffer ++ bytes = Framing.frame kFramePrefixBytes body ++ tail) :
    read = { frame, decoder := { decoder with buffer := [] }, stash := tail } := by
  obtain ⟨same, rest⟩ := reads.of_legal admissible ((append_nil _).trans legal)
  rw [append_nil] at rest
  cases read
  simp only [HandshakeRead.mk.injEq]
  exact ⟨same, reads.decoder, rest⟩

section

variable (listening : Listening decoder) (empty : decoder.buffer = [])
  (admissible : Admissible protobuf decoder.maxFrameBytes body frame)
  (small : kFramePrefixBytes + body.length + tail.length ≤ decoder.pendingLimit)

include listening empty admissible small

/-- A frame at the front of a small stash is read without asking for more. -/
theorem readHandshakeFrame_runs_held :
    (readHandshakeFrame protobuf decoder (Framing.frame kFramePrefixBytes body ++ tail)).Runs
      [.gate .success] { frame, decoder, stash := tail } := by
  have size : (Framing.frame kFramePrefixBytes body ++ tail).length =
      kFramePrefixBytes + body.length + tail.length := by
    rw [length_append, frame_length]
  have legal : Framing.frame kFramePrefixBytes body ++ tail ++ [] =
      Framing.frame kFramePrefixBytes body ++ tail := append_nil _
  obtain ⟨read, scanned⟩ := (scanHeld_reach listening empty admissible legal (by omega)).1 (by
    have within := chunkReach_le 0 (Framing.frame kFramePrefixBytes body ++ tail).length
      (kFramePrefixBytes + body.length)
    omega)
  have state := (scanHeld_found listening.hello scanned).state admissible (by rw [empty]; rfl)
  intro later
  simp only [cons_append, nil_append, readHandshakeFrame, scanned]
  rw [if_neg (by decide)]
  cases decoder
  simp_all

/-- A frame at the front of a small batch is read when nothing was there before. -/
theorem readHandshakeFrame_runs_batch : (readHandshakeFrame protobuf decoder []).Runs
      [.gate .success, .read (.ok [Framing.frame kFramePrefixBytes body ++ tail])]
      { frame, decoder, stash := tail } := by
  have size : (Framing.frame kFramePrefixBytes body ++ tail).length =
      kFramePrefixBytes + body.length + tail.length := by
    rw [length_append, frame_length]
  have nothing : scanHeld protobuf decoder [] = .ok (.dry decoder) := by
    unfold scanHeld
    rw [next_empty protobuf listening.alive empty]
    dsimp only
    rw [feedChunks, dif_pos rfl]
    rfl
  have front : decoder.buffer ++ [Framing.frame kFramePrefixBytes body ++ tail].flatten =
      Framing.frame kFramePrefixBytes body ++ tail := by
    simp [empty]
  obtain ⟨read, taken⟩ := (takeBatch_reach listening admissible
      ((append_nil _).trans front)
      (by rw [empty, length_nil]; unfold kFramePrefixBytes; omega)
      (by simp only [empty, length_nil, flatten_cons, flatten_nil, append_nil]
          omega)).1 (by
    have within := chunkReach_le 0 (Framing.frame kFramePrefixBytes body ++ tail).length
      (kFramePrefixBytes + body.length)
    simp only [empty, length_nil, map_cons, map_nil, segmentReach]
    rw [if_neg (by omega)]
    omega)
  have state := (takeBatch_found listening.hello taken).state admissible front
  intro later
  simp only [cons_append, nil_append, readHandshakeFrame, nothing, taken]
  rw [if_neg (by decide)]
  cases decoder
  simp_all

end

end Small

end BbtInfra.Rpc
