import BbtInfra.Rpc.Codec

/-!
# The incremental frame decoder

`Feed` copies input into the buffer frame by frame and checks each length field before it
copies a body; `Next` takes the first whole frame. In the handshake phase only the first
frame of the buffer is checked: bytes behind it belong to a later phase.

A null pointer with a positive size is the one input of `Feed` that lists do not have.
-/
namespace BbtInfra.Rpc

open Lib Framing List

/-- `SessionFrameDecoder::Impl`. -/
structure SessionFrameDecoder where
  maxFrameBytes : Nat
  buffer : Bytes := []
  terminalError : Option Error := none
  helloPhase : Bool := true
  deriving DecidableEq, Repr

namespace SessionFrameDecoder

/-- `DeclaredLimit`: the phase's limit of one body. -/
def declaredLimit (decoder : SessionFrameDecoder) : Nat :=
  if decoder.helloPhase then min decoder.maxFrameBytes kRpcV2HelloMaxFrameBytes
  else decoder.maxFrameBytes

/-- `PendingLimit`: a length field and two frames. -/
def pendingLimit (decoder : SessionFrameDecoder) : Nat :=
  4 + 2 * min decoder.declaredLimit kRpcV2MaxFrameBytes

/-- `SetHelloPhase`. -/
def setHelloPhase (decoder : SessionFrameDecoder) (helloPhase : Bool) : SessionFrameDecoder :=
  { decoder with helloPhase }

/-- `PendingBytes`. -/
def pendingBytes (decoder : SessionFrameDecoder) : Nat := decoder.buffer.length

/-- `TakePending`. -/
def takePending (decoder : SessionFrameDecoder) : Bytes × SessionFrameDecoder :=
  (decoder.buffer, { decoder with buffer := [] })

/-- Copying moves bytes and loses none. -/
theorem copy_length (need : Nat) (buffer input : Bytes) :
    (buffer ++ input.take need).length + (input.drop need).length =
      buffer.length + input.length := by
  simp only [length_append, length_take, length_drop]
  omega

/-- The copy loop of `Feed`: the frame at `frameStart` of the buffer is the current one and
`input` is not consumed yet. Returns the buffer and the error, if the loop ends with one. -/
def feedLoop (limit : Nat) (helloPhase : Bool) (frameStart : Nat) (buffer input : Bytes) :
    Bytes × Option Error :=
  -- the length field of the current frame is completed first
  let headed := buffer ++ input.take (4 - (buffer.length - frameStart))
  let rest := input.drop (4 - (buffer.length - frameStart))
  if headed.length - frameStart < 4 then (headed, none)
  else if frameStart ≠ 0 ∧ helloPhase then (headed ++ rest, none)
  else
    let declared := decodeFramePrefix (headed.drop frameStart)
    if declared > limit then
      (headed, some (makeError .protocolError (text "declared frame length exceeds phase limit")))
    else
      let frameEnd := frameStart + 4 + declared
      if _whole : frameEnd ≤ headed.length then feedLoop limit helloPhase frameEnd headed rest
      else if rest = [] then (headed, none)
      else
        let filled := headed ++ rest.take (frameEnd - headed.length)
        let tail := rest.drop (frameEnd - headed.length)
        if _part : filled.length < frameEnd then (filled, none)
        else if tail = [] then (filled, none)
        else feedLoop limit helloPhase frameEnd filled tail
termination_by buffer.length + input.length - frameStart
decreasing_by
  · have copied := copy_length (4 - (buffer.length - frameStart)) buffer input
    simp only [frameEnd, declared, headed] at _whole
    omega
  · have copied := copy_length (4 - (buffer.length - frameStart)) buffer input
    have moved := copy_length (frameEnd - headed.length) headed rest
    simp only [filled, frameEnd, declared, headed, rest] at _part moved
    omega

/-- `Feed`. -/
def feed (decoder : SessionFrameDecoder) (data : Bytes) :
    Except Error Unit × SessionFrameDecoder :=
  match decoder.terminalError with
  | some error => (.error error, decoder)
  | none =>
    if data.length > decoder.pendingLimit ∨
        decoder.buffer.length + data.length > decoder.pendingLimit then
      let error := makeError .protocolError (text "pending decode bytes exceed hard limit")
      (.error error, { decoder with terminalError := some error })
    else
      match feedLoop decoder.declaredLimit decoder.helloPhase 0 decoder.buffer data with
      | (buffer, none) => (.ok (), { decoder with buffer })
      | (buffer, some error) => (.error error, { decoder with buffer, terminalError := some error })

/-- The permanent error state. -/
def fail (decoder : SessionFrameDecoder) (error : Error) :
    Except Error (Option SessionFrame) × SessionFrameDecoder :=
  (.error error, { decoder with terminalError := some error })

/-- `Next`. -/
def next (protobuf : Protobuf) (decoder : SessionFrameDecoder) :
    Except Error (Option SessionFrame) × SessionFrameDecoder :=
  match decoder.terminalError with
  | some error => (.error error, decoder)
  | none =>
    if decoder.buffer.length < 4 then (.ok none, decoder)
    else
      let declared := decodeFramePrefix decoder.buffer
      if declared = 0 then
        decoder.fail (makeError .protocolError (text "frame payload_length zero is rejected"))
      else if declared > decoder.declaredLimit then
        decoder.fail (makeError .protocolError (text "frame payload_length exceeds phase limit"))
      else if decoder.buffer.length < 4 + declared then (.ok none, decoder)
      else
        match decodeSessionFrame protobuf ((decoder.buffer.drop 4).take declared) with
        | .error error => decoder.fail error
        | .ok frame =>
          if declared > frameByteLimit frame.kind decoder.maxFrameBytes then
            decoder.fail (makeError .protocolError (text "frame body exceeds kind byte limit"))
          else (.ok (some frame), { decoder with buffer := decoder.buffer.drop (4 + declared) })

/-- Copying keeps the order of the bytes. -/
theorem copy_append (need : Nat) (buffer input : Bytes) :
    buffer ++ input.take need ++ input.drop need = buffer ++ input := by
  rw [append_assoc, take_append_drop]

variable {decoder after : SessionFrameDecoder} {frameStart limit : Nat}
  {buffer later input body tail data arrived : Bytes} {protobuf : Protobuf}

/-- Copying that stops early has copied all the input. -/
theorem copy_exhausts {need : Nat}
    (short : (buffer ++ input.take need).length < buffer.length + need) :
    buffer ++ input.take need = buffer ++ input := by
  rw [length_append, length_take] at short
  rw [take_of_length_le (by omega)]

/-- A copy loop without error has copied all the input. -/
theorem feedLoop_ok {helloPhase : Bool} {all : Bytes} (inside : frameStart ≤ buffer.length)
    (fed : feedLoop limit helloPhase frameStart buffer input = (all, none)) :
    all = buffer ++ input := by
  fun_induction feedLoop limit helloPhase frameStart buffer input with
  | case1 frameStart buffer input headed short =>
    rw [← (Prod.mk.inj fed).1]
    exact copy_exhausts (by simp only [headed] at short; omega)
  | case2 frameStart buffer input headed rest =>
    rw [← (Prod.mk.inj fed).1]
    exact copy_append _ buffer input
  | case3 => simp at fed
  | case4 frameStart buffer input headed rest _ _ _ _ frameEnd whole ih =>
    rw [ih whole fed]
    exact copy_append _ buffer input
  | case5 frameStart buffer input headed rest _ _ _ _ _ _ done =>
    rw [← (Prod.mk.inj fed).1]
    rw [← copy_append (4 - (buffer.length - frameStart)) buffer input]
    change headed = headed ++ rest
    rw [done, append_nil]
  | case6 frameStart buffer input headed rest _ _ declared _ frameEnd _ _ filled part =>
    rw [← (Prod.mk.inj fed).1]
    rw [← copy_append (4 - (buffer.length - frameStart)) buffer input]
    exact copy_exhausts (by simp only [filled] at part; omega)
  | case7 frameStart buffer input headed rest _ _ _ _ frameEnd _ _ filled tail _ done =>
    rw [← (Prod.mk.inj fed).1]
    rw [← copy_append (4 - (buffer.length - frameStart)) buffer input,
      ← copy_append (frameEnd - headed.length) _ rest]
    change filled = filled ++ tail
    rw [done, append_nil]
  | case8 frameStart buffer input headed rest _ _ _ _ frameEnd _ _ filled tail part _ ih =>
    rw [ih (Nat.not_lt.mp part) fed, ← copy_append (4 - (buffer.length - frameStart)) buffer input]
    exact copy_append _ headed rest

/-- Accepted input is in the buffer, behind what was there, and within the pending limit. -/
theorem feed_ok (fed : decoder.feed data = (.ok (), after)) :
    decoder.terminalError = none ∧ after = { decoder with buffer := decoder.buffer ++ data } ∧
      decoder.buffer.length + data.length ≤ decoder.pendingLimit := by
  unfold feed at fed
  split at fed
  · simp at fed
  · next alive =>
    split_ifs at fed with large
    · simp at fed
    · split at fed
      · next all copied =>
        cases fed
        rw [feedLoop_ok (Nat.zero_le _) copied]
        exact ⟨alive, rfl, by omega⟩
      · simp at fed

/-- A frame that `Next` hands out was in front of the buffer, within all limits. -/
theorem next_some
    {frame : SessionFrame} (taken : decoder.next protobuf = (.ok (some frame), after)) :
    decoder.terminalError = none ∧ after = { decoder with buffer := after.buffer } ∧
      ∃ body, decoder.buffer = Framing.frame kFramePrefixBytes body ++ after.buffer ∧
        decodeSessionFrame protobuf body = .ok frame ∧ body ≠ [] ∧
        body.length ≤ decoder.declaredLimit ∧
        body.length ≤ frameByteLimit frame.kind decoder.maxFrameBytes := by
  unfold next fail at taken
  split at taken
  · simp at taken
  · next alive =>
    dsimp only at taken
    split_ifs at taken with headless zero large part
    · simp at taken
    · simp at taken
    · simp at taken
    · simp at taken
    · split at taken
      · simp at taken
      · next decoded found =>
        split_ifs at taken with limit
        · simp at taken
        · cases taken
          have whole : kFramePrefixBytes + decodeFramePrefix decoder.buffer ≤
              decoder.buffer.length := Nat.not_lt.mp part
          have length : ((decoder.buffer.drop 4).take (decodeFramePrefix decoder.buffer)).length =
              decodeFramePrefix decoder.buffer := by
            rw [length_take, length_drop, min_eq_left]
            omega
          exact ⟨alive, rfl, _, eq_frame_append whole, found,
            fun empty => zero (length.symm.trans (congrArg List.length empty)),
            length.trans_le (Nat.not_lt.mp large), length.trans_le (Nat.not_lt.mp limit)⟩

/-- A decoder without a whole frame stays as it is. -/
theorem next_none (taken : decoder.next protobuf = (.ok none, after)) :
    decoder.terminalError = none ∧ after = decoder := by
  unfold next fail at taken
  split at taken
  · simp at taken
  · next alive =>
    dsimp only at taken
    split_ifs at taken with headless zero large part
    · cases taken
      exact ⟨alive, rfl⟩
    · simp at taken
    · simp at taken
    · cases taken
      exact ⟨alive, rfl⟩
    · split at taken
      · simp at taken
      · split_ifs at taken
        · simp at taken
        · simp at taken

/-- Copying keeps what is behind the current frame start. -/
theorem copy_drop (inside : frameStart ≤ buffer.length) (need : Nat) (input : Bytes) :
    (buffer ++ input.take need).drop frameStart ++ input.drop need =
      buffer.drop frameStart ++ input := by
  rw [drop_append_of_le_length inside, append_assoc, take_append_drop]

/-- The length field that has arrived at a frame start is that of the next body. -/
theorem current_declared (whole : ¬arrived.length - frameStart < 4)
    (legal : arrived.drop frameStart ++ later = frame kFramePrefixBytes body ++ tail)
    (fits : body.length < 256 ^ kFramePrefixBytes) :
    decodeFramePrefix (arrived.drop frameStart) = body.length := by
  refine declared_arrived fits legal ?_
  rw [length_drop]
  unfold kFramePrefixBytes
  omega

/-- What is behind a whole frame of the buffer is the start of what is behind the frame. -/
theorem current_behind {frameEnd : Nat}
    (ends : frameEnd = frameStart + 4 + body.length) (whole : frameEnd ≤ arrived.length)
    (legal : arrived.drop frameStart ++ later = frame kFramePrefixBytes body ++ tail) :
    arrived.drop frameEnd ++ later = tail := by
  rw [← drop_arrived legal (by rw [length_drop]; unfold kFramePrefixBytes; omega),
    drop_drop, ends]
  unfold kFramePrefixBytes
  rw [Nat.add_assoc]

/-- A stream that has got as far as a length field has a body there. -/
theorem current_body {bodies : List Bytes} (whole : ¬arrived.length - frameStart < 4)
    (legal : arrived.drop frameStart ++ later = stream kFramePrefixBytes bodies) :
    ∃ body others, bodies = body :: others := by
  cases bodies with
  | nil =>
    have empty := congrArg length legal
    rw [stream_nil, length_append, length_drop, length_nil] at empty
    omega
  | cons body others => exact ⟨body, others, rfl⟩

/-- In the data phase the copy loop has no objection to the start of a stream of bodies within
the limit. -/
theorem feedLoop_data (bodies : List Bytes) (inside : frameStart ≤ buffer.length)
    (legal : buffer.drop frameStart ++ input ++ later = stream kFramePrefixBytes bodies)
    (fits : ∀ body ∈ bodies, body.length < 256 ^ kFramePrefixBytes)
    (small : ∀ body ∈ bodies, body.length ≤ limit) :
    (feedLoop limit false frameStart buffer input).2 = none := by
  revert bodies inside
  fun_induction feedLoop limit false frameStart buffer input with
  | case3 frameStart buffer input headed headful _ declared large =>
    intro bodies inside legal fits small
    rw [← copy_drop inside (4 - (buffer.length - frameStart)), append_assoc] at legal
    obtain ⟨body, others, rfl⟩ := current_body headful legal
    have length := current_declared headful legal (fits body (by simp))
    have short := small body (by simp)
    omega
  | case4 frameStart buffer input headed rest headful _ _ _ frameEnd whole ih =>
    intro bodies inside legal fits small
    rw [← copy_drop inside (4 - (buffer.length - frameStart)), append_assoc] at legal
    obtain ⟨body, others, rfl⟩ := current_body headful legal
    have length := current_declared headful legal (fits body (by simp))
    have ends : frameEnd = frameStart + 4 + body.length := by rw [← length]
    refine ih others whole ?_ (fun body member => fits body (by simp [member]))
      (fun body member => small body (by simp [member]))
    rw [append_assoc]
    exact current_behind ends whole legal
  | case8 frameStart buffer input headed _ headful _ _ _ frameEnd _ _ filled tail
      whole _ ih =>
    intro bodies inside legal fits small
    rw [← copy_drop inside (4 - (buffer.length - frameStart)), append_assoc] at legal
    obtain ⟨body, others, rfl⟩ := current_body headful legal
    have length := current_declared headful legal (fits body (by simp))
    have ends : frameEnd = frameStart + 4 + body.length := by rw [← length]
    have start : frameStart ≤ headed.length := by
      omega
    rw [← append_assoc, ← copy_drop start (frameEnd - headed.length), append_assoc]
      at legal
    refine ih others (Nat.not_lt.mp whole) ?_ (fun body member => fits body (by simp [member]))
      (fun body member => small body (by simp [member]))
    rw [append_assoc]
    exact current_behind ends (Nat.not_lt.mp whole) legal
  | _ =>
    intros
    rfl

/-- In the handshake phase nothing is measured behind the first frame. -/
theorem feedLoop_behind (later : frameStart ≠ 0) :
    (feedLoop limit true frameStart buffer input).2 = none := by
  rw [feedLoop]
  split_ifs <;> simp_all

/-- In the handshake phase the copy loop has no objection to a first body within the limit. -/
theorem feedLoop_hello
    (legal : buffer ++ input ++ later = frame kFramePrefixBytes body ++ tail)
    (fits : body.length < 256 ^ kFramePrefixBytes) (small : body.length ≤ limit) :
    (feedLoop limit true 0 buffer input).2 = none := by
  rw [← copy_append (4 - (buffer.length - 0)) buffer input, append_assoc] at legal
  rw [feedLoop]
  dsimp only
  split_ifs with headless phase large
  · rfl
  · rfl
  · have length := current_declared headless legal fits
    omega
  · exact feedLoop_behind (by omega)
  · rfl
  · rfl
  · rfl
  · exact feedLoop_behind (by omega)

/-- Input is accepted when it fits and the copy loop has no objection. -/
theorem feed_accepts (alive : decoder.terminalError = none)
    (room : decoder.buffer.length + data.length ≤ decoder.pendingLimit)
    (clean : (feedLoop decoder.declaredLimit decoder.helloPhase 0 decoder.buffer data).2 = none) :
    decoder.feed data = (.ok (), { decoder with buffer := decoder.buffer ++ data }) := by
  unfold feed
  rw [alive]
  dsimp only
  rw [if_neg (by omega)]
  split
  · next all copied => rw [feedLoop_ok (Nat.zero_le _) copied]
  · next error stopped => simp [stopped] at clean

/-- Input beyond the pending limit is refused. -/
theorem feed_overflow (large : decoder.buffer.length + data.length > decoder.pendingLimit) :
    ∃ error after, decoder.feed data = (.error error, after) := by
  unfold feed
  split
  · exact ⟨_, _, rfl⟩
  · rw [if_pos (.inr large)]
    exact ⟨_, _, rfl⟩

/-- A whole frame within the limits is handed out. -/
theorem next_frame {frame : SessionFrame} {rest : Bytes} (alive : decoder.terminalError = none)
    (holds : decoder.buffer = Framing.frame kFramePrefixBytes body ++ rest)
    (decoded : decodeSessionFrame protobuf body = .ok frame) (filled : body ≠ [])
    (fits : body.length < 256 ^ kFramePrefixBytes) (declared : body.length ≤ decoder.declaredLimit)
    (limited : body.length ≤ frameByteLimit frame.kind decoder.maxFrameBytes) :
    decoder.next protobuf = (.ok (some frame), { decoder with buffer := rest }) := by
  have length : decodeFramePrefix decoder.buffer = body.length := by
    rw [holds]
    exact declared_frame fits rest
  have size : decoder.buffer.length = 4 + body.length + rest.length := by
    rw [holds, length_append, frame_length, kFramePrefixBytes]
  have taken : (decoder.buffer.drop kFramePrefixBytes).take body.length = body := by
    rw [holds, Framing.frame, append_assoc,
      drop_left' (bigEndian_length kFramePrefixBytes _), take_left' rfl]
  have left : decoder.buffer.drop (kFramePrefixBytes + body.length) = rest := by
    rw [holds, drop_left' (frame_length kFramePrefixBytes body)]
  unfold kFramePrefixBytes at taken left
  unfold next
  rw [alive]
  rw [if_neg (by omega), length, if_neg (by simpa using filled), if_neg (by omega),
    if_neg (by omega), taken, decoded]
  dsimp only
  rw [if_neg (by omega), left]

/-- A part of a frame within the limits waits for the rest. -/
theorem next_waits (protobuf : Protobuf) (alive : decoder.terminalError = none)
    (holds : decoder.buffer ++ later = frame kFramePrefixBytes body ++ tail)
    (part : decoder.buffer.length < kFramePrefixBytes + body.length) (filled : body ≠ [])
    (fits : body.length < 256 ^ kFramePrefixBytes) (declared : body.length ≤ decoder.declaredLimit) :
    decoder.next protobuf = (.ok none, decoder) := by
  unfold next
  rw [alive]
  by_cases headless : decoder.buffer.length < 4
  · rw [if_pos headless]
  · have length : decodeFramePrefix decoder.buffer = body.length :=
      declared_arrived fits holds (Nat.not_lt.mp headless)
    unfold kFramePrefixBytes at part
    rw [if_neg headless, length, if_neg (by simpa using filled), if_neg (by omega), if_pos part]

/-- An empty buffer waits. -/
theorem next_empty (protobuf : Protobuf)
    (alive : decoder.terminalError = none) (empty : decoder.buffer = []) :
    decoder.next protobuf = (.ok none, decoder) := by
  unfold next
  rw [alive]
  rw [if_pos (by simp [empty])]

end SessionFrameDecoder

end BbtInfra.Rpc
