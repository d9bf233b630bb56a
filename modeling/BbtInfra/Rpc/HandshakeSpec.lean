import BbtInfra.Rpc.Handshake

/-!
# What a handshake has read and written

A call of `ReadHandshakeFrame` takes one frame from the front of the bytes that were there
and that it read, and keeps the rest in order. From this, the log of a handshake that
returned: two frames came in, two went out, and the bytes behind the two frames are in the
decoder.
-/
namespace BbtInfra.Rpc

open Lib SessionFrameDecoder Dialogue

/-- A body that decodes to a frame and whose length fits the length field. -/
structure Carries (protobuf : Protobuf) (body : Bytes) (frame : SessionFrame) : Prop where
  decoded : decodeSessionFrame protobuf body = .ok frame
  fits : body.length < 256 ^ kFramePrefixBytes

variable {protobuf : Protobuf} {decoder after : SessionFrameDecoder} {frame : SessionFrame}
  {stash bytes unfed : Bytes} {read : HandshakeRead} {rejected : Error} {segments : List Bytes}
  {options : ClientOptions} {proposal nonce : UInt64}

/-- A body carries one frame. -/
theorem Carries.unique {body : Bytes} {other : SessionFrame}
    (carries : Carries protobuf body frame) (also : Carries protobuf body other) :
    frame = other := by
  have same := carries.decoded.symm.trans also.decoded
  exact Except.ok.inj same

/-- A frame was taken from the front of the decoder's buffer and the bytes behind it; what is
left is in the decoder and in `unfed`. -/
structure Takes (protobuf : Protobuf) (before : SessionFrameDecoder) (bytes : Bytes)
    (frame : SessionFrame) (after : SessionFrameDecoder) (unfed : Bytes) : Prop where
  split : ∃ body, Carries protobuf body frame ∧
    before.buffer ++ bytes = Framing.frame kFramePrefixBytes body ++ (after.buffer ++ unfed)
  decoder : after = { before with buffer := after.buffer }

/-- The body of a handshake frame fits the length field. -/
theorem declaredLimit_hello (hello : decoder.helloPhase = true) :
    decoder.declaredLimit < 256 ^ kFramePrefixBytes := by
  unfold declaredLimit
  rw [if_pos hello]
  have limit : kRpcV2HelloMaxFrameBytes < 256 ^ kFramePrefixBytes := by decide
  omega

/-- `Next` takes a frame of the buffer. -/
theorem Takes.of_next
    (hello : decoder.helloPhase = true)
    (taken : decoder.next protobuf = (.ok (some frame), after)) (unfed : Bytes) :
    Takes protobuf decoder unfed frame after unfed := by
  obtain ⟨-, same, body, split, decoded, -, declared, -⟩ := next_some taken
  have limit := declaredLimit_hello hello
  exact ⟨⟨body, ⟨decoded, by omega⟩, by rw [split, List.append_assoc]⟩, same⟩

/-- Bytes that went into the buffer were in front of the others. -/
theorem Takes.of_fed
    {fed rest : Bytes}
    (takes : Takes protobuf { decoder with buffer := decoder.buffer ++ fed } rest frame after
      unfed) : Takes protobuf decoder (fed ++ rest) frame after unfed := by
  obtain ⟨⟨body, carries, split⟩, same⟩ := takes
  refine ⟨⟨body, carries, ?_⟩, ?_⟩
  · rw [← List.append_assoc]
    exact split
  · rw [same]

/-- Bytes that are never looked at stay behind. -/
theorem Takes.append
    (takes : Takes protobuf decoder bytes frame after
      unfed) (later : Bytes) : Takes protobuf decoder (bytes ++ later) frame after
      (unfed ++ later) := by
  obtain ⟨⟨body, carries, split⟩, same⟩ := takes
  refine ⟨⟨body, carries, ?_⟩, same⟩
  rw [← List.append_assoc, split]
  simp only [List.append_assoc]

/-- Chunks that hold no frame are all in the buffer. -/
theorem feedChunks_dry
    (fed : feedChunks protobuf rejected decoder bytes = .ok (.dry after)) :
    after = { decoder with buffer := decoder.buffer ++ bytes } := by
  fun_induction feedChunks protobuf rejected decoder bytes with
  | case1 decoder =>
    cases fed
    simp
  | case2 => simp at fed
  | case3 => simp at fed
  | case4 => simp at fed
  | case5 decoder bytes _ fedDecoder taken _ waited ih =>
    obtain ⟨-, rfl, -⟩ := feed_ok taken
    obtain ⟨-, rfl⟩ := next_none waited
    rw [ih fed]
    simp

/-- Chunks that hold a frame. -/
theorem feedChunks_found (hello : decoder.helloPhase = true)
    (fed : feedChunks protobuf rejected decoder bytes = .ok (.found frame after unfed)) :
    Takes protobuf decoder bytes frame after unfed := by
  fun_induction feedChunks protobuf rejected decoder bytes with
  | case1 => simp at fed
  | case2 => simp at fed
  | case3 => simp at fed
  | case4 decoder bytes _ fedDecoder taken found next handed =>
    simp only [Except.ok.injEq, Chunks.found.injEq] at fed
    obtain ⟨rfl, rfl, rfl⟩ := fed
    obtain ⟨-, rfl, -⟩ := feed_ok taken
    have takes : Takes protobuf
        { decoder with buffer := decoder.buffer ++ bytes.take kHandshakeFeedChunk }
        (bytes.drop kHandshakeFeedChunk) found next (bytes.drop kHandshakeFeedChunk) :=
      Takes.of_next (by exact hello) handed _
    have whole := takes.of_fed
    rwa [List.take_append_drop] at whole
  | case5 decoder bytes _ fedDecoder taken next waited ih =>
    obtain ⟨-, rfl, -⟩ := feed_ok taken
    obtain ⟨-, rfl⟩ := next_none waited
    have takes := (ih hello fed).of_fed
    rwa [List.take_append_drop] at takes

/-- Segments that hold no frame are all in the buffer. -/
theorem feedSegments_dry
    (fed : feedSegments protobuf rejected decoder segments = .ok (.dry after)) :
    after = { decoder with buffer := decoder.buffer ++ segments.flatten } := by
  induction segments generalizing decoder with
  | nil =>
    simp only [feedSegments, Except.ok.injEq, Chunks.dry.injEq] at fed
    simp [fed]
  | cons segment later ih =>
    rw [feedSegments] at fed
    split at fed
    · simp at fed
    · simp at fed
    · next middle first =>
      rw [ih fed, feedChunks_dry first]
      simp

/-- Segments that hold a frame. -/
theorem feedSegments_found
    (hello : decoder.helloPhase = true)
    (fed : feedSegments protobuf rejected decoder segments = .ok (.found frame after unfed)) :
    Takes protobuf decoder segments.flatten frame after unfed := by
  induction segments generalizing decoder with
  | nil => simp [feedSegments] at fed
  | cons segment later ih =>
    rw [feedSegments] at fed
    split at fed
    · simp at fed
    · next found middle rest first =>
      cases fed
      exact (feedChunks_found hello first).append later.flatten
    · next middle first =>
      have dry := feedChunks_dry first
      subst dry
      exact (ih (by exact hello) fed).of_fed

/-- An accepted frame: what the decoder held is in front of the stash. -/
theorem acceptFrame_ok (accepted : acceptFrame frame decoder stash = .ok read) :
    read =
      { frame, decoder := { decoder with buffer := [] }, stash := decoder.buffer ++ stash } := by
  unfold acceptFrame pendingBytes takePending at accepted
  split_ifs at accepted with kind pending
  · simpa using accepted.symm
  · have empty : decoder.buffer = [] := List.length_eq_zero_iff.mp (by omega)
    cases accepted
    cases decoder
    simp_all

/-- A call of `ReadHandshakeFrame` on the bytes behind a decoder: the frame, and what is left of
the bytes in the stash. -/
structure Reads (protobuf : Protobuf) (before : SessionFrameDecoder) (bytes : Bytes)
    (read : HandshakeRead) : Prop where
  split : ∃ body, Carries protobuf body read.frame ∧
    before.buffer ++ bytes = Framing.frame kFramePrefixBytes body ++ read.stash
  decoder : read.decoder = { before with buffer := [] }

/-- Accepting a frame that was taken. -/
theorem Takes.accept {before : SessionFrameDecoder}
    (takes : Takes protobuf before bytes frame after stash)
    (accepted : acceptFrame frame after stash = .ok read) : Reads protobuf before bytes read := by
  rw [acceptFrame_ok accepted]
  obtain ⟨⟨body, carries, split⟩, same⟩ := takes
  exact ⟨⟨body, carries, split⟩, by rw [same]⟩

/-- Bytes that went into the buffer were in front of the others. -/
theorem Reads.of_fed {fed rest : Bytes}
    (reads : Reads protobuf { decoder with buffer := decoder.buffer ++ fed } rest read) :
    Reads protobuf decoder (fed ++ rest) read := by
  obtain ⟨⟨body, carries, split⟩, same⟩ := reads
  exact ⟨⟨body, carries, by rw [← List.append_assoc]; exact split⟩, same⟩

/-- A computation that goes on after another has a result when both have one. -/
theorem bind_ok {α β : Type} {first : Except Error α} {next : α → Except Error β} {result : β}
    (made : (first >>= next) = .ok result) :
    ∃ value, first = .ok value ∧ next value = .ok result := by
  cases first with
  | error error => simp [Bind.bind, Except.bind] at made
  | ok value => exact ⟨value, rfl, made⟩

/-- A scan that finds a frame takes it from the buffer and the stash. -/
theorem scanHeld_found
    (hello : decoder.helloPhase = true)
    (scanned : scanHeld protobuf decoder stash = .ok (.found read)) :
    Reads protobuf decoder stash read := by
  unfold scanHeld at scanned
  split at scanned
  · simp at scanned
  · next frame after taken =>
    obtain ⟨accepted, made, found⟩ := bind_ok scanned
    cases found
    exact (Takes.of_next hello taken stash).accept made
  · next after taken =>
    obtain ⟨-, rfl⟩ := next_none taken
    obtain ⟨chunks, fed, scanned⟩ := bind_ok scanned
    split at scanned
    · obtain ⟨accepted, made, found⟩ := bind_ok scanned
      cases found
      exact (feedChunks_found hello fed).accept made
    · cases scanned

/-- A scan that finds no frame puts the stash into the buffer. -/
theorem scanHeld_dry (scanned : scanHeld protobuf decoder stash = .ok (.dry after)) :
    after = { decoder with buffer := decoder.buffer ++ stash } := by
  unfold scanHeld at scanned
  split at scanned
  · simp at scanned
  · obtain ⟨accepted, -, found⟩ := bind_ok scanned
    cases found
  · next middle taken =>
    obtain ⟨-, rfl⟩ := next_none taken
    obtain ⟨chunks, fed, scanned⟩ := bind_ok scanned
    split at scanned
    · obtain ⟨accepted, -, found⟩ := bind_ok scanned
      cases found
    · cases scanned
      exact feedChunks_dry fed

/-- A batch that completes a frame. -/
theorem takeBatch_found
    (hello : decoder.helloPhase = true)
    (taken : takeBatch protobuf decoder segments = .ok (.found read)) :
    Reads protobuf decoder segments.flatten read := by
  obtain ⟨chunks, fed, taken⟩ := bind_ok taken
  split at taken
  · next frame after unfed =>
    obtain ⟨accepted, made, found⟩ := bind_ok taken
    cases found
    obtain ⟨⟨body, carries, split⟩, same⟩ := feedSegments_found hello fed
    rw [acceptFrame_ok made]
    refine ⟨⟨body, carries, ?_⟩, by rw [same]⟩
    rw [split, List.append_nil]
  · cases taken

/-- A batch that completes no frame goes into the buffer. -/
theorem takeBatch_dry
    (taken : takeBatch protobuf decoder segments = .ok (.dry after)) :
    after = { decoder with buffer := decoder.buffer ++ segments.flatten } := by
  obtain ⟨chunks, fed, taken⟩ := bind_ok taken
  split at taken
  · obtain ⟨accepted, -, found⟩ := bind_ok taken
    cases found
  · cases taken
    exact feedSegments_dry fed

/-- `ReadHandshakeFrame` writes nothing; it takes one frame from the front of what is there and
what it reads. -/
theorem readHandshakeFrame_ensures
    (hello : decoder.helloPhase = true) :
    (readHandshakeFrame protobuf decoder stash).Ensures fun used read =>
      sentBytes used = [] ∧ Reads protobuf decoder (stash ++ receivedBytes used) read := by
  intro events read unused returned
  fun_induction readHandshakeFrame protobuf decoder stash events with
  | case4 decoder stash code events _ found scanned =>
    cases returned
    exact ⟨[.gate code], rfl, rfl, by simpa [ConnEvent.received] using scanHeld_found hello scanned⟩
  | case8 decoder stash code _ drained scanned segments later found taken =>
    cases returned
    have dry := scanHeld_dry scanned
    subst dry
    refine ⟨[.gate code, .read (.ok segments)], rfl, rfl, ?_⟩
    simpa [ConnEvent.received] using (takeBatch_found (by exact hello) taken).of_fed
  | case9 decoder stash code _ drained scanned segments later after taken ih =>
    have dry := scanHeld_dry scanned
    subst dry
    have kept := takeBatch_dry taken
    subst kept
    obtain ⟨used, split, silent, reads⟩ := ih hello returned
    refine ⟨.gate code :: .read (.ok segments) :: used, by rw [split]; rfl, ?_, ?_⟩
    · simpa [ConnEvent.sent] using silent
    · simpa [ConnEvent.received] using reads.of_fed.of_fed
  | _ => simp at returned

/-- A settled write lets out all its bytes. -/
theorem connWrite_ensures (bytes : Bytes) :
    (connWrite bytes).Ensures fun used report =>
      receivedBytes used = [] ∧ (report.settled = true → sentBytes used = bytes) := by
  refine ensures_perform fun event report answer => ?_
  cases event with
  | write written told reached =>
    simp only at answer
    split_ifs at answer with same
    cases answer
    subst same
    refine ⟨rfl, fun settled => ?_⟩
    simp [ConnEvent.sent, settled]
  | gate | read => simp at answer

/-- `WriteHandshakeFrame` that returns has sent the encoded frame and read nothing. -/
theorem writeHandshakeFrame_ensures {maxFrame : Nat} :
    (writeHandshakeFrame protobuf frame maxFrame).Ensures fun used _ =>
      receivedBytes used = [] ∧
        encodeFramedSessionFrame protobuf frame maxFrame = .ok (sentBytes used) := by
  refine ensures_computed.bind ?_
  rintro _ bytes ⟨rfl, encoded⟩
  refine (connWrite_ensures bytes).bind fun used report wrote => ?_
  refine ensures_lift fun _ settled => ?_
  unfold tcpSettleWrite at settled
  split_ifs at settled with complete
  rw [List.nil_append, List.append_nil]
  exact ⟨wrote.1, by rw [wrote.2 complete, encoded]⟩

/-- A check that passed. -/
theorem require_ensures {holds : Prop} [Decidable holds] {error : Error} {next : ConnProgram α}
    {post : List ConnEvent → α → Prop} (passes : holds → next.Ensures post) :
    (require holds error >>= fun _ => next).Ensures post := by
  have passed : (require holds error).Ensures fun used _ => used = [] ∧ holds :=
    ensures_lift fun _ passed => ⟨rfl, not_not.mp ((refuse_ok _ _).mp passed)⟩
  refine passed.bind ?_
  rintro _ _ ⟨rfl, held⟩
  exact passes held

/-- The stash goes behind what the decoder holds. -/
theorem commitStashAfterFinalAck_ok
    (committed : commitStashAfterFinalAck decoder stash = .ok after) :
    after = { decoder with helloPhase := false, buffer := decoder.buffer ++ stash } := by
  unfold commitStashAfterFinalAck setHelloPhase at committed
  split_ifs at committed with empty
  · cases committed
    simp [empty]
  · dsimp only at committed
    split at committed
    · next fed taken =>
      cases committed
      obtain ⟨-, rfl, -⟩ := feed_ok taken
      rfl
    · simp at committed

/-- A handshake that returned: the two frames it read, the two it wrote, and what it checked. -/
structure Handshaken (protobuf : Protobuf) (options : ClientOptions) (proposal nonce : UInt64)
    (log : List ConnEvent) (made : Established) (hello ack : SessionFrame) : Prop where
  received : ∃ helloBody ackBody, Carries protobuf helloBody hello ∧ Carries protobuf ackBody ack ∧
    receivedBytes log = Framing.frame kFramePrefixBytes helloBody ++
      (Framing.frame kFramePrefixBytes ackBody ++ made.decoder.buffer)
  sent : ∃ helloBytes ackBytes,
    encodeFramedSessionFrame protobuf (makeHello options proposal nonce) options.maxFrameBytes =
      .ok helloBytes ∧
    encodeFramedSessionFrame protobuf (makeHelloAck options made.epoch hello.connectionNonce)
      options.maxFrameBytes = .ok ackBytes ∧
    sentBytes log = helloBytes ++ ackBytes
  helloKind : hello.kind = .hello
  ackKind : ack.kind = .helloAck
  distinct : hello.peerIdentity ≠ options.localIdentity
  peer : made.peerIdentity = hello.peerIdentity
  sameIdentity : ack.peerIdentity = hello.peerIdentity
  epoch : made.epoch =
    if options.localIdentity < hello.peerIdentity then proposal else ack.sessionEpoch
  owner : options.localIdentity < hello.peerIdentity →
    ack.sessionEpoch = proposal ∧ ack.connectionNonce = nonce
  decoder : made.decoder =
    { maxFrameBytes := options.maxFrameBytes, buffer := made.decoder.buffer, helloPhase := false }

/-- The two reads of a handshake and the commit leave the bytes behind both frames. -/
theorem Reads.commit {protobuf : Protobuf} {maxFrameBytes : Nat} {first second : Bytes}
    {hello ack : HandshakeRead} {after : SessionFrameDecoder}
    (read : Reads protobuf { maxFrameBytes } ([] ++ first) hello)
    (then' : Reads protobuf hello.decoder (hello.stash ++ second) ack)
    (committed : commitStashAfterFinalAck ack.decoder ack.stash = .ok after) :
    (∃ helloBody ackBody, Carries protobuf helloBody hello.frame ∧
      Carries protobuf ackBody ack.frame ∧
      first ++ second = Framing.frame kFramePrefixBytes helloBody ++
        (Framing.frame kFramePrefixBytes ackBody ++ after.buffer)) ∧
      after = { maxFrameBytes, buffer := after.buffer, helloPhase := false } := by
  obtain ⟨⟨helloBody, carriesHello, splitHello⟩, sameHello⟩ := read
  obtain ⟨⟨ackBody, carriesAck, splitAck⟩, sameAck⟩ := then'
  have made := commitStashAfterFinalAck_ok committed
  rw [sameAck, sameHello] at made
  rw [sameHello, List.nil_append] at splitAck
  rw [List.nil_append, List.nil_append] at splitHello
  subst made
  refine ⟨⟨helloBody, ackBody, carriesHello, carriesAck, ?_⟩, rfl⟩
  rw [splitHello, List.append_assoc, splitAck, List.nil_append]

/-- A fresh decoder is in the handshake phase, and so is one that handed out a frame. -/
theorem Reads.helloPhase {before : SessionFrameDecoder}
    (reads : Reads protobuf before bytes read)
    (hello : before.helloPhase = true) : read.decoder.helloPhase = true := by
  rw [reads.decoder]
  exact hello

/-- `OutboundHandshake`: every log of a result. -/
theorem outboundHandshake_ensures
    : (outboundHandshake protobuf options proposal nonce).Ensures fun log made =>
      ∃ hello ack, Handshaken protobuf options proposal nonce log made hello ack := by
  refine writeHandshakeFrame_ensures.bind fun wroteHello _ ⟨quietHello, sentHello⟩ => ?_
  refine (readHandshakeFrame_ensures rfl).bind fun readHello hello ⟨silentHello, readsHello⟩ => ?_
  refine require_ensures fun helloKind => ?_
  refine require_ensures fun distinct => ?_
  refine ensures_ite (fun owner => ?_) (fun other => ?_)
  · refine writeHandshakeFrame_ensures.bind fun wroteAck _ ⟨quietAck, sentAck⟩ => ?_
    refine (readHandshakeFrame_ensures (readsHello.helloPhase rfl)).bind
      fun readAck ack ⟨silentAck, readsAck⟩ => ?_
    refine require_ensures fun ackKind => ?_
    refine require_ensures fun sameIdentity => ?_
    refine require_ensures fun echo => ?_
    refine ensures_computed.bind ?_
    rintro _ after ⟨rfl, committed⟩
    refine ensures_pure ⟨hello.frame, ack.frame, ?_⟩
    obtain ⟨received, same⟩ := readsHello.commit readsAck committed
    exact {
      received := by simpa [quietHello, quietAck] using received
      sent := ⟨_, _, sentHello, sentAck, by simp [silentHello, silentAck]⟩
      helloKind, ackKind, distinct, sameIdentity
      peer := rfl
      epoch := (if_pos owner).symm
      owner := fun _ => echo
      decoder := same }
  · refine (readHandshakeFrame_ensures (readsHello.helloPhase rfl)).bind
      fun readAck ack ⟨silentAck, readsAck⟩ => ?_
    refine require_ensures fun ackKind => ?_
    refine require_ensures fun sameIdentity => ?_
    refine writeHandshakeFrame_ensures.bind fun wroteAck _ ⟨quietAck, sentAck⟩ => ?_
    refine ensures_computed.bind ?_
    rintro _ after ⟨rfl, committed⟩
    refine ensures_pure ⟨hello.frame, ack.frame, ?_⟩
    obtain ⟨received, same⟩ := readsHello.commit readsAck committed
    exact {
      received := by simpa [quietHello, quietAck] using received
      sent := ⟨_, _, sentHello, sentAck, by simp [silentHello, silentAck]⟩
      helloKind, ackKind, distinct, sameIdentity
      peer := rfl
      epoch := (if_neg other).symm
      owner := fun owner => absurd owner other
      decoder := same }

/-- `InboundHandshake`: every log of a result. This end always compares the nonce. -/
theorem inboundHandshake_ensures
    : (inboundHandshake protobuf options proposal nonce).Ensures fun log made =>
      ∃ hello ack, Handshaken protobuf options proposal nonce log made hello ack ∧
        ack.connectionNonce = nonce := by
  refine (readHandshakeFrame_ensures rfl).bind fun readHello hello ⟨silentHello, readsHello⟩ => ?_
  refine require_ensures fun helloKind => ?_
  refine require_ensures fun distinct => ?_
  refine writeHandshakeFrame_ensures.bind fun wroteHello _ ⟨quietHello, sentHello⟩ => ?_
  refine ensures_ite (fun owner => ?_) (fun other => ?_)
  · refine writeHandshakeFrame_ensures.bind fun wroteAck _ ⟨quietAck, sentAck⟩ => ?_
    refine (readHandshakeFrame_ensures (readsHello.helloPhase rfl)).bind
      fun readAck ack ⟨silentAck, readsAck⟩ => ?_
    refine require_ensures fun ⟨ackKind, sameEpoch, sameNonce, sameIdentity⟩ => ?_
    refine ensures_computed.bind ?_
    rintro _ after ⟨rfl, committed⟩
    refine ensures_pure ⟨hello.frame, ack.frame, ?_, sameNonce⟩
    obtain ⟨received, same⟩ := readsHello.commit readsAck committed
    exact {
      received := by simpa [quietHello, quietAck] using received
      sent := ⟨_, _, sentHello, sentAck, by simp [silentHello, silentAck]⟩
      helloKind, ackKind, distinct, sameIdentity
      peer := rfl
      epoch := (if_pos owner).symm
      owner := fun _ => ⟨sameEpoch, sameNonce⟩
      decoder := same }
  · refine (readHandshakeFrame_ensures (readsHello.helloPhase rfl)).bind
      fun readAck ack ⟨silentAck, readsAck⟩ => ?_
    refine require_ensures fun ⟨ackKind, sameNonce, sameIdentity⟩ => ?_
    refine writeHandshakeFrame_ensures.bind fun wroteAck _ ⟨quietAck, sentAck⟩ => ?_
    refine ensures_computed.bind ?_
    rintro _ after ⟨rfl, committed⟩
    refine ensures_pure ⟨hello.frame, ack.frame, ?_, sameNonce⟩
    obtain ⟨received, same⟩ := readsHello.commit readsAck committed
    exact {
      received := by simpa [quietHello, quietAck] using received
      sent := ⟨_, _, sentHello, sentAck, by simp [silentHello, silentAck]⟩
      helloKind, ackKind, distinct, sameIdentity
      peer := rfl
      epoch := (if_neg other).symm
      owner := fun owner => absurd owner other
      decoder := same }

/-- Who opened the link. -/
inductive Direction
  | outbound
  | inbound
  deriving DecidableEq

/-- The handshake of one end. -/
def handshake (protobuf : Protobuf) (direction : Direction) (options : ClientOptions)
    (proposal nonce : UInt64) : ConnProgram Established :=
  match direction with
  | .outbound => outboundHandshake protobuf options proposal nonce
  | .inbound => inboundHandshake protobuf options proposal nonce

/-- Either handshake, with the check that only the accepting end always makes. -/
theorem handshake_ensures {direction : Direction}
    : (handshake protobuf direction options proposal nonce).Ensures fun log made =>
      ∃ hello ack, Handshaken protobuf options proposal nonce log made hello ack ∧
        (direction = .inbound → ack.connectionNonce = nonce) := by
  cases direction with
  | outbound =>
    exact outboundHandshake_ensures.mono fun log made ⟨hello, ack, handshaken⟩ =>
      ⟨hello, ack, handshaken, fun inbound => nomatch inbound⟩
  | inbound =>
    exact inboundHandshake_ensures.mono fun log made ⟨hello, ack, handshaken, nonce⟩ =>
      ⟨hello, ack, handshaken, fun _ => nonce⟩

end BbtInfra.Rpc
