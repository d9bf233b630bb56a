import BbtInfra.Rpc.HandshakeRuns

/-!
# Handshakes that complete

Accepted options, a proposal and a nonce that are not zero make frames that encode, and a peer
that answers as the protocol says gets the call to return. Three runs are enough for the
results on handshakes: the accepting end, and the dialling end with and without the epoch.
-/
namespace BbtInfra.Rpc

open Lib Dialogue SessionFrame SessionFrameDecoder Framing

/-- Options whose identity and frame limit a handshake accepts. -/
structure Presentable (options : ClientOptions) : Prop where
  named : options.localIdentity ≠ []
  short : options.localIdentity.length ≤ kRpcV2MaxPeerIdentityBytes
  utf8 : isValidUtf8 options.localIdentity = true
  least : kMinFrameBytes ≤ options.maxFrameBytes
  most : options.maxFrameBytes ≤ kRpcV2MaxFrameBytes

/-- Accepted options are presentable. -/
theorem Presentable.of_valid {options : ClientOptions} (valid : options.validate = .ok ()) :
    Presentable options := by
  obtain ⟨named, short, utf8, -, least, most⟩ := ClientOptions.validate_ok valid
  exact ⟨named, short, utf8, least, most⟩

/-- A handshake frame of presentable options, of either kind. -/
def presented (kind : FrameKind) (options : ClientOptions) (epoch nonce : UInt64) : SessionFrame :=
  { makeHello options epoch nonce with kind }

section Encoding

variable {options : ClientOptions} {kind : FrameKind} {epoch nonce : UInt64}

/-- A handshake frame of presentable options keeps the rules. -/
theorem presented_valid (presentable : Presentable options)
    (handshake : kind = .hello ∨ kind = .helloAck) (proposed : epoch ≠ 0) (fresh : nonce ≠ 0) :
    (presented kind options epoch nonce).validateKindRules false = .ok () := by
  have short := Nat.not_lt.mpr presentable.short
  rcases handshake with rfl | rfl <;>
    simp [validateKindRules, validateEnvelope,
      validateRequest, validateOutcome, presented, makeHello, checks_ok,
      refuse_ok, SessionFrame.handshake, data, outcomeKind,
      routed, messaging, presentable.named, presentable.utf8, short,
      proposed, fresh, checkUtf8Len, validateMetadata, validateMetadataFrom]

/-- The most bytes a handshake body needs: its scalars and an identity. -/
def presentedBound : Nat := 18 * Pb.fieldBound + kRpcV2MaxPeerIdentityBytes

/-- A small body that carries a handshake frame. -/
structure Small (protobuf : Protobuf) (body : Bytes) (frame : SessionFrame) : Prop where
  decoded : decodeSessionFrame protobuf body = .ok frame
  filled : body ≠ []
  kind : frame.kind = .hello ∨ frame.kind = .helloAck
  bounded : body.length ≤ presentedBound

/-- A handshake frame of presentable options encodes to a small body. -/
theorem presented_encodes {protobuf : Protobuf} (faithful : protobuf.Faithful)
    (presentable : Presentable options) (handshake : kind = .hello ∨ kind = .helloAck)
    (proposed : epoch ≠ 0) (fresh : nonce ≠ 0) :
    ∃ body, encodeFramedSessionFrame protobuf (presented kind options epoch nonce)
        options.maxFrameBytes = .ok (Framing.frame kFramePrefixBytes body) ∧
      Small protobuf body (presented kind options epoch nonce) := by
  obtain ⟨message, filled, bounded⟩ : ∃ message,
      fillProto (presented kind options epoch nonce) = .ok message ∧
        message.sizeBound ≤ presentedBound := by
    have short := presentable.short
    unfold fillProto
    rw [presented_valid presentable handshake proposed fresh]
    rcases handshake with rfl | rfl <;>
      refine ⟨_, rfl, ?_⟩ <;>
      simpa [Pb.SessionFrame.sizeBound, presented, makeHello, Pb.entriesBound,
        Pb.Outcome.sizeBound, presentedBound] using short
  obtain ⟨body, serialized, small⟩ := faithful.serialize_small message
    (bounded.trans_lt (by decide))
  have encoded : encodeSessionFrame protobuf (presented kind options epoch nonce) = .ok body := by
    simp [encodeSessionFrame, filled, serialized, Bind.bind, Except.bind]
  refine ⟨body, ?_, decode_encodeSessionFrame faithful encoded,
    encodeSessionFrame_ne_nil faithful encoded, handshake, small.trans bounded⟩
  have least : presentedBound ≤ frameByteLimit (presented kind options epoch nonce).kind
      options.maxFrameBytes := by
    have room : presentedBound ≤ kMinFrameBytes ∧ presentedBound ≤ kRpcV2HelloMaxFrameBytes := by
      decide
    have least := presentable.least
    unfold frameByteLimit
    split_ifs <;> omega
  have range : ¬(options.maxFrameBytes = 0 ∨ options.maxFrameBytes > kRpcV2MaxFrameBytes) := by
    have positive : 0 < kMinFrameBytes := by decide
    have least := presentable.least
    have most := presentable.most
    omega
  have limit : ¬body.length > frameByteLimit (presented kind options epoch nonce).kind
      options.maxFrameBytes := by
    omega
  simp [encodeFramedSessionFrame, refuse, range, encoded, limit, Bind.bind, Except.bind, pure,
    Except.pure, frame, encodeFramePrefix]

end Encoding

/-- The answer to a write that is complete. -/
def completed (bytes : Bytes) : ConnEvent :=
  .write bytes { outcome := { phase := .done, sent := bytes.length }, operationValid := true } 0

/-- A gate brings no bytes. -/
@[simp] theorem gate_received (code : StdErrorCode) : (ConnEvent.gate code).received = [] := rfl

/-- It sends none. -/
@[simp] theorem gate_sent (code : StdErrorCode) : (ConnEvent.gate code).sent = [] := rfl

/-- A read brings its segments. -/
@[simp] theorem read_received (segments : List Bytes) :
    (ConnEvent.read (.ok segments)).received = segments.flatten := rfl

/-- It sends nothing. -/
@[simp] theorem read_sent (outcome : Except StdErrorCode (List Bytes)) :
    (ConnEvent.read outcome).sent = [] := rfl

/-- A completed write has sent its bytes. -/
@[simp] theorem completed_sent (bytes : Bytes) : (completed bytes).sent = bytes := rfl

/-- It brings none. -/
@[simp] theorem completed_received (bytes : Bytes) : (completed bytes).received = [] := rfl

/-- The answers to reading one batch of one segment. -/
def batch (bytes : Bytes) : List ConnEvent := [.gate .success, .read (.ok [bytes])]

/-- The bytes of a batch are not sent. -/
@[simp] theorem batch_sent (bytes : Bytes) : sentBytes (batch bytes) = [] := rfl

/-- They are received. -/
@[simp] theorem batch_received (bytes : Bytes) : receivedBytes (batch bytes) = bytes := by
  simp [batch]

section Calls

variable {protobuf : Protobuf} {options : ClientOptions} {proposal nonce : UInt64}

/-- A frame that encodes is written. -/
theorem writeHandshakeFrame_runs {frame : SessionFrame} {maxFrame : Nat} {bytes : Bytes}
    (encoded : encodeFramedSessionFrame protobuf frame maxFrame = .ok bytes) :
    (writeHandshakeFrame protobuf frame maxFrame).Runs [completed bytes] () := by
  refine (runs_lift encoded).pass ?_
  have wrote : (connWrite bytes).Runs [completed bytes]
      { outcome := { phase := .done, sent := bytes.length }, operationValid := true } :=
    runs_perform (by simp [completed])
  exact wrote.bind (runs_lift rfl)

/-- A check that holds passes. -/
theorem require_runs {holds : Prop} [Decidable holds] {error : Error} (passes : holds) :
    (require holds error).Runs [] () :=
  runs_lift ((refuse_ok _ _).mpr (not_not.mpr passes))

/-- The two frames of a peer, as the two reads of a handshake take them, and the decoder that
the commit leaves. -/
structure Answers (protobuf : Protobuf) (options : ClientOptions) (first second : List ConnEvent)
    (hello ack : SessionFrame) (decoder : SessionFrameDecoder) : Prop where
  reads : ∃ helloDecoder stash ackDecoder left,
    (readHandshakeFrame protobuf { maxFrameBytes := options.maxFrameBytes } []).Runs first
      { frame := hello, decoder := helloDecoder, stash } ∧
    (readHandshakeFrame protobuf helloDecoder stash).Runs second
      { frame := ack, decoder := ackDecoder, stash := left } ∧
    commitStashAfterFinalAck ackDecoder left = .ok decoder
  helloKind : hello.kind = .hello
  ackKind : ack.kind = .helloAck
  distinct : hello.peerIdentity ≠ options.localIdentity
  sameIdentity : ack.peerIdentity = hello.peerIdentity

variable {first second : List ConnEvent} {hello ack : SessionFrame} {helloBytes ackBytes : Bytes}
  {decoder : SessionFrameDecoder}

section

variable (answers : Answers protobuf options first second hello ack decoder)
  (sentHello : encodeFramedSessionFrame protobuf (makeHello options proposal nonce) options.maxFrameBytes = .ok helloBytes)

include answers sentHello

/-- The dialling end that selects the epoch. -/
theorem outboundHandshake_runs_owner (sentAck : encodeFramedSessionFrame protobuf
      (makeHelloAck options proposal hello.connectionNonce) options.maxFrameBytes = .ok ackBytes)
    (owner : options.localIdentity < hello.peerIdentity)
    (echo : ack.sessionEpoch = proposal ∧ ack.connectionNonce = nonce) :
    (outboundHandshake protobuf options proposal nonce).Runs
      ([completed helloBytes] ++ (first ++ ([completed ackBytes] ++ second)))
      { epoch := proposal, peerIdentity := hello.peerIdentity, decoder } := by
  obtain ⟨helloDecoder, stash, ackDecoder, left, readHello, readAck, committed⟩ := answers.reads
  rw [← List.append_nil second]
  refine (writeHandshakeFrame_runs sentHello).bind (readHello.bind ?_)
  refine (require_runs answers.helloKind).pass ((require_runs answers.distinct).pass ?_)
  refine runs_ite_pos owner ?_
  refine (writeHandshakeFrame_runs sentAck).bind (readAck.bind ?_)
  refine (require_runs answers.ackKind).pass ((require_runs answers.sameIdentity).pass ?_)
  refine (require_runs echo).pass ((runs_lift committed).pass ?_)
  exact runs_pure _

section

variable (sentAck : encodeFramedSessionFrame protobuf (makeHelloAck options ack.sessionEpoch hello.connectionNonce) options.maxFrameBytes = .ok ackBytes)
  (other : ¬options.localIdentity < hello.peerIdentity)

include sentAck other

/-- The dialling end that echoes the epoch: any nonce in the peer's `HelloAck` will do. -/
theorem outboundHandshake_runs_other : (outboundHandshake protobuf options proposal nonce).Runs
      ([completed helloBytes] ++ (first ++ (second ++ [completed ackBytes])))
      { epoch := ack.sessionEpoch, peerIdentity := hello.peerIdentity, decoder } := by
  obtain ⟨helloDecoder, stash, ackDecoder, left, readHello, readAck, committed⟩ := answers.reads
  refine (writeHandshakeFrame_runs sentHello).bind (readHello.bind ?_)
  refine (require_runs answers.helloKind).pass ((require_runs answers.distinct).pass ?_)
  refine runs_ite_neg other (readAck.bind ?_)
  refine (require_runs answers.ackKind).pass ((require_runs answers.sameIdentity).pass ?_)
  refine (writeHandshakeFrame_runs sentAck).bind ((runs_lift committed).pass ?_)
  exact runs_pure _

/-- The accepting end that echoes the epoch. -/
theorem inboundHandshake_runs_other (echo : ack.connectionNonce = nonce) :
    (inboundHandshake protobuf options proposal nonce).Runs
      (first ++ ([completed helloBytes] ++ (second ++ [completed ackBytes])))
      { epoch := ack.sessionEpoch, peerIdentity := hello.peerIdentity, decoder } := by
  obtain ⟨helloDecoder, stash, ackDecoder, left, readHello, readAck, committed⟩ := answers.reads
  refine readHello.bind ?_
  refine (require_runs answers.helloKind).pass ((require_runs answers.distinct).pass ?_)
  refine (writeHandshakeFrame_runs sentHello).bind (runs_ite_neg other ?_)
  refine readAck.bind ((require_runs ⟨answers.ackKind, echo, answers.sameIdentity⟩).pass ?_)
  refine (writeHandshakeFrame_runs sentAck).bind ((runs_lift committed).pass ?_)
  exact runs_pure _

end

end

end Calls

section Peers

variable {protobuf : Protobuf} {options : ClientOptions} {helloBody ackBody : Bytes}
  {hello ack : SessionFrame}

/-- The start of a stream of bodies within the frame limit is accepted behind the handshake when
it fits. -/
theorem commitStashAfterFinalAck_accepts {maxFrameBytes : Nat} {stash later : Bytes}
    (bodies : List Bytes) (most : maxFrameBytes ≤ kRpcV2MaxFrameBytes)
    (legal : stash ++ later = stream kFramePrefixBytes bodies)
    (small : ∀ body ∈ bodies, body.length ≤ maxFrameBytes)
    (room : stash.length ≤ 4 + 2 * maxFrameBytes) :
    commitStashAfterFinalAck { maxFrameBytes } stash =
      .ok { maxFrameBytes, buffer := stash, helloPhase := false } := by
  unfold commitStashAfterFinalAck setHelloPhase
  split_ifs with empty
  · rw [empty]
  · have fits : ∀ body ∈ bodies, body.length < 256 ^ kFramePrefixBytes :=
      fun body member => length_fits ((small body member).trans most)
    have clean : (feedLoop maxFrameBytes false 0 [] stash).2 = none :=
      feedLoop_data bodies le_rfl legal fits small
    have accepted : ({ maxFrameBytes, helloPhase := false } : SessionFrameDecoder).feed stash =
        (.ok (), { maxFrameBytes, buffer := stash, helloPhase := false }) := by
      refine feed_accepts rfl ?_ clean
      simp only [pendingLimit, declaredLimit,
        List.length_nil, min_eq_left most, Bool.false_eq_true, if_false]
      omega
    dsimp only
    rw [accepted]

/-- Every frame limit admits a small body. -/
theorem Small.admissible {body : Bytes} {frame : SessionFrame} (small : Small protobuf body frame)
    {maxFrameBytes : Nat} (least : kMinFrameBytes ≤ maxFrameBytes) :
    Admissible protobuf maxFrameBytes body frame where
  decoded := small.decoded
  filled := small.filled
  kind := small.kind
  limited := by
    have room : presentedBound ≤ kMinFrameBytes ∧ presentedBound ≤ kRpcV2HelloMaxFrameBytes := by
      decide
    have bounded := small.bounded
    omega

/-- Room of a fresh decoder of presentable options. -/
theorem fresh_room (least : kMinFrameBytes ≤ options.maxFrameBytes) :
    3 * (kFramePrefixBytes + presentedBound) ≤
      ({ maxFrameBytes := options.maxFrameBytes } : SessionFrameDecoder).pendingLimit := by
  have listening : Listening { maxFrameBytes := options.maxFrameBytes } := ⟨rfl, rfl⟩
  have room : 3 * (kFramePrefixBytes + presentedBound) ≤ 4 + 2 * kMinFrameBytes ∧
      3 * (kFramePrefixBytes + presentedBound) ≤ 4 + 2 * kRpcV2HelloMaxFrameBytes := by
    decide
  rw [← listening.limits.2]
  dsimp only
  omega

section

variable (presentable : Presentable options) (first : Small protobuf helloBody hello)
  (second : Small protobuf ackBody ack) (helloKind : hello.kind = .hello)

include presentable first second helloKind

section

variable (ackKind : ack.kind = .helloAck) (distinct : hello.peerIdentity ≠ options.localIdentity)
  (sameIdentity : ack.peerIdentity = hello.peerIdentity)

include ackKind distinct sameIdentity

/-- A peer whose two frames and some bytes behind them arrive in one batch. -/
theorem Answers.coalesced {rest : Bytes}
    {decoder : SessionFrameDecoder} (short : rest.length ≤ kFramePrefixBytes + presentedBound)
    (committed : commitStashAfterFinalAck { maxFrameBytes := options.maxFrameBytes } rest =
      .ok decoder) :
    Answers protobuf options
      (batch (Framing.frame kFramePrefixBytes helloBody ++
        (Framing.frame kFramePrefixBytes ackBody ++ rest)))
      [.gate .success] hello ack decoder := by
  have listening : Listening { maxFrameBytes := options.maxFrameBytes } := ⟨rfl, rfl⟩
  have room := fresh_room presentable.least
  have helloSize := first.bounded
  have ackSize := second.bounded
  have tail : (frame kFramePrefixBytes ackBody ++ rest).length =
      kFramePrefixBytes + ackBody.length + rest.length := by
    rw [List.length_append, frame_length]
  have readHello := readHandshakeFrame_runs_batch listening rfl
    (first.admissible presentable.least) (le_trans (by rw [tail]; omega) room)
  have readAck := readHandshakeFrame_runs_held listening rfl
    (second.admissible presentable.least) (show _ + rest.length ≤ _ by omega)
  exact ⟨⟨_, _, _, _, readHello, readAck, committed⟩, helloKind, ackKind, distinct, sameIdentity⟩

/-- A peer whose two frames arrive in a batch each. -/
theorem Answers.apart : Answers protobuf options (batch (frame kFramePrefixBytes helloBody))
      (batch (frame kFramePrefixBytes ackBody)) hello ack
      { maxFrameBytes := options.maxFrameBytes, helloPhase := false } := by
  have listening : Listening { maxFrameBytes := options.maxFrameBytes } := ⟨rfl, rfl⟩
  have room := fresh_room presentable.least
  have helloSize := first.bounded
  have ackSize := second.bounded
  have readHello := readHandshakeFrame_runs_batch listening rfl
    (first.admissible presentable.least) (show _ + [].length ≤ _ by rw [List.length_nil]; omega)
  have readAck := readHandshakeFrame_runs_batch listening rfl
    (second.admissible presentable.least) (show _ + [].length ≤ _ by rw [List.length_nil]; omega)
  rw [List.append_nil] at readHello readAck
  exact ⟨⟨_, _, _, _, readHello, readAck, rfl⟩, helloKind, ackKind, distinct, sameIdentity⟩

end

end

/-- A peer with the smaller identity that sends both its frames and one more in one batch: the
dialling end returns, whatever nonce the `HelloAck` carries. -/
theorem outboundHandshake_returns_other (faithful : protobuf.Faithful)
    (presentable : Presentable options) {peer : ClientOptions} (known : Presentable peer)
    (smaller : peer.localIdentity < options.localIdentity) {proposal nonce stale : UInt64}
    (proposed : proposal ≠ 0) (fresh : nonce ≠ 0) (carried : stale ≠ 0) :
    ∃ log made helloBody ackBody,
      outboundHandshake protobuf options proposal nonce log = .done made [] ∧
      made.peerIdentity = peer.localIdentity ∧
      Small protobuf helloBody (presented .hello peer 1 1) ∧
      Small protobuf ackBody (presented .helloAck peer 1 stale) ∧
      made.decoder.buffer = Framing.frame kFramePrefixBytes helloBody ∧
      receivedBytes log = Framing.frame kFramePrefixBytes helloBody ++
        (Framing.frame kFramePrefixBytes ackBody ++ Framing.frame kFramePrefixBytes helloBody) := by
  have distinct : peer.localIdentity ≠ options.localIdentity := by
    intro same
    rw [same] at smaller
    exact List.lt_irrefl _ smaller
  obtain ⟨helloBody, -, hello⟩ := presented_encodes faithful known (.inl rfl)
    (show (1 : UInt64) ≠ 0 by decide) (show (1 : UInt64) ≠ 0 by decide)
  obtain ⟨ackBody, -, ack⟩ := presented_encodes faithful known (.inr rfl)
    (show (1 : UInt64) ≠ 0 by decide) carried
  obtain ⟨ownHello, sentHello, -⟩ := presented_encodes faithful presentable (.inl rfl) proposed fresh
  obtain ⟨ownAck, sentAck, -⟩ := presented_encodes faithful presentable (.inr rfl)
    (show (1 : UInt64) ≠ 0 by decide) (show (1 : UInt64) ≠ 0 by decide)
  have helloSize := hello.bounded
  have minimum : presentedBound ≤ kMinFrameBytes := by decide
  have least := presentable.least
  have committed := commitStashAfterFinalAck_accepts [helloBody] presentable.most
    (show frame kFramePrefixBytes helloBody ++ [] =
      stream kFramePrefixBytes [helloBody] by simp)
    (by simp only [List.mem_singleton, forall_eq]; omega)
    (by rw [frame_length]; unfold kFramePrefixBytes; omega)
  have answers := Answers.coalesced presentable hello ack rfl rfl distinct rfl
    (by rw [frame_length]; omega) committed
  have runs : (outboundHandshake protobuf options proposal nonce).Runs _ _ :=
    outboundHandshake_runs_other answers sentHello sentAck (List.lt_asymm smaller)
  exact ⟨_, _, helloBody, ackBody, runs.done, rfl, hello, ack, rfl, by simp⟩

end Peers

end BbtInfra.Rpc
