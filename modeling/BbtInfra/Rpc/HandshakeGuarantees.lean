import BbtInfra.Lib.Duplex
import BbtInfra.Rpc.FrameProto
import BbtInfra.Rpc.HandshakeComplete

/-!
# What a returned handshake guarantees

Byte conservation holds of every call. Freshness holds against every peer of an accepted link
and against every peer with a larger identity; a dialling end with the larger identity takes a
`HelloAck` without comparing its nonce. Agreement holds of every pair of calls over one link.
-/
namespace BbtInfra.Rpc

open Lib Framing Duplex

section Rules

variable {protobuf : Protobuf} {frame : SessionFrame} {decoding : Bool}

/-- What the rules ask of a handshake frame. -/
structure HandshakeRules (frame : SessionFrame) : Prop where
  named : frame.peerIdentity ≠ []
  short : frame.peerIdentity.length ≤ kRpcV2MaxPeerIdentityBytes
  utf8 : isValidUtf8 frame.peerIdentity = true
  nonce : frame.connectionNonce ≠ 0
  epoch : frame.sessionEpoch ≠ 0

/-- An accepted handshake frame keeps the rules. -/
theorem HandshakeRules.of_valid (valid : frame.validateKindRules decoding = .ok ())
    (kind : frame.handshake = true) : HandshakeRules frame := by
  simp only [SessionFrame.validateKindRules, SessionFrame.validateEnvelope, checks_ok, refuse_ok,
    kind, Bool.true_or, true_and, not_or] at valid
  obtain ⟨⟨-, -, -, ⟨named, short, utf8⟩, -, nonce, -, epoch⟩, -⟩ := valid
  exact ⟨named, by omega, by simpa using utf8, nonce, epoch⟩

/-- A frame that encodes is accepted by the rules. -/
theorem encodeFramedSessionFrame_valid {maxFrameBytes : Nat} {bytes : Bytes}
    (encoded : encodeFramedSessionFrame protobuf frame maxFrameBytes = .ok bytes) :
    frame.validateKindRules false = .ok () := by
  obtain ⟨-, body, made, -⟩ := encodeFramedSessionFrame_ok encoded
  obtain ⟨message, filled, -⟩ := encodeSessionFrame_ok made
  simp only [fillProto, checks_ok] at filled
  exact filled.1

/-- A decoded frame is accepted by the rules. -/
theorem decodeSessionFrame_valid {body : Bytes}
    (decoded : decodeSessionFrame protobuf body = .ok frame) :
    frame.validateKindRules true = .ok () := by
  unfold decodeSessionFrame at decoded
  split_ifs at decoded
  split at decoded
  · simp at decoded
  · next message parsed =>
    simp only [fromProto, checks_ok] at decoded
    obtain ⟨-, decoded⟩ := decoded
    obtain ⟨kind, -, decoded⟩ := bind_ok decoded
    obtain ⟨traffic, -, decoded⟩ := bind_ok decoded
    obtain ⟨reply, -, decoded⟩ := bind_ok decoded
    obtain ⟨outcome, -, decoded⟩ := bind_ok decoded
    simp only [checks_ok, pure, Except.pure, Except.ok.injEq] at decoded
    obtain ⟨valid, rfl⟩ := decoded
    exact valid

end Rules

/-- Options of an end with a short ASCII identity, everything else at its default. -/
def named (localIdentity : Bytes) : ClientOptions := { localIdentity, maxSessions := 1 }

/-- Such options are presentable. -/
theorem named_valid {localIdentity : Bytes} (some' : localIdentity ≠ [])
    (short : localIdentity.length ≤ 256) (ascii : ∀ byte ∈ localIdentity, byte < 0x80) :
    (named localIdentity).validate = .ok () :=
  ClientOptions.validate_defaults some' short ascii (by decide) (by decide)

/-- The options of two ends that differ. -/
theorem named_a_valid : (named (text "a")).validate = .ok () :=
  named_valid (by decide) (by decide) (by decide +kernel)

/-- And those of the other end. -/
theorem named_b_valid : (named (text "b")).validate = .ok () :=
  named_valid (by decide) (by decide) (by decide +kernel)

/-- What a handshake leaves undecoded is what it received behind the `HelloAck`, byte for byte,
however the stream was cut. -/
theorem handshake_conserves_bytes (protobuf : Protobuf) (direction : Direction)
    (options : ClientOptions) (proposal nonce : UInt64) (log : List ConnEvent) (made : Established)
    (returned : handshake protobuf direction options proposal nonce log = .done made []) :
    made.decoder.buffer = Framing.behind kFramePrefixBytes 2 (receivedBytes log) ∧
      ∃ helloBody ackBody hello ack,
        decodeSessionFrame protobuf helloBody = .ok hello ∧ hello.kind = .hello ∧
        decodeSessionFrame protobuf ackBody = .ok ack ∧ ack.kind = .helloAck ∧
        receivedBytes log = frame kFramePrefixBytes helloBody ++
          frame kFramePrefixBytes ackBody ++ made.decoder.buffer := by
  obtain ⟨hello, ack, handshaken, -⟩ := handshake_ensures.of_done returned
  obtain ⟨helloBody, ackBody, carriesHello, carriesAck, received⟩ := handshaken.received
  refine ⟨?_, helloBody, ackBody, hello, ack, carriesHello.decoded, handshaken.helloKind,
    carriesAck.decoded, handshaken.ackKind, by rw [received, List.append_assoc]⟩
  rw [received, behind_frame carriesHello.fits, behind_frame carriesAck.fits,
    behind]

/-- Both handshake frames and a third frame in one batch: the second is decoded from the stash,
the third is left. -/
theorem handshake_conserves_bytes_coalesced :
    ∃ log made, handshake Pb.runtime .outbound (named (text "b")) 1 1 log = .done made [] ∧
      made.decoder.buffer ≠ [] ∧
      made.decoder.buffer = behind kFramePrefixBytes 2 (receivedBytes log) := by
  obtain ⟨log, made, helloBody, -, returned, -, -, -, left, -⟩ :=
    outboundHandshake_returns_other Pb.runtime_faithful (.of_valid named_b_valid)
      (.of_valid named_a_valid) (show text "a" < text "b" by decide)
      (show (1 : UInt64) ≠ 0 by decide) (show (1 : UInt64) ≠ 0 by decide)
      (show (1 : UInt64) ≠ 0 by decide)
  refine ⟨log, made, returned, ?_,
    (handshake_conserves_bytes Pb.runtime .outbound _ 1 1 log made returned).1⟩
  intro empty
  have length := congrArg List.length (left.symm.trans empty)
  simp [kFramePrefixBytes] at length

/-- The peer's bytes start with a `Hello` and a `HelloAck` of the same identity, and the
`HelloAck` answers the `Hello` that this end sent: it carries its nonce, and its epoch where this
end selects it. -/
structure Fresh (protobuf : Protobuf) (options : ClientOptions) (proposal nonce : UInt64)
    (log : List ConnEvent) : Prop where
  sent : ∃ bytes, encodeFramedSessionFrame protobuf (makeHello options proposal nonce)
    options.maxFrameBytes = .ok bytes ∧ bytes <+: sentBytes log
  answered : ∃ helloBody ackBody rest hello ack,
    receivedBytes log = frame kFramePrefixBytes helloBody ++
      (frame kFramePrefixBytes ackBody ++ rest) ∧
    Carries protobuf helloBody hello ∧ Carries protobuf ackBody ack ∧
    hello.kind = .hello ∧ ack.kind = .helloAck ∧ ack.peerIdentity = hello.peerIdentity ∧
    ack.connectionNonce = (makeHello options proposal nonce).connectionNonce ∧
    (options.localIdentity < hello.peerIdentity → ack.sessionEpoch = proposal)

/-- A handshake can return with this peer: proposal and nonce are not zero, and the peer has a
legal identity other than this end's. -/
structure Possible (options : ClientOptions) (proposal nonce : UInt64) (peer : Bytes) : Prop where
  proposed : proposal ≠ 0
  fresh : nonce ≠ 0
  distinct : peer ≠ options.localIdentity
  named : peer ≠ []
  short : peer.length ≤ kRpcV2MaxPeerIdentityBytes
  utf8 : isValidUtf8 peer = true

section Freshness

variable {protobuf : Protobuf} {options : ClientOptions} {proposal nonce : UInt64}
  {log : List ConnEvent} {made : Established} {hello ack : SessionFrame}

section

variable (handshaken : Handshaken protobuf options proposal nonce log made hello ack)

include handshaken

/-- A handshake whose `HelloAck` carries the nonce is fresh. -/
theorem Handshaken.isFresh
    (echo : ack.connectionNonce = nonce) : Fresh protobuf options proposal nonce log := by
  obtain ⟨helloBytes, ackBytes, sentHello, -, sent⟩ := handshaken.sent
  obtain ⟨helloBody, ackBody, carriesHello, carriesAck, received⟩ := handshaken.received
  exact ⟨⟨helloBytes, sentHello, ⟨ackBytes, sent.symm⟩⟩,
    ⟨helloBody, ackBody, _, hello, ack, received, carriesHello, carriesAck, handshaken.helloKind,
      handshaken.ackKind, handshaken.sameIdentity, echo, fun owner => (handshaken.owner owner).1⟩⟩

/-- A handshake that returned was possible. -/
theorem Handshaken.possible : Possible options proposal nonce made.peerIdentity := by
  obtain ⟨helloBytes, ackBytes, sentHello, -, -⟩ := handshaken.sent
  obtain ⟨helloBody, ackBody, carriesHello, -, -⟩ := handshaken.received
  have own := HandshakeRules.of_valid (encodeFramedSessionFrame_valid sentHello) rfl
  have theirs := HandshakeRules.of_valid (decodeSessionFrame_valid carriesHello.decoded)
    (by simp [SessionFrame.handshake, handshaken.helloKind])
  rw [handshaken.peer]
  exact ⟨own.epoch, own.nonce, handshaken.distinct, theirs.named, theirs.short, theirs.utf8⟩

end

/-- Bytes that start with two known frames, the second with another nonce, are not fresh. -/
theorem not_fresh_of_stale {helloBody ackBody rest : Bytes}
    (received : receivedBytes log = Framing.frame kFramePrefixBytes helloBody ++
      (Framing.frame kFramePrefixBytes ackBody ++ rest))
    (carriesHello : Carries protobuf helloBody hello) (carriesAck : Carries protobuf ackBody ack)
    (stale : ack.connectionNonce ≠ nonce) : ¬Fresh protobuf options proposal nonce log := by
  rintro ⟨-, otherHello, otherAck, tail, _, frame, split, carriesOther, carriesSecond, -, -, -,
    echo, -⟩
  rw [received] at split
  obtain ⟨-, split⟩ := frame_append_inj carriesHello.fits carriesOther.fits split
  obtain ⟨rfl, -⟩ := frame_append_inj carriesAck.fits carriesSecond.fits split
  rw [carriesAck.unique carriesSecond] at stale
  exact stale echo

end Freshness

/-- A small body fits the length field. -/
theorem Small.carries {protobuf : Protobuf} {body : Bytes} {frame : SessionFrame}
    (small : Small protobuf body frame) : Carries protobuf body frame := by
  have limit : presentedBound < 256 ^ kFramePrefixBytes := by decide
  exact ⟨small.decoded, small.bounded.trans_lt limit⟩

/-- A peer with the smaller identity gets a stale `HelloAck` accepted. -/
theorem stale_ack_accepted {protobuf : Protobuf} (faithful : protobuf.Faithful)
    {options peer : ClientOptions} (presentable : Presentable options) (known : Presentable peer)
    (smaller : peer.localIdentity < options.localIdentity) {proposal nonce : UInt64}
    (proposed : proposal ≠ 0) (fresh : nonce ≠ 0) :
    ∃ log made, outboundHandshake protobuf options proposal nonce log = .done made [] ∧
      made.peerIdentity = peer.localIdentity ∧ ¬Fresh protobuf options proposal nonce log := by
  obtain ⟨stale, carried, other⟩ : ∃ stale : UInt64, stale ≠ 0 ∧ stale ≠ nonce := by
    by_cases one : nonce = 1
    · exact ⟨2, by decide, by rw [one]; decide⟩
    · exact ⟨1, by decide, fun same => one same.symm⟩
  obtain ⟨log, made, helloBody, ackBody, returned, peerIdentity, hello, ack, -, received⟩ :=
    outboundHandshake_returns_other faithful presentable known smaller proposed fresh carried
  exact ⟨log, made, returned, peerIdentity,
    not_fresh_of_stale received hello.carries ack.carries other⟩

/-- Exactly the accepting end and an end with the smaller identity are sure of a fresh
`HelloAck`; against a smaller identity the dialling end is not, wherever a handshake is possible
at all. -/
theorem handshake_fresh_iff {protobuf : Protobuf} (faithful : protobuf.Faithful)
    (direction : Direction) {options : ClientOptions} (valid : options.validate = .ok ())
    (proposal nonce : UInt64) (peer : Bytes) :
    (∀ log made, handshake protobuf direction options proposal nonce log = .done made [] →
        made.peerIdentity = peer → Fresh protobuf options proposal nonce log) ↔
      direction = .inbound ∨ options.localIdentity < peer ∨
        ¬Possible options proposal nonce peer := by
  refine ⟨fun always => ?_, fun condition log made returned known => ?_⟩
  · by_contra fails
    simp only [not_or, not_not] at fails
    obtain ⟨dialled, other, possible⟩ := fails
    have presentable := Presentable.of_valid valid
    have smaller := (identity_lt_or_lt possible.distinct).resolve_right other
    have peerOptions : Presentable { options with localIdentity := peer } :=
      ⟨possible.named, possible.short, possible.utf8, presentable.least, presentable.most⟩
    obtain ⟨log, made, returned, known, stale⟩ := stale_ack_accepted faithful presentable
      peerOptions smaller possible.proposed possible.fresh
    cases direction with
    | outbound => exact stale (always log made returned known)
    | inbound => exact dialled rfl
  · obtain ⟨hello, ack, handshaken, accepted⟩ := handshake_ensures.of_done returned
    rw [← known] at condition
    rcases condition with inbound | owner | impossible
    · exact handshaken.isFresh (accepted inbound)
    · exact handshaken.isFresh (handshaken.owner (handshaken.peer ▸ owner)).2
    · exact absurd handshaken.possible impossible

/-- The dialling end "b" against the peer "a": not every returned handshake is fresh. -/
theorem handshake_fresh_iff_dialled :
    ¬∀ log made, handshake Pb.runtime .outbound (named (text "b")) 1 1 log = .done made [] →
      made.peerIdentity = text "a" → Fresh Pb.runtime (named (text "b")) 1 1 log := by
  rw [handshake_fresh_iff Pb.runtime_faithful .outbound named_b_valid 1 1 (text "a")]
  rintro (inbound | owner | impossible)
  · cases inbound
  · exact absurd owner (by decide)
  · exact impossible ⟨by decide, by decide, by decide, by decide, by decide,
      isValidUtf8_ascii (by decide +kernel)⟩

/-- A dialled handshake that returns on a `HelloAck` with another nonce. -/
theorem handshake_accepts_stale_ack :
    ∃ log made, handshake Pb.runtime .outbound (named (text "b")) 1 1 log = .done made [] ∧
      ¬Fresh Pb.runtime (named (text "b")) 1 1 log := by
  obtain ⟨log, made, returned, -, stale⟩ := stale_ack_accepted Pb.runtime_faithful
    (.of_valid named_b_valid) (.of_valid named_a_valid) (show text "a" < text "b" by decide)
    (show (1 : UInt64) ≠ 0 by decide) (show (1 : UInt64) ≠ 0 by decide)
  exact ⟨log, made, returned, stale⟩

section Agreement

variable {protobuf : Protobuf} {options peer : ClientOptions} {proposal nonce epoch other : UInt64}
  {log later : List ConnEvent} {made accepted : Established} {hello ack theirHello theirAck : SessionFrame}

/-- An encoded frame is a length field and a body that carries the frame. -/
theorem Carries.of_encoded (faithful : protobuf.Faithful) {frame : SessionFrame}
    {maxFrameBytes : Nat} {bytes : Bytes}
    (encoded : encodeFramedSessionFrame protobuf frame maxFrameBytes = .ok bytes) :
    ∃ body, bytes = Framing.frame kFramePrefixBytes body ∧ Carries protobuf body frame.carried := by
  obtain ⟨most, body, sent, limited, rfl⟩ := encodeFramedSessionFrame_ok encoded
  have whole := limited.trans ((frameByteLimit_le _ _).trans most)
  exact ⟨body, rfl, decode_encodeSessionFrame faithful sent, length_fits whole⟩

/-- Over a stream that loses and adds nothing, the two frames an end took are the two that the
other end sent. -/
theorem Handshaken.sees (faithful : protobuf.Faithful)
    (mine : Handshaken protobuf options proposal nonce log made hello ack)
    (theirs : Handshaken protobuf peer epoch other later accepted theirHello theirAck)
    (carried : receivedBytes log <+: sentBytes later) :
    hello = makeHello peer epoch other ∧
      ack = makeHelloAck peer accepted.epoch theirHello.connectionNonce := by
  obtain ⟨helloBody, ackBody, carriesHello, carriesAck, received⟩ := mine.received
  obtain ⟨helloBytes, ackBytes, sentHello, sentAck, sent⟩ := theirs.sent
  obtain ⟨sentBody, rfl, carriesSent⟩ := Carries.of_encoded faithful sentHello
  obtain ⟨sentAckBody, rfl, carriesSentAck⟩ := Carries.of_encoded faithful sentAck
  rw [received, sent, ← List.append_nil (frame kFramePrefixBytes sentAckBody)] at carried
  obtain ⟨rfl, rest⟩ := frame_append_prefix carriesHello.fits carriesSent.fits carried
  obtain ⟨rfl, -⟩ := frame_append_prefix carriesAck.fits carriesSentAck.fits rest
  exact ⟨carriesHello.unique carriesSent, carriesAck.unique carriesSentAck⟩

/-- Two ends that took each other's frames agree on the epoch. -/
theorem Handshaken.agree (mine : Handshaken protobuf options proposal nonce log made hello ack)
    (theirs : Handshaken protobuf peer epoch other later accepted theirHello theirAck)
    (seen : hello = makeHello peer epoch other ∧
      ack = makeHelloAck peer accepted.epoch theirHello.connectionNonce)
    (known : theirHello = makeHello options proposal nonce ∧
      theirAck = makeHelloAck options made.epoch hello.connectionNonce)
    (owner : options.localIdentity < peer.localIdentity) :
    made.epoch = proposal ∧ accepted.epoch = proposal := by
  have selected := mine.epoch
  have echoed := theirs.epoch
  rw [seen.1, makeHello, if_pos owner] at selected
  rw [known.1, makeHello, if_neg (List.lt_asymm owner), known.2, makeHelloAck] at echoed
  exact ⟨selected, echoed.trans selected⟩

end Agreement

/-- Two ends with presentable options, the dialling one with the smaller identity, do meet. -/
theorem handshakes_meet {protobuf : Protobuf} (faithful : protobuf.Faithful)
    {dialling accepting : ClientOptions} (presentable : Presentable dialling)
    (known : Presentable accepting) (owner : dialling.localIdentity < accepting.localIdentity)
    {proposal nonce epoch other : UInt64} (proposed : proposal ≠ 0) (fresh : nonce ≠ 0)
    (theirs : epoch ≠ 0) (also : other ≠ 0) :
    ∃ link made accepted,
      (Duplex.machine ConnEvent.received ConnEvent.sent).Reachable link ∧
      outboundHandshake protobuf dialling proposal nonce (link.log .left) = .done made [] ∧
      inboundHandshake protobuf accepting epoch other (link.log .right) = .done accepted [] := by
  have distinct : dialling.localIdentity ≠ accepting.localIdentity := by
    intro same
    rw [same] at owner
    exact List.lt_irrefl _ owner
  obtain ⟨hello, sentHello, smallHello⟩ := presented_encodes faithful presentable (.inl rfl)
    proposed fresh
  obtain ⟨theirHello, sentTheirHello, smallTheirHello⟩ := presented_encodes faithful known (.inl rfl)
    theirs also
  obtain ⟨ack, sentAck, smallAck⟩ := presented_encodes faithful presentable (.inr rfl) proposed also
  obtain ⟨theirAck, sentTheirAck, smallTheirAck⟩ := presented_encodes faithful known (.inr rfl)
    proposed fresh
  have dialled : (outboundHandshake protobuf dialling proposal nonce).Runs _ _ :=
    outboundHandshake_runs_owner
      (Answers.apart presentable smallTheirHello smallTheirAck rfl rfl distinct.symm rfl)
      sentHello sentAck owner ⟨rfl, rfl⟩
  have served : (inboundHandshake protobuf accepting epoch other).Runs _ _ :=
    inboundHandshake_runs_other (Answers.apart known smallHello smallAck rfl rfl distinct rfl)
      sentTheirHello sentTheirAck (List.lt_asymm owner) rfl
  -- each end in turn reads what the other has just written
  have first := reachable_left
    (reachable_nothing : (machine ConnEvent.received ConnEvent.sent).Reachable _)
    [completed (frame kFramePrefixBytes hello)]
    (show [] = _ ++ [] by simp)
  have second := reachable_right first
    (batch (frame kFramePrefixBytes hello) ++
      [completed (frame kFramePrefixBytes theirHello)])
    (show _ = _ ++ [] by simp [batch])
  have third := reachable_left second
    (batch (frame kFramePrefixBytes theirHello) ++
      [completed (frame kFramePrefixBytes ack)])
    (show _ = _ ++ [] by simp [batch])
  have fourth := reachable_right third
    (batch (frame kFramePrefixBytes ack) ++
      [completed (frame kFramePrefixBytes theirAck)])
    (show _ = _ ++ [] by simp [batch])
  have fifth := reachable_left fourth (batch (frame kFramePrefixBytes theirAck))
    (show _ = _ ++ [] by simp [batch])
  refine ⟨_, _, _, fifth, Eq.trans (congrArg _ ?_) dialled.done,
    Eq.trans (congrArg _ ?_) served.done⟩
  · simp [between]
  · simp [between]

/-- The two ends of a link that both return: distinct identities, one epoch, which the end with
the smaller identity proposed, and each knows the other's identity. -/
theorem handshake_agreement {protobuf : Protobuf} (faithful : protobuf.Faithful)
    (dialling accepting : ClientOptions) (proposal nonce epoch other : UInt64)
    (link : Duplex ConnEvent UInt8)
    (reachable : (machine ConnEvent.received ConnEvent.sent).Reachable link)
    (made accepted : Established)
    (dialled : outboundHandshake protobuf dialling proposal nonce (link.log .left) = .done made [])
    (served : inboundHandshake protobuf accepting epoch other (link.log .right) =
      .done accepted []) :
    dialling.localIdentity ≠ accepting.localIdentity ∧ made.epoch = accepted.epoch ∧
      made.epoch =
        (if dialling.localIdentity < accepting.localIdentity then proposal else epoch) ∧
      made.peerIdentity = accepting.localIdentity ∧
      accepted.peerIdentity = dialling.localIdentity := by
  obtain ⟨hello, ack, mine⟩ := outboundHandshake_ensures.of_done dialled
  obtain ⟨theirHello, theirAck, theirs, -⟩ := inboundHandshake_ensures.of_done served
  have seen := mine.sees faithful theirs ( received_prefix reachable .left)
  have known := theirs.sees faithful mine ( received_prefix reachable .right)
  have peer : made.peerIdentity = accepting.localIdentity := by rw [mine.peer, seen.1, makeHello]
  have localPeer : accepted.peerIdentity = dialling.localIdentity := by
    rw [theirs.peer, known.1, makeHello]
  have distinct : dialling.localIdentity ≠ accepting.localIdentity := by
    intro same
    have apart := mine.distinct
    rw [seen.1, makeHello] at apart
    exact apart same.symm
  rcases identity_lt_or_lt distinct with owner | owner
  · obtain ⟨left, right⟩ := mine.agree theirs seen known owner
    rw [if_pos owner]
    exact ⟨distinct, left.trans right.symm, left, peer, localPeer⟩
  · obtain ⟨right, left⟩ := theirs.agree mine known seen owner
    rw [if_neg (List.lt_asymm owner)]
    exact ⟨distinct, left.trans right.symm, left, peer, localPeer⟩

/-- The dialling end "a" and the accepting end "b" agree on the proposal of "a". -/
theorem handshake_agreement_dialled :
    ∃ made accepted : Established, made.epoch = accepted.epoch ∧ made.epoch = 7 ∧
      made.peerIdentity = text "b" ∧ accepted.peerIdentity = text "a" := by
  obtain ⟨link, made, accepted, reachable, dialled, served⟩ := handshakes_meet Pb.runtime_faithful
    (.of_valid named_a_valid) (.of_valid named_b_valid) (show text "a" < text "b" by decide)
    (show (7 : UInt64) ≠ 0 by decide) (show (1 : UInt64) ≠ 0 by decide)
    (show (8 : UInt64) ≠ 0 by decide) (show (2 : UInt64) ≠ 0 by decide)
  obtain ⟨-, epochs, proposed, peer, known⟩ := handshake_agreement Pb.runtime_faithful
    (named (text "a")) (named (text "b")) 7 1 8 2 link reachable made accepted dialled served
  exact ⟨made, accepted, epochs, proposed.trans (if_pos (by decide)), peer, known⟩

end BbtInfra.Rpc
