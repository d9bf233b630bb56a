import BbtInfra.NetError
import BbtInfra.Lib.Dialogue
import BbtInfra.Rpc.Decoder

/-!
# The handshake

Both ends of a link exchange a `Hello` and a `HelloAck` before a session exists. The two
programs talk to the connection only: the clock and cancellation gate, `Read` and `Write`.
Bytes that arrive behind a handshake frame are kept in a stash until the last handshake
frame is checked, and are fed to the decoder in its data phase then.
-/
namespace BbtInfra.Rpc

open Lib

/-- `net::WritePhase`. -/
inductive WritePhase
  | inFlight | done | rejected | unknown
  deriving DecidableEq, Repr

/-- `net::WriteOutcome`. -/
structure WriteOutcome where
  phase : WritePhase := .unknown
  sent : Nat := 0
  error : StdErrorCode := .success
  deriving DecidableEq, Repr

/-- `net::WriteReport`; of the operation only whether it is valid is read. -/
structure WriteReport where
  waitError : StdErrorCode := .success
  outcome : WriteOutcome := { phase := .rejected }
  operationValid : Bool := false
  deriving DecidableEq, Repr

/-- `detail::TcpCallError`, for a request that is not committed. -/
def tcpCallError (cause : StdErrorCode) (message : String) : Error :=
  netToError cause (text ("rpc tcp: " ++ message))

/-- The write is complete. -/
def WriteReport.settled (report : WriteReport) : Bool :=
  !report.waitError.failed && report.outcome.phase = .done && !report.outcome.error.failed

/-- `detail::TcpSettleWrite`. -/
def tcpSettleWrite (report : WriteReport) (message : String) : Except Error Unit :=
  if report.settled then .ok ()
  else
    let cause := if report.waitError.failed then report.waitError else report.outcome.error
    let error := tcpCallError cause message
    let error := { error with requestPhase := some (error.requestPhase.getD .writing) }
    .error (if report.operationValid ∧ report.outcome.phase = .inFlight ∧ error.code ≠ .cancelled
      then { error with code := .outcomeUnknown } else error)

/-- What the handshake asks of the connection. -/
inductive ConnAsk
  | gate
  | read
  | write (bytes : Bytes)
  deriving DecidableEq

/-- The answers: the gate's error code, a batch of segments or an error code, the report of a
write. Of a write that is not complete the peer gets the first `reached` bytes all the same. -/
inductive ConnEvent
  | gate (code : StdErrorCode)
  | read (outcome : Except StdErrorCode (List Bytes))
  | write (bytes : Bytes) (report : WriteReport) (reached : Nat)

/-- The bytes an answer brings in. -/
def ConnEvent.received : ConnEvent → Bytes
  | .read (.ok segments) => segments.flatten
  | _ => []

/-- The bytes an answer lets out. -/
def ConnEvent.sent : ConnEvent → Bytes
  | .write bytes report reached => if report.settled then bytes else bytes.take reached
  | _ => []

/-- All bytes that a log brings in. -/
def receivedBytes (log : List ConnEvent) : Bytes := log.flatMap ConnEvent.received

/-- All bytes that a log lets out. -/
def sentBytes (log : List ConnEvent) : Bytes := log.flatMap ConnEvent.sent

/-- An empty log has received nothing. -/
@[simp] theorem receivedBytes_nil : receivedBytes [] = [] := rfl

/-- What is received, event by event. -/
@[simp] theorem receivedBytes_cons (event : ConnEvent) (log : List ConnEvent) :
    receivedBytes (event :: log) = event.received ++ receivedBytes log := rfl

/-- What two logs have received. -/
@[simp] theorem receivedBytes_append (log later : List ConnEvent) :
    receivedBytes (log ++ later) = receivedBytes log ++ receivedBytes later := by
  simp [receivedBytes]

/-- An empty log has sent nothing. -/
@[simp] theorem sentBytes_nil : sentBytes [] = [] := rfl

/-- What is sent, event by event. -/
@[simp] theorem sentBytes_cons (event : ConnEvent) (log : List ConnEvent) :
    sentBytes (event :: log) = event.sent ++ sentBytes log := rfl

/-- What two logs have sent. -/
@[simp] theorem sentBytes_append (log later : List ConnEvent) :
    sentBytes (log ++ later) = sentBytes log ++ sentBytes later := by
  simp [sentBytes]

/-- A program over a connection. -/
abbrev ConnProgram := Dialogue ConnAsk ConnEvent Error

/-- `conn.Write`. -/
def connWrite (bytes : Bytes) : ConnProgram WriteReport :=
  .perform (.write bytes) fun
    | .write written report _ => if written = bytes then some report else none
    | _ => none

/-- A check of the source that returns an error. -/
def require (holds : Prop) [Decidable holds] (error : Error) : ConnProgram Unit :=
  .lift (refuse (¬holds) error)

/-- `kHandshakeFeedChunk`. -/
def kHandshakeFeedChunk : Nat := 32 * 1024

/-- What feeding bytes chunk by chunk comes to: a frame and the bytes that were not fed, or
no frame and a decoder that holds all of them. -/
inductive Chunks
  | found (frame : SessionFrame) (decoder : SessionFrameDecoder) (unfed : Bytes)
  | dry (decoder : SessionFrameDecoder)

/-- The chunk loop of `ReadHandshakeFrame`, for the stash and for each segment: `Next` runs
behind every chunk. `rejected` is the error of a chunk that the decoder refuses. -/
def feedChunks (protobuf : Protobuf) (rejected : Error) (decoder : SessionFrameDecoder)
    (bytes : Bytes) : Except Error Chunks :=
  if _filled : bytes = [] then .ok (.dry decoder)
  else
    match decoder.feed (bytes.take kHandshakeFeedChunk) with
    | (.error _, _) => .error rejected
    | (.ok (), fed) =>
      match fed.next protobuf with
      | (.error error, _) => .error error
      | (.ok (some frame), after) => .ok (.found frame after (bytes.drop kHandshakeFeedChunk))
      | (.ok none, after) => feedChunks protobuf rejected after (bytes.drop kHandshakeFeedChunk)
termination_by bytes.length
decreasing_by
  have filled := List.length_pos_of_ne_nil _filled
  rw [List.length_drop]
  unfold kHandshakeFeedChunk
  omega

/-- The segment loop of one `Read` batch. Segments behind the frame are not fed. -/
def feedSegments (protobuf : Protobuf) (rejected : Error) :
    SessionFrameDecoder → List Bytes → Except Error Chunks
  | decoder, [] => .ok (.dry decoder)
  | decoder, segment :: later =>
    match feedChunks protobuf rejected decoder segment with
    | .error error => .error error
    | .ok (.found frame after unfed) => .ok (.found frame after (unfed ++ later.flatten))
    | .ok (.dry after) => feedSegments protobuf rejected after later

/-- A frame of the handshake, with the decoder and the stash behind it. -/
structure HandshakeRead where
  frame : SessionFrame
  decoder : SessionFrameDecoder
  stash : Bytes

/-- `accept` of `ReadHandshakeFrame`: what the decoder still holds goes in front of the stash. -/
def acceptFrame (frame : SessionFrame) (decoder : SessionFrameDecoder) (stash : Bytes) :
    Except Error HandshakeRead :=
  if frame.kind ≠ .hello ∧ frame.kind ≠ .helloAck ∧ frame.kind ≠ .sessionError then
    .error (err .protocolError "non-handshake frame during handshake")
  else if decoder.pendingBytes ≠ 0 then
    .ok { frame, decoder := decoder.takePending.2, stash := decoder.takePending.1 ++ stash }
  else .ok { frame, decoder, stash }

/-- One part of a round: an accepted frame, or a decoder that waits for more. -/
inductive Round
  | found (read : HandshakeRead)
  | dry (decoder : SessionFrameDecoder)

/-- What is there before a read: what the decoder holds, then the stash. -/
def scanHeld (protobuf : Protobuf) (decoder : SessionFrameDecoder) (stash : Bytes) :
    Except Error Round := do
  match decoder.next protobuf with
  | (.error error, _) => .error error
  | (.ok (some frame), after) => return .found (← acceptFrame frame after stash)
  | (.ok none, after) =>
    match ← feedChunks protobuf (err .protocolError "handshake stash decode rejected") after
      stash with
    | .found frame after unfed => return .found (← acceptFrame frame after unfed)
    | .dry after => return .dry after

/-- One batch of `Read`; the stash is empty here. Unfed input goes behind what the decoder
still holds. -/
def takeBatch (protobuf : Protobuf) (decoder : SessionFrameDecoder) (segments : List Bytes) :
    Except Error Round := do
  match ← feedSegments protobuf (err .protocolError "handshake frame decode rejected") decoder
    segments with
  | .found frame after unfed =>
    let read ← acceptFrame frame after []
    return .found { read with stash := read.stash ++ unfed }
  | .dry after => return .dry after

/-- What a failed read means. -/
def readFailure (code : StdErrorCode) : Error :=
  if code = .net NetErrc.eof then err .unavailable "peer closed during handshake"
  else tcpCallError code "handshake read failed"

/-- `ReadHandshakeFrame`: each round passes the gate, scans what is there, and reads a batch. -/
def readHandshakeFrame (protobuf : Protobuf) :
    SessionFrameDecoder → Bytes → ConnProgram HandshakeRead
  | _, _, [] => .waits .gate
  | decoder, stash, .gate code :: events =>
    if code.failed then .failed (tcpCallError code "handshake timed out") events
    else
      match scanHeld protobuf decoder stash with
      | .error error => .failed error events
      | .ok (.found read) => .done read events
      | .ok (.dry drained) =>
        match events with
        | [] => .waits .read
        | .read (.error code) :: later => .failed (readFailure code) later
        | .read (.ok segments) :: later =>
          match takeBatch protobuf drained segments with
          | .error error => .failed error later
          | .ok (.found read) => .done read later
          | .ok (.dry after) => readHandshakeFrame protobuf after [] later
        | _ :: _ => .strays
  | _, _, _ :: _ => .strays

/-- `CommitStashAfterFinalAck`. -/
def commitStashAfterFinalAck (decoder : SessionFrameDecoder) (stash : Bytes) :
    Except Error SessionFrameDecoder :=
  let decoder := decoder.setHelloPhase false
  if stash = [] then .ok decoder
  else
    match decoder.feed stash with
    | (.ok (), after) => .ok after
    | (.error _, _) => .error (err .protocolError "handshake stash decode rejected")

/-- `WriteHandshakeFrame`. -/
def writeHandshakeFrame (protobuf : Protobuf) (frame : SessionFrame) (maxFrame : Nat) :
    ConnProgram Unit := do
  let bytes ← .lift (encodeFramedSessionFrame protobuf frame maxFrame)
  let report ← connWrite bytes
  .lift (tcpSettleWrite report "handshake write failed")

/-- `MakeHello`. -/
def makeHello (options : ClientOptions) (epoch nonce : UInt64) : SessionFrame where
  kind := .hello
  traffic := .system
  peerIdentity := options.localIdentity
  sessionEpoch := epoch
  connectionNonce := nonce

/-- `MakeHelloAck`. -/
def makeHelloAck (options : ClientOptions) (epoch peerNonce : UInt64) : SessionFrame where
  kind := .helloAck
  traffic := .system
  peerIdentity := options.localIdentity
  sessionEpoch := epoch
  connectionNonce := peerNonce

/-- What a handshake returns: the epoch, `out_peer_identity` and `out_decoder`. -/
structure Established where
  epoch : UInt64
  peerIdentity : Bytes
  decoder : SessionFrameDecoder

/-- `OutboundHandshake`. -/
def outboundHandshake (protobuf : Protobuf) (options : ClientOptions) (proposal nonce : UInt64) :
    ConnProgram Established := do
  writeHandshakeFrame protobuf (makeHello options proposal nonce) options.maxFrameBytes
  let peerHello ← readHandshakeFrame protobuf { maxFrameBytes := options.maxFrameBytes } []
  let remote := peerHello.frame
  require (remote.kind = .hello) (err .protocolError "expected Hello from peer")
  require (remote.peerIdentity ≠ options.localIdentity)
    (err .protocolError "self-connection rejected")
  if options.localIdentity < remote.peerIdentity then
    -- this end is the epoch owner: its proposal is the selected epoch
    writeHandshakeFrame protobuf (makeHelloAck options proposal remote.connectionNonce)
      options.maxFrameBytes
    let peerAck ← readHandshakeFrame protobuf peerHello.decoder peerHello.stash
    let ack := peerAck.frame
    require (ack.kind = .helloAck) (err .protocolError "expected HelloAck from peer")
    require (ack.peerIdentity = remote.peerIdentity)
      (err .protocolError "HelloAck identity mismatch")
    require (ack.sessionEpoch = proposal ∧ ack.connectionNonce = nonce)
      (err .protocolError "HelloAck echo mismatch")
    let decoder ← .lift (commitStashAfterFinalAck peerAck.decoder peerAck.stash)
    return { epoch := proposal, peerIdentity := remote.peerIdentity, decoder }
  else
    let peerAck ← readHandshakeFrame protobuf peerHello.decoder peerHello.stash
    let ack := peerAck.frame
    require (ack.kind = .helloAck) (err .protocolError "expected HelloAck from peer")
    require (ack.peerIdentity = remote.peerIdentity)
      (err .protocolError "HelloAck identity mismatch")
    -- the nonce of the ack is not compared in this branch
    writeHandshakeFrame protobuf (makeHelloAck options ack.sessionEpoch remote.connectionNonce)
      options.maxFrameBytes
    let decoder ← .lift (commitStashAfterFinalAck peerAck.decoder peerAck.stash)
    return { epoch := ack.sessionEpoch, peerIdentity := remote.peerIdentity, decoder }

/-- `InboundHandshake`. -/
def inboundHandshake (protobuf : Protobuf) (options : ClientOptions) (proposal nonce : UInt64) :
    ConnProgram Established := do
  let peerHello ← readHandshakeFrame protobuf { maxFrameBytes := options.maxFrameBytes } []
  let remote := peerHello.frame
  require (remote.kind = .hello) (err .protocolError "expected Hello from inbound peer")
  require (remote.peerIdentity ≠ options.localIdentity)
    (err .protocolError "self-connection rejected")
  writeHandshakeFrame protobuf (makeHello options proposal nonce) options.maxFrameBytes
  if options.localIdentity < remote.peerIdentity then
    writeHandshakeFrame protobuf (makeHelloAck options proposal remote.connectionNonce)
      options.maxFrameBytes
    let peerAck ← readHandshakeFrame protobuf peerHello.decoder peerHello.stash
    let ack := peerAck.frame
    require (ack.kind = .helloAck ∧ ack.sessionEpoch = proposal ∧ ack.connectionNonce = nonce ∧
        ack.peerIdentity = remote.peerIdentity)
      (err .protocolError "HelloAck echo mismatch")
    let decoder ← .lift (commitStashAfterFinalAck peerAck.decoder peerAck.stash)
    return { epoch := proposal, peerIdentity := remote.peerIdentity, decoder }
  else
    let peerAck ← readHandshakeFrame protobuf peerHello.decoder peerHello.stash
    let ack := peerAck.frame
    require (ack.kind = .helloAck ∧ ack.connectionNonce = nonce ∧
        ack.peerIdentity = remote.peerIdentity)
      (err .protocolError "HelloAck echo mismatch")
    writeHandshakeFrame protobuf (makeHelloAck options ack.sessionEpoch remote.connectionNonce)
      options.maxFrameBytes
    let decoder ← .lift (commitStashAfterFinalAck peerAck.decoder peerAck.stash)
    return { epoch := ack.sessionEpoch, peerIdentity := remote.peerIdentity, decoder }

end BbtInfra.Rpc
