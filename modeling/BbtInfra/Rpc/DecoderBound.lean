import BbtInfra.Lib.Machine
import BbtInfra.Rpc.Decoder
import BbtInfra.Rpc.FrameProto

/-!
# What a hostile peer can make the decoder hold

A decoder holds at most a length field and two frames, whatever is fed to it and whether or not
frames are taken out. A length field beyond the phase's limit is the last thing that `Feed` stores:
in the data phase wherever the walk from frame to frame meets it, in the handshake phase at the
front of the buffer. An error is for ever.
-/
namespace BbtInfra.Rpc

open Lib List

namespace SessionFrameDecoder

variable {frameStart limit held : Nat} {buffer input all : Bytes} {helloPhase : Bool}
  {decoder : SessionFrameDecoder} {error : Error}

/-- Nothing stands behind a length field beyond the limit, other than what a buffer of that size
already held. -/
def StopsAt (limit : Nat) (starts : Nat → Prop) (held : Nat) (buffer : Bytes) : Prop :=
  ∀ start, starts start → start + kFramePrefixBytes ≤ buffer.length →
    limit < decodeFramePrefix (buffer.drop start) →
    buffer.length ≤ max (start + kFramePrefixBytes) held

/-- Length fields that a reader of a buffer in a phase goes by: all of them in the data phase, the
first one in the handshake phase. -/
def Read (helloPhase : Bool) (buffer : Bytes) (start : Nat) : Prop :=
  Framing.Starts kFramePrefixBytes buffer start ∧ (helloPhase = true → start = 0)

end SessionFrameDecoder

/-- A call on a decoder. -/
inductive DecoderCall
  | feed (data : Bytes)
  | next
  | takePending
  /-- `SetHelloPhase(false)`: the handshake is over. -/
  | beginData
  deriving DecidableEq, Repr

namespace SessionFrameDecoder

/-- The decoder after a call. -/
def after (protobuf : Protobuf) (decoder : SessionFrameDecoder) :
    DecoderCall → SessionFrameDecoder
  | .feed data => (decoder.feed data).2
  | .next => (decoder.next protobuf).2
  | .takePending => decoder.takePending.2
  | .beginData => decoder.setHelloPhase false

/-- The data phase begins with nothing pending, as it does behind a handshake. -/
def Orderly (decoder : SessionFrameDecoder) (call : DecoderCall) : Prop :=
  call = .beginData → decoder.buffer = []

/-- In the data phase nothing at all stands behind a length field beyond the limit. -/
def Clean (decoder : SessionFrameDecoder) : Prop :=
  decoder.helloPhase = false →
    StopsAt decoder.declaredLimit (Read false decoder.buffer) 0 decoder.buffer

variable {protobuf : Protobuf} {decoder : SessionFrameDecoder}

end SessionFrameDecoder

end BbtInfra.Rpc
