import BbtInfra.Lib.Framing
import BbtInfra.NetError

/-!
# Frames of the native TCP transport

A payload goes behind its length in four bytes, highest first. Either end reads the first frame of
a connection in turns: it takes what it needs when enough is pending, and otherwise reads more,
however the stream is cut.
-/
namespace BbtInfra.Rpc

open Lib

/-- `kTcpFramePrefixBytes`. -/
def kTcpFramePrefixBytes : Nat := 4

/-- `TcpFrameSizeValid`. -/
def tcpFrameSizeValid (payloadBytes maxFrameBytes : Nat) : Bool :=
  decide (0 < payloadBytes) && decide (payloadBytes ≤ maxFrameBytes)

/-- `TcpFrameWritePrefix`, of the low 32 bits of a length. -/
def tcpFrameWritePrefix (payloadBytes : Nat) : Bytes :=
  Framing.bigEndian kTcpFramePrefixBytes payloadBytes

/-- `TcpFrameReadPrefix`. -/
def tcpFrameReadPrefix (field : Bytes) : Nat := Framing.ofBigEndian field

/-- The bytes of a frame. -/
def tcpFrame (body : Bytes) : Bytes := tcpFrameWritePrefix body.length ++ body

/-- `EncodeRequestFrame`. -/
def encodeRequestFrame (body : Bytes) (maxFrameBytes : Nat) : Except Error Bytes :=
  if tcpFrameSizeValid body.length maxFrameBytes then .ok (tcpFrame body)
  else .error (makeError .invalidArgument (text "rpc tcp: request frame length out of bounds"))

/-- `TcpTake`, with what it leaves pending. -/
def tcpTake (pending : Bytes) (need : Nat) : Option (Bytes × Bytes) :=
  if pending.length < need then none else some (pending.take need, pending.drop need)

/-- Which of the two `FillUpTo` runs. -/
inductive FrameStage
  | prefix'
  | body (need : Nat)
  deriving DecidableEq, Repr

/-- Where `FillUpTo` stands. -/
inductive FillPc
  | take | gate | read
  deriving DecidableEq, Repr

/-- The reader of one frame, with all that its connection has read. -/
structure FrameRead where
  stage : FrameStage := .prefix'
  pc : FillPc := .take
  pending : Bytes := []
  arrived : Bytes := []
  deriving DecidableEq, Repr

/-- What happens in a step of the reader: `CheckCall` and `Read` answer. -/
inductive FillMove
  | take
  | gate (code : StdErrorCode)
  | read (outcome : Except StdErrorCode Bytes)
  deriving DecidableEq

/-- How the reader ends. -/
inductive FrameEnd
  | ended (code : StdErrorCode)
  | outOfBounds
  | payload (body : Bytes)
  deriving DecidableEq

namespace FrameRead

/-- The bytes that `FillUpTo` waits for. -/
def need (r : FrameRead) : Nat :=
  match r.stage with
  | .prefix' => kTcpFramePrefixBytes
  | .body need => need

/-- `Read` has returned bytes. -/
def receive (r : FrameRead) (bytes : Bytes) : FrameRead :=
  { r with pc := .take, pending := r.pending ++ bytes, arrived := r.arrived ++ bytes }

/-- What is taken is the length, or the payload. -/
def taken (maxFrameBytes : Nat) (r : FrameRead) (out rest : Bytes) :
    FrameRead × Option FrameEnd :=
  match r.stage with
  | .prefix' =>
    let length := tcpFrameReadPrefix out
    if length = 0 ∨ length > maxFrameBytes then ({ r with pending := rest }, some .outOfBounds)
    else ({ r with stage := .body length, pending := rest }, none)
  | .body _ => ({ r with pending := rest }, some (.payload out))

/-- A step of the reader, and how it has ended if it has. -/
def step (maxFrameBytes : Nat) (r : FrameRead) (move : FillMove) :
    Option (FrameRead × Option FrameEnd) :=
  match r.pc, move with
  | .take, .take =>
    match tcpTake r.pending r.need with
    | none => some ({ r with pc := .gate }, none)
    | some (out, rest) => some (r.taken maxFrameBytes out rest)
  | .gate, .gate code =>
    if code.failed then some (r, some (.ended code)) else some ({ r with pc := .read }, none)
  | .read, .read (.ok bytes) => some (r.receive bytes, none)
  | .read, .read (.error code) => some (r, some (.ended code))
  | _, _ => none

/-- What was taken and what is pending is all that has arrived. -/
def Sound (maxFrameBytes : Nat) (r : FrameRead) : Prop :=
  match r.stage with
  | .prefix' => r.arrived = r.pending
  | .body need => 0 < need ∧ need ≤ maxFrameBytes ∧
      r.arrived = tcpFrameWritePrefix need ++ r.pending

variable {maxFrameBytes : Nat} {r next : FrameRead}

/-- Enough is pending: it is cut in two. -/
theorem tcpTake_eq {pending out rest : Bytes} {need : Nat}
    (taken : tcpTake pending need = some (out, rest)) :
    out.length = need ∧ pending = out ++ rest := by
  unfold tcpTake at taken
  split_ifs at taken with short
  cases taken
  exact ⟨by simp; omega, (List.take_append_drop need pending).symm⟩

/-- Four bytes are the writing of the length that is read from them. -/
theorem tcpFrameWritePrefix_read {field : Bytes} (four : field.length = kTcpFramePrefixBytes) :
    tcpFrameWritePrefix (tcpFrameReadPrefix field) = field := by
  rw [tcpFrameWritePrefix, tcpFrameReadPrefix, ← four]
  exact Framing.bigEndian_ofBigEndian field

/-- The bytes that arrive go behind the others. -/
theorem receive_sound (sound : r.Sound maxFrameBytes) (bytes : Bytes) :
    (r.receive bytes).Sound maxFrameBytes := by
  unfold Sound at sound ⊢
  cases stage : r.stage with
  | prefix' =>
    rw [stage] at sound
    simp only [receive, stage]
    rw [show r.arrived = r.pending from sound]
  | body need =>
    rw [stage] at sound
    simp only [receive, stage]
    exact ⟨sound.1, sound.2.1, by rw [sound.2.2, List.append_assoc]⟩

/-- A reader that goes on loses nothing. -/
theorem step_sound (sound : r.Sound maxFrameBytes) {move : FillMove}
    (stepped : r.step maxFrameBytes move = some (next, none)) : next.Sound maxFrameBytes := by
  unfold step at stepped
  split at stepped
  · split at stepped
    · cases stepped
      exact sound
    · next out rest cut =>
      obtain ⟨length, split⟩ := tcpTake_eq cut
      unfold taken at stepped
      unfold Sound at sound
      split at stepped
      · next stage =>
        rw [stage] at sound
        rw [need, stage] at length
        dsimp only at stepped
        split_ifs at stepped with bad
        · cases stepped
        · cases stepped
          simp only [not_or, not_lt, gt_iff_lt] at bad
          refine ⟨by omega, bad.2, ?_⟩
          rw [tcpFrameWritePrefix_read length, ← split]
          exact sound
      · cases stepped
  · split_ifs at stepped
    · cases stepped
    · cases stepped
      exact sound
  · cases stepped
    exact receive_sound sound _
  · cases stepped
  · cases stepped

/-- A reader that ends with a payload has read its frame and what is still pending. -/
theorem step_payload (sound : r.Sound maxFrameBytes) {move : FillMove} {body : Bytes}
    (stepped : r.step maxFrameBytes move = some (next, some (.payload body))) :
    0 < body.length ∧ body.length ≤ maxFrameBytes ∧
      next.arrived = tcpFrame body ++ next.pending := by
  unfold step at stepped
  split at stepped
  · split at stepped
    · cases stepped
    · next out rest cut =>
      obtain ⟨length, split⟩ := tcpTake_eq cut
      unfold taken at stepped
      unfold Sound at sound
      split at stepped
      · dsimp only at stepped
        split_ifs at stepped <;> cases stepped
      · next stage =>
        rw [stage] at sound
        rw [need, stage] at length
        cases stepped
        obtain ⟨positive, fits, arrived⟩ := sound
        subst length
        refine ⟨positive, fits, ?_⟩
        rw [arrived, split, tcpFrame, List.append_assoc]
  · split_ifs at stepped <;> cases stepped
  · cases stepped
  · cases stepped
  · cases stepped

end FrameRead

end BbtInfra.Rpc
