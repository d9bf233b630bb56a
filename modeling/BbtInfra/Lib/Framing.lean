import Mathlib.Data.List.Infix
import Mathlib.Tactic.Ring

/-!
# Length-prefixed framing

A body is sent behind its length as a fixed number of big-endian bytes. A stream of such
frames can be cut in one way only, so two readings of one stream agree on every frame that
both contain whole.
-/
namespace BbtInfra.Lib.Framing

open List

/-- The low `width` base-256 digits of a number, highest first. -/
def bigEndian : Nat → Nat → List UInt8
  | 0, _ => []
  | width + 1, value => UInt8.ofNat (value / 256 ^ width) :: bigEndian width value

/-- The number that big-endian digits denote. -/
def ofBigEndian : List UInt8 → Nat
  | [] => 0
  | digit :: digits => digit.toNat * 256 ^ digits.length + ofBigEndian digits

/-- A number takes its width. -/
@[simp] theorem bigEndian_length (width value : Nat) : (bigEndian width value).length = width := by
  induction width with
  | zero => rfl
  | succ width ih => simp [bigEndian, ih]

/-- Writing keeps the value up to the width. -/
theorem ofBigEndian_bigEndian (width value : Nat) :
    ofBigEndian (bigEndian width value) = value % 256 ^ width := by
  induction width with
  | zero => simp [bigEndian, ofBigEndian, Nat.mod_one]
  | succ width ih =>
    rw [bigEndian, ofBigEndian, ih, bigEndian_length, Nat.mod_pow_succ, UInt8.toNat_ofNat']
    ring

variable {width : Nat} {body tail rest : List UInt8}

/-- A value that fits its width is read back. -/
theorem ofBigEndian_bigEndian_of_lt {value : Nat} (fits : value < 256 ^ width) :
    ofBigEndian (bigEndian width value) = value := by
  rw [ofBigEndian_bigEndian, Nat.mod_eq_of_lt fits]

/-- Digits denote a number below the power of their count. -/
theorem ofBigEndian_lt (digits : List UInt8) : ofBigEndian digits < 256 ^ digits.length := by
  induction digits with
  | nil => simp [ofBigEndian]
  | cons digit digits ih =>
    have bounded : digit.toNat ≤ 255 := by have := digit.toNat_lt; omega
    have scaled : digit.toNat * 256 ^ digits.length ≤ 255 * 256 ^ digits.length :=
      Nat.mul_le_mul_right _ bounded
    rw [ofBigEndian, length_cons, Nat.pow_succ]
    omega

/-- Only the value below the power of the width is written. -/
theorem bigEndian_add_mul (width value high : Nat) :
    bigEndian width (high * 256 ^ width + value) = bigEndian width value := by
  induction width generalizing high with
  | zero => rfl
  | succ width ih =>
    have split : high * 256 ^ (width + 1) + value = high * 256 * 256 ^ width + value := by ring
    rw [bigEndian, bigEndian, split, ih, Nat.add_comm, Nat.add_mul_div_right _ _ (Nat.pow_pos (by decide))]
    congr 1
    rw [← UInt8.toNat_inj, UInt8.toNat_ofNat', UInt8.toNat_ofNat', Nat.add_mul_mod_self_right]

/-- Digits are the writing of the number they denote. -/
theorem bigEndian_ofBigEndian (digits : List UInt8) :
    bigEndian digits.length (ofBigEndian digits) = digits := by
  induction digits with
  | nil => rfl
  | cons digit digits ih =>
    have small := ofBigEndian_lt digits
    rw [length_cons, bigEndian, ofBigEndian, bigEndian_add_mul, ih, Nat.add_comm,
      Nat.add_mul_div_right _ _ (Nat.pow_pos (by decide)), Nat.div_eq_of_lt small]
    simp

/-- A body behind its length. -/
def frame (width : Nat) (body : List UInt8) : List UInt8 :=
  bigEndian width body.length ++ body

/-- A frame is its prefix and its body. -/
@[simp] theorem frame_length (width : Nat) (body : List UInt8) :
    (frame width body).length = width + body.length := by
  simp [frame]

/-- The length field in front of a stream. -/
def declared (width : Nat) (stream : List UInt8) : Nat := ofBigEndian (stream.take width)

/-- A length field is read from its own bytes only. -/
theorem declared_append {width : Nat} {stream : List UInt8} (whole : width ≤ stream.length)
    (rest : List UInt8) : declared width (stream ++ rest) = declared width stream := by
  rw [declared, declared, take_append_of_le_length whole]

/-- The length field of a frame is the length of its body. -/
theorem declared_frame (fits : body.length < 256 ^ width)
    (rest : List UInt8) : declared width (frame width body ++ rest) = body.length := by
  rw [declared, frame, append_assoc, take_left' (bigEndian_length _ _),
    ofBigEndian_bigEndian_of_lt fits]

/-- A stream that holds all the bytes its length field declares starts with that frame. -/
theorem eq_frame_append {stream : List UInt8}
    (whole : width + declared width stream ≤ stream.length) :
    stream = frame width ((stream.drop width).take (declared width stream)) ++
      stream.drop (width + declared width stream) := by
  have digits : (stream.take width).length = width := by simp; omega
  have body : ((stream.drop width).take (declared width stream)).length = declared width stream := by
    simp; omega
  have field : bigEndian width (declared width stream) = stream.take width := by
    calc bigEndian width (declared width stream)
        = bigEndian (stream.take width).length (ofBigEndian (stream.take width)) := by
          rw [digits, declared]
      _ = stream.take width := bigEndian_ofBigEndian _
  rw [frame, body, field, ← drop_drop, append_assoc, take_append_drop,
    take_append_drop]

section

variable {other : List UInt8} (fits : body.length < 256 ^ width) (also : other.length < 256 ^ width)

include fits also

/-- Two readings of one stream find the same first frame. -/
theorem frame_append_inj
    (same : frame width body ++ rest = frame width other ++ tail) : body = other ∧ rest = tail := by
  have lengths : body.length = other.length := by
    rw [← declared_frame fits rest, same, declared_frame also]
  simp only [frame, append_assoc, lengths, append_cancel_left_eq] at same
  exact append_inj same lengths

/-- A stream that starts with a frame and is a prefix of one that starts with a frame starts
with the same frame. -/
theorem frame_append_prefix (early : frame width body ++ rest <+: frame width other ++ tail) :
    body = other ∧ rest <+: tail := by
  obtain ⟨more, same⟩ := early
  rw [append_assoc] at same
  obtain ⟨rfl, split⟩ := frame_append_inj fits also same
  exact ⟨rfl, more, split⟩

end

/-- The frames of a sequence of bodies, one behind the other. -/
def stream (width : Nat) (bodies : List (List UInt8)) : List UInt8 :=
  (bodies.map (frame width)).flatten

/-- No bodies take no bytes. -/
@[simp] theorem stream_nil (width : Nat) : stream width [] = [] := rfl

/-- The stream, frame by frame. -/
@[simp] theorem stream_cons (width : Nat) (body : List UInt8) (bodies : List (List UInt8)) :
    stream width (body :: bodies) = frame width body ++ stream width bodies := rfl

/-- The length of a stream. -/
theorem stream_length (width : Nat) (bodies : List (List UInt8)) :
    (stream width bodies).length = (bodies.map fun body => width + body.length).sum := by
  induction bodies with
  | nil => rfl
  | cons body bodies ih =>
    rw [stream_cons, length_append, frame_length, ih, map_cons, sum_cons]

/-- The length field at a frame boundary, once it has arrived, is the length of the next body. -/
theorem declared_arrived {arrived later : List UInt8}
    (fits : body.length < 256 ^ width) (legal : arrived ++ later = frame width body ++ tail)
    (whole : width ≤ arrived.length) : declared width arrived = body.length := by
  rw [← declared_append whole later, legal, declared_frame fits]

/-- What has arrived behind a whole frame is the start of what is behind the frame. -/
theorem drop_arrived {arrived later : List UInt8}
    (legal : arrived ++ later = frame width body ++ tail)
    (whole : width + body.length ≤ arrived.length) :
    arrived.drop (width + body.length) ++ later = tail := by
  have dropped := congrArg (drop (width + body.length)) legal
  rw [drop_append_of_le_length whole] at dropped
  rw [dropped, drop_left' (frame_length width body)]

/-- The bytes behind the first frames of a stream. -/
def behind (width : Nat) : Nat → List UInt8 → List UInt8
  | 0, stream => stream
  | count + 1, stream => behind width count (stream.drop (width + declared width stream))

/-- Behind a frame the count goes down. -/
theorem behind_frame (fits : body.length < 256 ^ width) (count : Nat) (rest : List UInt8) :
    behind width (count + 1) (frame width body ++ rest) = behind width count rest := by
  rw [behind, declared_frame fits, drop_left' (frame_length width body)]

/-- Where a reader that goes from frame to frame finds length fields, whole or not. -/
inductive Starts (width : Nat) : List UInt8 → Nat → Prop
  | here {stream} : Starts width stream 0
  | behind {stream start} : width + declared width stream ≤ stream.length →
      Starts width (stream.drop (width + declared width stream)) start →
      Starts width stream (width + declared width stream + start)

end BbtInfra.Lib.Framing
