import Mathlib.Data.BitVec

/-!
# Little-endian words

The bytes of a word from the lowest up, and the word that bytes are OR-ed into. Both are described by
their bits: bit `i` of the word is bit `i % 8` of byte `i / 8`.
-/
namespace BbtInfra.Lib.LittleEndian

variable {w : Nat}

/-- The byte of a word at a place. -/
def byteAt (value : BitVec w) (place : Nat) : UInt8 := ⟨(value >>> (8 * place)).setWidth 8⟩

/-- The lowest bytes of a word. -/
def scatter (size : Nat) (value : BitVec w) : List UInt8 := (List.range size).map (byteAt value)

/-- Bytes OR-ed into a word, the first from a place on. -/
def gatherFrom (word : BitVec w) : Nat → List UInt8 → BitVec w
  | _, [] => word
  | place, digit :: digits =>
    gatherFrom (word ||| (digit.toBitVec.setWidth w <<< (8 * place))) (place + 1) digits

/-- Bytes OR-ed into a word. -/
def gather (w : Nat) (digits : List UInt8) : BitVec w := gatherFrom 0 0 digits

/-- A word takes its size. -/
@[simp] theorem scatter_length (size : Nat) (value : BitVec w) :
    (scatter size value).length = size := by
  simp [scatter]

/-- A bit of a byte of a word. -/
theorem byteAt_bit (value : BitVec w) (place i : Nat) :
    (byteAt value place).toBitVec.getLsbD i = (decide (i < 8) && value.getLsbD (8 * place + i)) := by
  simp [byteAt]

/-- What one byte adds to a word. -/
theorem shifted_bit (digit : UInt8) (place i : Nat) :
    (digit.toBitVec.setWidth w <<< (8 * place)).getLsbD i =
      (decide (i < w) && (decide (i / 8 = place) && digit.toBitVec.getLsbD (i % 8))) := by
  by_cases inside : i < w
  · by_cases own : i / 8 = place
    · have above : ¬i < 8 * place := by omega
      have offset : i - 8 * place = i % 8 := by omega
      simp [inside, own, above, offset]
    · by_cases above : i < 8 * place
      · simp [own, above]
      · have past : 8 ≤ i - 8 * place := by omega
        simp [own, BitVec.getLsbD_of_ge digit.toBitVec _ past]
  · simp [inside]

/-- A bit of the word that bytes are OR-ed into. -/
theorem gatherFrom_bit (word : BitVec w) (place : Nat) (digits : List UInt8) (i : Nat) :
    (gatherFrom word place digits).getLsbD i =
      (word.getLsbD i || (decide (i < w) && (decide (place ≤ i / 8) &&
        digits[i / 8 - place]?.any fun digit => digit.toBitVec.getLsbD (i % 8)))) := by
  induction digits generalizing word place with
  | nil => simp [gatherFrom]
  | cons digit digits ih =>
    rw [gatherFrom, ih, BitVec.getLsbD_or, shifted_bit]
    obtain before | own | after := Nat.lt_trichotomy (i / 8) place
    · have apart : i / 8 ≠ place := by omega
      have early : ¬place ≤ i / 8 := by omega
      have also : ¬place + 1 ≤ i / 8 := by omega
      simp [apart, early, also]
    · simp [own]
    · have apart : i / 8 ≠ place := by omega
      have late : place ≤ i / 8 := by omega
      have also : place + 1 ≤ i / 8 := by omega
      have index : i / 8 - place = i / 8 - (place + 1) + 1 := by omega
      simp [apart, late, also, index]

/-- A bit of the word that bytes are OR-ed into is one of a byte. -/
theorem gather_bit (digits : List UInt8) (i : Nat) :
    (gather w digits).getLsbD i = (decide (i < w) &&
      digits[i / 8]?.any fun digit => digit.toBitVec.getLsbD (i % 8)) := by
  simp [gather, gatherFrom_bit]

/-- Words with the same lowest bits have the same lowest bytes. -/
theorem scatter_congr {size v : Nat} {a : BitVec v} {b : BitVec w}
    (same : ∀ i < 8 * size, a.getLsbD i = b.getLsbD i) : scatter size a = scatter size b := by
  refine List.map_congr_left fun place member => ?_
  have inside : place < size := by simpa using member
  apply UInt8.toBitVec_inj.mp
  refine BitVec.eq_of_getLsbD_eq fun i low => ?_
  rw [byteAt_bit, byteAt_bit, same (8 * place + i) (by omega)]

/-- The bytes of a word make its lowest bits. -/
theorem gather_scatter_bit {v size : Nat} (value : BitVec w) (room : 8 * size ≤ v) (i : Nat) :
    (gather v (scatter size value)).getLsbD i = (decide (i < 8 * size) && value.getLsbD i) := by
  rw [gather_bit, scatter, List.getElem?_map]
  by_cases low : i < 8 * size
  · have place : i / 8 < size := by omega
    have inside : i < v := by omega
    have joined : 8 * (i / 8) + i % 8 = i := by omega
    have bit : i % 8 < 8 := Nat.mod_lt _ (by decide)
    have byte := byteAt_bit value (i / 8) (i % 8)
    rw [joined] at byte
    simp only [List.getElem?_range place, Option.map_some, Option.any_some, byte, low, inside, bit,
      decide_true, Bool.true_and]
  · have past : size ≤ i / 8 := by omega
    simp [past, low]

/-- A word that has only the bytes written is read back. -/
theorem gather_scatter {size : Nat} (value : BitVec w) (all : w = 8 * size) :
    gather w (scatter size value) = value := by
  refine BitVec.eq_of_getLsbD_eq fun i inside => ?_
  rw [gather_scatter_bit value (by omega)]
  simp [show i < 8 * size by omega]

/-- The bytes of a word made of bytes. -/
theorem scatter_gather (digits : List UInt8) (room : 8 * digits.length ≤ w) :
    scatter digits.length (gather w digits) = digits := by
  refine List.ext_getElem (by simp) fun place inside present => ?_
  apply UInt8.toBitVec_inj.mp
  refine BitVec.eq_of_getLsbD_eq fun i low => ?_
  have within : 8 * place + i < w := by omega
  have quotient : (8 * place + i) / 8 = place := by omega
  have remainder : (8 * place + i) % 8 = i := by omega
  have byte := byteAt_bit (gather w digits) place i
  rw [gather_bit, quotient, remainder] at byte
  simpa [scatter, low, within, present] using byte

end BbtInfra.Lib.LittleEndian
