import Mathlib.Algebra.Order.Group.Nat
import Mathlib.Data.List.Basic
import Mathlib.Data.List.Induction

/-!
# Decimal texts

The bytes that `Nat.repr` writes: digits only, no digit 0 in front of others, and reading them gives
the number back.
-/
namespace BbtInfra.Lib

open List

/-- The byte of an ASCII character. -/
def asciiByte (c : Char) : UInt8 := UInt8.ofNat c.toNat

/-- The decimal digits of a number as bytes. -/
def decimal (n : Nat) : List UInt8 := (Nat.toDigits 10 n).map asciiByte

/-- The number that bytes spell, each worth its distance to the byte of 0. -/
def undecimal (digits : List UInt8) : Nat :=
  digits.foldl (fun value c => value * 10 + (c.toNat - 0x30)) 0

/-- An ASCII character is encoded as its byte. -/
theorem utf8EncodeChar_ascii {c : Char} (ascii : c.toNat < 128) :
    String.utf8EncodeChar c = [asciiByte c] := by
  have single : c.utf8Size = 1 := by
    rw [Char.utf8Size_eq_one_iff]
    exact UInt32.le_iff_toNat_le.mpr (by simpa using Nat.le_of_lt_succ ascii)
  rw [String.utf8EncodeChar_eq_singleton single]
  rfl

/-- A character that is a digit lies between those of 0 and 9. -/
theorem toNat_of_isDigit {c : Char} (digit : c.isDigit = true) : 48 ≤ c.toNat ∧ c.toNat ≤ 57 := by
  simp only [Char.isDigit, Bool.and_eq_true, decide_eq_true_eq] at digit
  exact ⟨UInt32.le_iff_toNat_le.mp digit.1, UInt32.le_iff_toNat_le.mp digit.2⟩

/-- ASCII characters are encoded one by one. -/
theorem utf8Encode_ascii {chars : List Char} (ascii : ∀ c ∈ chars, c.toNat < 128) :
    chars.utf8Encode.data.toList = chars.map asciiByte := by
  induction chars with
  | nil => rfl
  | cons c rest ih =>
    have first := utf8EncodeChar_ascii (ascii c (by simp))
    have behind := ih fun d member => ascii d (by simp [member])
    rw [utf8Encode_cons, utf8Encode_singleton, first]
    simp [behind]

/-- The bytes of a number's text. -/
theorem toUTF8_repr (n : Nat) : n.repr.toUTF8.data.toList = decimal n := by
  have ascii : ∀ c ∈ Nat.toDigits 10 n, c.toNat < 128 := by
    intro c member
    have digit := Nat.isDigit_of_mem_toDigits (by decide) (by decide) member
    have bounds := toNat_of_isDigit digit
    omega
  exact utf8Encode_ascii ascii

/-- The byte of a digit. -/
theorem toNat_asciiByte {c : Char} (digit : c.isDigit = true) :
    (asciiByte c).toNat = c.toNat := by
  have bounds := toNat_of_isDigit digit
  simp only [asciiByte, UInt8.toNat_ofNat']
  omega

/-- All bytes of a decimal text are digits. -/
theorem digit_of_mem_decimal {n : Nat} {c : UInt8} (member : c ∈ decimal n) :
    0x30 ≤ c.toNat ∧ c.toNat ≤ 0x39 := by
  obtain ⟨char, within, rfl⟩ := mem_map.mp member
  have digit := Nat.isDigit_of_mem_toDigits (by decide) (by decide) within
  rw [toNat_asciiByte digit]
  exact toNat_of_isDigit digit

/-- Reading digits from a value on. -/
theorem foldl_asciiByte {chars : List Char} (digits : ∀ c ∈ chars, c.isDigit = true)
    (value : Nat) :
    (chars.map asciiByte).foldl (fun value c => value * 10 + (c.toNat - 0x30)) value =
      Nat.ofDigitChars 10 chars value := by
  induction chars generalizing value with
  | nil => simp
  | cons c rest ih =>
    have first := toNat_asciiByte (digits c (by simp))
    rw [map_cons, foldl_cons, ih fun d member => digits d (by simp [member]),
      Nat.ofDigitChars_cons, first, Nat.mul_comm]
    rfl

/-- A decimal text is read as its number. -/
theorem undecimal_decimal (n : Nat) : undecimal (decimal n) = n := by
  have digits : ∀ c ∈ Nat.toDigits 10 n, c.isDigit = true :=
    fun c member => Nat.isDigit_of_mem_toDigits (by decide) (by decide) member
  rw [undecimal, decimal, foldl_asciiByte digits, Nat.ofDigitChars_ten_toDigits]

/-- The length of a decimal text. -/
theorem length_decimal_le {n k : Nat} (positive : 0 < k) (below : n < 10 ^ k) :
    (decimal n).length ≤ k := by
  rw [decimal, length_map]
  exact (Nat.length_toDigits_le_iff (by decide) positive).mpr below

/-- A decimal text is not empty. -/
theorem decimal_ne_nil (n : Nat) : decimal n ≠ [] := by
  rw [decimal, ne_eq, map_eq_nil_iff]
  exact Nat.toDigits_ne_nil

/-- A digit 0 in front is the text of 0. -/
theorem head_toDigits {n : Nat} (positive : 0 < n) : (Nat.toDigits 10 n).head? ≠ some '0' := by
  induction n using Nat.strongRecOn with
  | ind n ih =>
    by_cases small : n < 10
    · have table : ∀ m : Fin 10, 0 < m.val → m.val.digitChar ≠ '0' := by decide
      have nonzero := table ⟨n, small⟩ positive
      rw [Nat.toDigits_of_lt_base small]
      simpa using nonzero
    · have rest := ih (n / 10) (by omega) (by omega)
      rw [Nat.toDigits_of_base_le (by decide) (by omega),
        head?_append_of_ne_nil _ Nat.toDigits_ne_nil]
      exact rest

/-- A decimal text of more than one digit does not begin with 0. -/
theorem head_decimal {n : Nat} (long : 1 < (decimal n).length) :
    (decimal n).head? ≠ some 0x30 := by
  intro zero
  have positive : 0 < n := by
    by_contra none_left
    have nothing : n = 0 := by omega
    rw [nothing] at long
    simp [decimal] at long
  rw [decimal, head?_map, Option.map_eq_some_iff] at zero
  obtain ⟨c, front, byte⟩ := zero
  have digit := Nat.isDigit_of_mem_toDigits (b := 10) (n := n) (by decide) (by decide)
    (mem_of_mem_head? front)
  have number := toNat_asciiByte digit
  rw [byte] at number
  have same : c = '0' := Char.toNat_inj.mp number.symm
  rw [same] at front
  exact head_toDigits positive front

/-- A digit behind a number that is not 0. -/
theorem decimal_append_digit {n d : Nat} (positive : 0 < n) (digit : d < 10) :
    decimal (n * 10 + d) = decimal n ++ [UInt8.ofNat (0x30 + d)] := by
  have quotient : (n * 10 + d) / 10 = n := by omega
  have remainder : (n * 10 + d) % 10 = d := by omega
  have table : ∀ d : Fin 10, asciiByte d.val.digitChar = UInt8.ofNat (0x30 + d.val) := by decide
  rw [decimal, Nat.toDigits_of_base_le (by decide) (by omega), quotient, remainder,
    map_append, map_singleton, table ⟨d, digit⟩, decimal]

/-- Digits that do not begin with 0 are the text of their number, and so is a single digit. -/
theorem decimal_undecimal {digits : List UInt8} (some' : digits ≠ [])
    (bytes : ∀ c ∈ digits, 0x30 ≤ c.toNat ∧ c.toNat ≤ 0x39)
    (canonical : digits.length = 1 ∨ digits.head? ≠ some 0x30) :
    decimal (undecimal digits) = digits ∧ (digits.head? ≠ some 0x30 → 0 < undecimal digits) := by
  induction digits using reverseRecOn with
  | nil => exact absurd rfl some'
  | append_singleton front c ih =>
    have bounds := bytes c (by simp)
    have value : undecimal (front ++ [c]) = undecimal front * 10 + (c.toNat - 0x30) := by
      rw [undecimal, foldl_append, undecimal]
      rfl
    have byte : UInt8.ofNat (0x30 + (c.toNat - 0x30)) = c := by
      rw [Nat.add_sub_cancel' bounds.1, UInt8.ofNat_toNat]
    by_cases single : front = []
    · have table : ∀ d : Fin 10, decimal d.val = [UInt8.ofNat (0x30 + d.val)] := by decide
      have text := table ⟨c.toNat - 0x30, by omega⟩
      rw [single] at value ⊢
      rw [value, show undecimal [] = 0 from rfl, Nat.zero_mul, Nat.zero_add, nil_append]
      refine ⟨text.trans (by rw [byte]), fun nonzero => ?_⟩
      have apart : c.toNat ≠ 0x30 := by
        intro zero
        have same : c = 0x30 := UInt8.toNat_inj.mp zero
        exact nonzero (by rw [same]; rfl)
      omega
    · have long : (front ++ [c]).length ≠ 1 := by
        have length := length_pos_iff.mpr single
        rw [length_append, length_singleton]
        omega
      have head : front.head? ≠ some 0x30 := by
        have whole := canonical.resolve_left long
        rwa [List.head?_append_of_ne_nil _ single] at whole
      obtain ⟨same, positive⟩ := ih single (fun d member => bytes d (by simp [member])) (.inr head)
      have more := positive head
      rw [value, decimal_append_digit more (by omega), same, byte]
      exact ⟨rfl, fun _ => by omega⟩

end BbtInfra.Lib
