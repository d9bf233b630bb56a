import Mathlib.Tactic.Ring.RingNF

/-!
# Base64

The standard encoding of bytes: three bytes are four digits of six bits each, and a group of one or
two bytes at the end is filled up with `=`. The digits of a text need not be the ones that the
encoder writes: the low bits of the last digit before a `=` stand for nothing. `Spells` says that a
text has the digits of the encoder up to those bits.
-/
namespace BbtInfra.Lib.Base64

open List

/-- The `=` that fills up the last group. -/
def pad : UInt8 := 0x3D

/-- The digit of a value below 64. -/
def digit (value : Nat) : UInt8 :=
  if value < 26 then UInt8.ofNat (0x41 + value)
  else if value < 52 then UInt8.ofNat (0x61 + (value - 26))
  else if value < 62 then UInt8.ofNat (0x30 + (value - 52))
  else if value = 62 then 0x2B
  else 0x2F

/-- A byte of the alphabet. -/
def isDigit (c : UInt8) : Bool :=
  (0x41 ≤ c && c ≤ 0x5A) || (0x61 ≤ c && c ≤ 0x7A) || (0x30 ≤ c && c ≤ 0x39) || c = 0x2B || c = 0x2F

/-- The value of a digit. -/
def sextet (c : UInt8) : Nat :=
  if 0x41 ≤ c ∧ c ≤ 0x5A then c.toNat - 0x41
  else if 0x61 ≤ c ∧ c ≤ 0x7A then c.toNat - 0x61 + 26
  else if 0x30 ≤ c ∧ c ≤ 0x39 then c.toNat - 0x30 + 52
  else if c = 0x2B then 62
  else 63

/-- The encoding of bytes. -/
def encode : List UInt8 → List UInt8
  | [] => []
  | [a] => [digit (a.toNat / 4), digit (a.toNat % 4 * 16), pad, pad]
  | [a, b] =>
    [digit (a.toNat / 4), digit (a.toNat % 4 * 16 + b.toNat / 16), digit (b.toNat % 16 * 4), pad]
  | a :: b :: c :: rest =>
    digit (a.toNat / 4) :: digit (a.toNat % 4 * 16 + b.toNat / 16) ::
      digit (b.toNat % 16 * 4 + c.toNat / 64) :: digit (c.toNat % 64) :: encode rest

/-- The three bytes of four values. -/
def group (v₀ v₁ v₂ v₃ : Nat) : List UInt8 :=
  let n := ((v₀ * 64 + v₁) * 64 + v₂) * 64 + v₃
  [UInt8.ofNat (n / 65536), UInt8.ofNat (n / 256), UInt8.ofNat n]

/-- The value of a digit, or zero for a filler. -/
def value (c : UInt8) : Nat := if c = pad then 0 else sextet c

/-- The bytes of the groups of a text. -/
def decodeGroups : List UInt8 → List UInt8
  | c₀ :: c₁ :: c₂ :: c₃ :: rest =>
    group (value c₀) (value c₁) (value c₂) (value c₃) ++ decodeGroups rest
  | _ => []

/-- How many bytes are missing in the last group. -/
def fillers (bytes : List UInt8) : Nat := (3 - bytes.length % 3) % 3

/-- A value without its low bits, two for each filler. -/
def clear (count value : Nat) : Nat := value / 4 ^ count * 4 ^ count

/-- A text with the digits of the encoder, up to the bits of the last one that stand for nothing. -/
def Spells (payload bytes : List UInt8) : Prop :=
  ∃ body last count, isDigit last = true ∧
    payload = body ++ last :: replicate count pad ∧
    encode bytes = body ++ digit (clear count (sextet last)) :: replicate count pad

section Digits

/-- Values are below 64. -/
theorem sextet_lt (c : UInt8) : sextet c < 64 := by
  unfold sextet
  split_ifs with upper lower number plus
  · have := UInt8.le_iff_toNat_le.mp upper.2
    simp at this
    omega
  · have := UInt8.le_iff_toNat_le.mp lower.2
    simp at this
    omega
  · have := UInt8.le_iff_toNat_le.mp number.2
    simp at this
    omega
  all_goals decide

/-- The value of a digit is read back. -/
theorem sextet_digit {value : Nat} (small : value < 64) : sextet (digit value) = value := by
  have all : ∀ v : Fin 64, sextet (digit v) = v := by decide
  exact all ⟨value, small⟩

/-- A digit is in the alphabet. -/
theorem isDigit_digit {value : Nat} (small : value < 64) : isDigit (digit value) = true := by
  have all : ∀ v : Fin 64, isDigit (digit v) = true := by decide
  exact all ⟨value, small⟩

/-- A byte of the alphabet is the digit of its value. -/
theorem digit_sextet {c : UInt8} (known : isDigit c = true) : digit (sextet c) = c := by
  have all : ∀ n : Fin 256, isDigit (UInt8.ofNat n) = true →
      digit (sextet (UInt8.ofNat n)) = UInt8.ofNat n := by decide +kernel
  have own := all ⟨c.toNat, c.toNat_lt⟩
  rw [UInt8.ofNat_toNat] at own
  exact own known

/-- The filler is no digit. -/
theorem ne_pad {c : UInt8} (known : isDigit c = true) : c ≠ pad := by
  rintro rfl
  exact absurd known (by decide)

/-- A character stands for six bits. -/
theorem value_lt (c : UInt8) : value c < 64 := by
  unfold value
  split
  · decide
  · exact sextet_lt c

/-- The padding stands for zero. -/
@[simp] theorem value_pad : value pad = 0 := rfl

/-- The value of a byte of the alphabet. -/
theorem value_of_isDigit {c : UInt8} (known : isDigit c = true) : value c = sextet c :=
  if_neg (ne_pad known)

/-- A digit stands for its value. -/
@[simp] theorem value_digit {v : Nat} (small : v < 64) : value (digit v) = v := by
  rw [value_of_isDigit (isDigit_digit small), sextet_digit small]

end Digits

section Groups

/-- A byte is known by its number. -/
theorem ofNat_eq {n : Nat} {a : UInt8} (same : n % 256 = a.toNat) : UInt8.ofNat n = a := by
  apply UInt8.toNat_inj.mp
  rw [UInt8.toNat_ofNat', same]

/-- The bytes of a group that the encoder writes. -/
theorem group_encoded (a b c : UInt8) :
    group (a.toNat / 4) (a.toNat % 4 * 16 + b.toNat / 16) (b.toNat % 16 * 4 + c.toNat / 64)
      (c.toNat % 64) = [a, b, c] := by
  have ha := a.toNat_lt
  have hb := b.toNat_lt
  have hc := c.toNat_lt
  dsimp only [group]
  rw [@ofNat_eq _ a (by omega), @ofNat_eq _ b (by omega), @ofNat_eq _ c (by omega)]

/-- Three bytes from every four characters. -/
theorem decodeGroups_length (text : List UInt8) :
    (decodeGroups text).length = 3 * (text.length / 4) := by
  fun_induction decodeGroups text with
  | case1 c₀ c₁ c₂ c₃ rest ih =>
    simp only [length_append, ih, group, length_cons, length_nil]
    omega
  | case2 text short =>
    have few : text.length < 4 := by
      match text, short with
      | [], _ | [_], _ | [_, _], _ | [_, _, _], _ => simp
      | c₀ :: c₁ :: c₂ :: c₃ :: rest, short => exact absurd rfl (short c₀ c₁ c₂ c₃ rest)
    simp only [length_nil]
    omega

/-- The groups of an encoding are its bytes with a zero for each filler. -/
theorem decodeGroups_encode (bytes : List UInt8) :
    decodeGroups (encode bytes) = bytes ++ replicate (fillers bytes) 0 := by
  fun_induction encode bytes with
  | case1 => rfl
  | case2 a =>
    have ha := a.toNat_lt
    have grouped := group_encoded a 0 0
    simp only [UInt8.toNat_zero, Nat.zero_div, Nat.zero_mod, Nat.add_zero, Nat.zero_mul] at grouped
    simp only [decodeGroups, value_pad]
    rw [value_digit (by omega), value_digit (by omega), grouped]
    rfl
  | case3 a b =>
    have ha := a.toNat_lt
    have hb := b.toNat_lt
    have grouped := group_encoded a b 0
    simp only [UInt8.toNat_zero, Nat.zero_div, Nat.zero_mod, Nat.add_zero] at grouped
    simp only [decodeGroups, value_pad]
    rw [value_digit (by omega), value_digit (by omega), value_digit (by omega), grouped]
    rfl
  | case4 a b c rest ih =>
    have ha := a.toNat_lt
    have hb := b.toNat_lt
    have hc := c.toNat_lt
    have same : fillers (a :: b :: c :: rest) = fillers rest := by
      simp only [fillers, length_cons]
      omega
    rw [decodeGroups, value_digit (by omega), value_digit (by omega), value_digit (by omega),
      value_digit (by omega), group_encoded, ih, same]
    rfl

/-- What the encoder writes for bytes: digits, and fillers behind them. -/
theorem encode_shape {bytes : List UInt8} (some' : bytes ≠ []) :
    ∃ body last, encode bytes = body ++ last :: replicate (fillers bytes) pad ∧
      ∀ c ∈ body ++ [last], isDigit c = true := by
  fun_induction encode bytes with
  | case1 => exact absurd rfl some'
  | case2 a =>
    have ha := a.toNat_lt
    refine ⟨[digit (a.toNat / 4)], digit (a.toNat % 4 * 16), rfl, ?_⟩
    intro c member
    simp only [cons_append, nil_append, mem_cons, not_mem_nil,
      or_false] at member
    rcases member with rfl | rfl <;> exact isDigit_digit (by omega)
  | case3 a b =>
    have ha := a.toNat_lt
    have hb := b.toNat_lt
    refine ⟨[digit (a.toNat / 4), digit (a.toNat % 4 * 16 + b.toNat / 16)],
      digit (b.toNat % 16 * 4), rfl, ?_⟩
    intro c member
    simp only [cons_append, nil_append, mem_cons, not_mem_nil,
      or_false] at member
    rcases member with rfl | rfl | rfl <;> exact isDigit_digit (by omega)
  | case4 a b c rest ih =>
    have ha := a.toNat_lt
    have hb := b.toNat_lt
    have hc := c.toNat_lt
    have four : ∀ d ∈ [digit (a.toNat / 4), digit (a.toNat % 4 * 16 + b.toNat / 16),
        digit (b.toNat % 16 * 4 + c.toNat / 64), digit (c.toNat % 64)], isDigit d = true := by
      intro d member
      simp only [mem_cons, not_mem_nil, or_false] at member
      rcases member with rfl | rfl | rfl | rfl <;> exact isDigit_digit (by omega)
    by_cases empty : rest = []
    · subst empty
      refine ⟨[digit (a.toNat / 4), digit (a.toNat % 4 * 16 + b.toNat / 16),
        digit (b.toNat % 16 * 4 + c.toNat / 64)], digit (c.toNat % 64), ?_, four⟩
      simp [encode, fillers]
    · obtain ⟨body, last, shape, known⟩ := ih empty
      have same : fillers (a :: b :: c :: rest) = fillers rest := by
        simp only [fillers, length_cons]
        omega
      refine ⟨digit (a.toNat / 4) :: digit (a.toNat % 4 * 16 + b.toNat / 16) ::
        digit (b.toNat % 16 * 4 + c.toNat / 64) :: digit (c.toNat % 64) :: body, last, ?_, ?_⟩
      · rw [shape, same]
        rfl
      · intro d member
        rw [show (_ :: _ :: _ :: _ :: body) ++ [last] =
          [digit (a.toNat / 4), digit (a.toNat % 4 * 16 + b.toNat / 16),
            digit (b.toNat % 16 * 4 + c.toNat / 64), digit (c.toNat % 64)] ++ (body ++ [last]) from
          rfl, mem_append] at member
        exact member.elim (four d) (known d)

/-- The values of the digits of three bytes. -/
theorem group_values {v₀ v₁ v₂ v₃ n : Nat} (h₀ : v₀ < 64) (h₁ : v₁ < 64) (h₂ : v₂ < 64)
    (h₃ : v₃ < 64) (joined : n = ((v₀ * 64 + v₁) * 64 + v₂) * 64 + v₃) :
    n / 65536 % 256 / 4 = v₀ ∧ n / 65536 % 256 % 4 * 16 + n / 256 % 256 / 16 = v₁ ∧
      n / 256 % 256 % 16 * 4 + n % 256 / 64 = v₂ ∧ n % 256 % 64 = v₃ := by
  omega

/-- The encoder writes the digits of a full group. -/
theorem encode_group {v₀ v₁ v₂ v₃ : Nat} (h₀ : v₀ < 64) (h₁ : v₁ < 64) (h₂ : v₂ < 64) (h₃ : v₃ < 64)
    (rest : List UInt8) :
    encode (group v₀ v₁ v₂ v₃ ++ rest) =
      digit v₀ :: digit v₁ :: digit v₂ :: digit v₃ :: encode rest := by
  obtain ⟨first, second, third, fourth⟩ := group_values h₀ h₁ h₂ h₃ rfl
  dsimp only [group, cons_append, nil_append]
  rw [encode]
  simp only [UInt8.toNat_ofNat', Nat.reducePow, first, second, third, fourth]

/-- The encoder writes the first digit of a group of one byte, and the second without its low
bits. -/
theorem encode_one {v₀ v₁ : Nat} (h₀ : v₀ < 64) (h₁ : v₁ < 64) :
    encode ((group v₀ v₁ 0 0).take 1) = [digit v₀, digit (clear 2 v₁), pad, pad] := by
  have first : ((v₀ * 64 + v₁) * 64 + 0) * 64 + 0 = v₀ * 262144 + v₁ * 4096 := by omega
  have high : (v₀ * 262144 + v₁ * 4096) / 65536 % 256 / 4 = v₀ := by omega
  have low : (v₀ * 262144 + v₁ * 4096) / 65536 % 256 % 4 * 16 = v₁ / 16 * 16 := by omega
  dsimp only [group, take]
  rw [encode, first]
  simp only [UInt8.toNat_ofNat', Nat.reducePow, high, low, clear]

/-- The encoder writes the first two digits of a group of two bytes, and the third without its low
bits. -/
theorem encode_two {v₀ v₁ v₂ : Nat} (h₀ : v₀ < 64) (h₁ : v₁ < 64) (h₂ : v₂ < 64) :
    encode ((group v₀ v₁ v₂ 0).take 2) = [digit v₀, digit v₁, digit (clear 1 v₂), pad] := by
  obtain ⟨first, second, third, -⟩ := @group_values v₀ v₁ v₂ 0 _ h₀ h₁ h₂ (by decide) rfl
  have low : (((v₀ * 64 + v₁) * 64 + v₂) * 64 + 0) / 256 % 256 % 16 * 4 = v₂ / 4 * 4 := by omega
  dsimp only [group, take]
  rw [encode]
  simp only [UInt8.toNat_ofNat', Nat.reducePow, first, second, low, clear, pow_one]

/-- What is cut off behind a group is cut off the bytes behind it. -/
theorem take_group {v₀ v₁ v₂ v₃ count : Nat} {rest : List UInt8} (fits : count ≤ rest.length) :
    (group v₀ v₁ v₂ v₃ ++ rest).take ((group v₀ v₁ v₂ v₃ ++ rest).length - count) =
      group v₀ v₁ v₂ v₃ ++ rest.take (rest.length - count) := by
  rw [length_append, show (group v₀ v₁ v₂ v₃).length + rest.length - count =
    (group v₀ v₁ v₂ v₃).length + (rest.length - count) by omega, take_length_add_append]

/-- Digits with fillers behind them spell the bytes of their groups, without those that the fillers
stand for. -/
theorem spells_decodeGroups {count : Nat} (few : count ≤ 2) (body : List UInt8) (last : UInt8)
    (known : ∀ c ∈ body ++ [last], isDigit c = true) (whole : (body.length + 1 + count) % 4 = 0) :
    let payload := body ++ last :: List.replicate count pad
    encode ((decodeGroups payload).take ((decodeGroups payload).length - count)) =
      body ++ digit (clear count (sextet last)) :: List.replicate count pad := by
  match body, known, whole with
  | [], _, whole => simp only [length_nil] at whole; omega
  | [a], known, whole =>
    obtain rfl : count = 2 := by simp only [length_cons, length_nil] at whole; omega
    have ha := known a (by simp)
    have hl := known last (by simp)
    have written := encode_one (sextet_lt a) (sextet_lt last)
    rw [digit_sextet ha] at written
    simpa [decodeGroups, value_of_isDigit ha, value_of_isDigit hl, group] using written
  | [a, b], known, whole =>
    obtain rfl : count = 1 := by simp only [length_cons, length_nil] at whole; omega
    have ha := known a (by simp)
    have hb := known b (by simp)
    have hl := known last (by simp)
    have written := encode_two (sextet_lt a) (sextet_lt b) (sextet_lt last)
    rw [digit_sextet ha, digit_sextet hb] at written
    simpa [decodeGroups, value_of_isDigit ha, value_of_isDigit hb, value_of_isDigit hl, group]
      using written
  | [a, b, c], known, whole =>
    obtain rfl : count = 0 := by simp only [length_cons, length_nil] at whole; omega
    have ha := known a (by simp)
    have hb := known b (by simp)
    have hc := known c (by simp)
    have hl := known last (by simp)
    have written := encode_group (sextet_lt a) (sextet_lt b) (sextet_lt c) (sextet_lt last) []
    rw [digit_sextet ha, digit_sextet hb, digit_sextet hc] at written
    simpa [decodeGroups, value_of_isDigit ha, value_of_isDigit hb, value_of_isDigit hc,
      value_of_isDigit hl, clear, encode] using written
  | a :: b :: c :: d :: more, known, whole =>
    have ha := known a (by simp)
    have hb := known b (by simp)
    have hc := known c (by simp)
    have hd := known d (by simp)
    have rest := spells_decodeGroups few more last (fun e member => known e (by simp_all))
      (by simp only [length_cons] at whole; omega)
    have long := decodeGroups_length (more ++ last :: replicate count pad)
    have room : count ≤ (decodeGroups (more ++ last :: replicate count pad)).length := by
      simp only [length_append, length_cons, length_replicate] at long whole
      omega
    dsimp only [cons_append, decodeGroups] at rest ⊢
    rw [value_of_isDigit ha, value_of_isDigit hb, value_of_isDigit hc, value_of_isDigit hd,
      take_group room, encode_group (sextet_lt a) (sextet_lt b) (sextet_lt c) (sextet_lt d), rest,
      digit_sextet ha, digit_sextet hb, digit_sextet hc, digit_sextet hd]
termination_by body.length

end Groups

section Spelling

/-- What stands at the end of a text. -/
theorem getLast?_tail (front : List UInt8) (last : UInt8) (count : Nat) :
    (front ++ last :: replicate count pad).getLast? =
      some (if count = 0 then last else pad) := by
  cases count with
  | zero => simp
  | succ more =>
    rw [replicate_succ', ← cons_append, ← append_assoc, List.getLast?_concat]
    rfl

/-- The fillers behind a text, and its last digit, are determined. -/
theorem tail_inj {front front' : List UInt8} {last last' : UInt8} {count count' : Nat}
    (digit₁ : last ≠ pad) (digit₂ : last' ≠ pad)
    (same : front ++ last :: replicate count pad =
      front' ++ last' :: replicate count' pad) :
    front = front' ∧ last = last' ∧ count = count' := by
  induction count generalizing count' with
  | zero =>
    cases count' with
    | zero => simpa [append_inj'] using same
    | succ more =>
      have ends := congrArg List.getLast? same
      rw [getLast?_tail, getLast?_tail] at ends
      exact absurd (Option.some.inj ends) digit₁
  | succ fewer ih =>
    cases count' with
    | zero =>
      have ends := congrArg List.getLast? same
      rw [getLast?_tail, getLast?_tail] at ends
      exact absurd (Option.some.inj ends).symm digit₂
    | succ more =>
      simp only [replicate_succ', ← cons_append, ← append_assoc] at same
      obtain ⟨fronts, lasts, counts⟩ := ih (append_cancel_right same)
      exact ⟨fronts, lasts, congrArg _ counts⟩

/-- The text is whole groups. -/
theorem encode_length (bytes : List UInt8) : (encode bytes).length % 4 = 0 := by
  fun_induction encode bytes with
  | case1 | case2 | case3 => simp
  | case4 a b c rest ih =>
    simp only [length_cons]
    omega

/-- Different bytes have different encodings. -/
theorem encode_inj {bytes bytes' : List UInt8} (same : encode bytes = encode bytes') :
    bytes = bytes' := by
  have groups := congrArg decodeGroups same
  rw [decodeGroups_encode, decodeGroups_encode] at groups
  have counts : fillers bytes = fillers bytes' := by
    by_cases none₁ : bytes = []
    · subst none₁
      by_cases none₂ : bytes' = []
      · rw [none₂]
      · obtain ⟨body, last, shape, -⟩ := encode_shape none₂
        rw [shape, encode] at same
        simp at same
    · obtain ⟨body, last, shape, known⟩ := encode_shape none₁
      by_cases none₂ : bytes' = []
      · subst none₂
        rw [shape, encode] at same
        simp at same
      · obtain ⟨body', last', shape', known'⟩ := encode_shape none₂
        rw [shape, shape'] at same
        exact (tail_inj (ne_pad (known last (by simp))) (ne_pad (known' last' (by simp)))
          same).2.2
  rw [counts] at groups
  exact append_cancel_right groups

/-- Clearing bits keeps six of them. -/
theorem clear_lt {v : Nat} (small : v < 64) (count : Nat) : clear count v < 64 :=
  Nat.lt_of_le_of_lt (Nat.div_mul_le_self v (4 ^ count)) small

/-- The texts that spell bytes are digits with up to two fillers behind them, in whole groups that
decode to the bytes. -/
theorem spells_iff {payload bytes : List UInt8} :
    Spells payload bytes ↔ ∃ body last count, count ≤ 2 ∧
      (∀ c ∈ body ++ [last], isDigit c = true) ∧ (body.length + 1 + count) % 4 = 0 ∧
      payload = body ++ last :: replicate count pad ∧
      bytes = (decodeGroups payload).take ((decodeGroups payload).length - count) := by
  constructor
  · rintro ⟨body, last, count, digit', shape, written⟩
    have some' : bytes ≠ [] := by
      rintro rfl
      rw [encode] at written
      simp at written
    obtain ⟨front, final, shape', known⟩ := encode_shape some'
    have cleared := isDigit_digit (clear_lt (sextet_lt last) count)
    obtain ⟨rfl, rfl, rfl⟩ := tail_inj (ne_pad cleared) (ne_pad (known final (by simp)))
      (written.symm.trans shape')
    have few : fillers bytes ≤ 2 := by
      unfold fillers
      omega
    have digits : ∀ c ∈ body ++ [last], isDigit c = true := by
      intro c member
      rcases mem_append.mp member with inside | final
      · exact known c (by simp [inside])
      · rwa [mem_singleton.mp final]
    have whole := encode_length bytes
    rw [written] at whole
    simp only [length_append, length_cons, length_replicate] at whole
    refine ⟨body, last, fillers bytes, few, digits, by omega, shape, ?_⟩
    apply encode_inj
    rw [written, shape]
    exact (spells_decodeGroups few body last digits (by omega)).symm
  · rintro ⟨body, last, count, few, digits, whole, shape, decoded⟩
    refine ⟨body, last, count, digits last (by simp), shape, ?_⟩
    rw [decoded, shape]
    exact spells_decodeGroups few body last digits whole

/-- The encoder spells what it encodes. -/
theorem spells_encode {bytes : List UInt8} (some' : bytes ≠ []) : Spells (encode bytes) bytes := by
  obtain ⟨body, last, shape, known⟩ := encode_shape some'
  have whole := encode_length bytes
  rw [shape] at whole
  simp only [length_append, length_cons, length_replicate] at whole
  refine spells_iff.mpr ⟨body, last, fillers bytes, ?_, known, by omega, shape, ?_⟩
  · unfold fillers
    omega
  · rw [decodeGroups_encode]
    simp

end Spelling

end BbtInfra.Lib.Base64
