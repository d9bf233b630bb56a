import BbtInfra.Result

/-!
# Well-formed UTF-8

`IsValidUtf8` with its index, where a read behind the end has no value. It reads only what is there,
and accepts the encodings of sequences of scalar values: these are the characters of Lean, whose
encoding is `String.utf8EncodeChar`.
-/
namespace BbtInfra

open List

/-- The loop over the continuation bytes from the `j`-th on, behind the first byte at `i`. -/
def continueUtf8 (s : Bytes) (i : Nat) : Nat → Nat → Nat → Option (Option Nat)
  | 0, _, code => some (some code)
  | due + 1, j, code =>
    s[i + j]?.bind fun t =>
      if t &&& 0xC0 = 0x80 then continueUtf8 s i due (j + 1) (code <<< 6 ||| (t &&& 0x3F).toNat)
      else some none

/-- `IsValidUtf8` from an index on; none when it reads behind the end. -/
def scanUtf8 (s : Bytes) (i : Nat) : Option Bool :=
  if i < s.length then
    s[i]?.bind fun c =>
      if c < 0x80 then scanUtf8 s (i + 1)
      else
        match utf8Lead c with
        | none => some false
        | some (cont, bits, lowest) =>
          if i + cont ≥ s.length then some false
          else
            (continueUtf8 s i cont 1 bits).bind fun read =>
              match read with
              | none => some false
              | some code =>
                if code < lowest ∨ code > 0x10FFFF then some false
                else if code ≥ 0xD800 ∧ code ≤ 0xDFFF then some false
                else scanUtf8 s (i + cont + 1)
  else some true
termination_by s.length - i

/-! ## The reads -/

variable {s : Bytes} {i j due code value : Nat} {bytes rest : Bytes} {byte : UInt8}

/-- What is left behind the continuation bytes. -/
theorem utf8Continuation_rest (read : utf8Continuation due code bytes = some (value, rest)) :
    due ≤ bytes.length ∧ rest = bytes.drop due := by
  induction due generalizing code bytes with
  | zero =>
    cases read
    exact ⟨Nat.zero_le _, rfl⟩
  | succ due ih =>
    cases bytes with
    | nil => cases read
    | cons byte bytes =>
      rw [utf8Continuation] at read
      split_ifs at read
      obtain ⟨enough, same⟩ := ih read
      exact ⟨Nat.succ_le_succ enough, same⟩

/-- With enough bytes behind the index the loop reads them. -/
theorem continueUtf8_eq (enough : i + j + due ≤ s.length) :
    continueUtf8 s i due j code =
      some ((utf8Continuation due code (s.drop (i + j))).map Prod.fst) := by
  induction due generalizing j code with
  | zero => rfl
  | succ due ih =>
    have inside : i + j < s.length := by omega
    rw [drop_eq_getElem_cons inside, utf8Continuation, continueUtf8,
      getElem?_eq_getElem inside, Option.bind_some]
    split_ifs
    · exact ih (by omega)
    · rfl

/-- The scan never reads behind the end: it always has a result. -/
theorem scanUtf8_eq (s : Bytes) (i : Nat) : scanUtf8 s i = some (isValidUtf8 (s.drop i)) := by
  fun_induction scanUtf8 s i with
  | case2 i ended =>
    rw [drop_eq_nil_of_le (Nat.le_of_not_lt ended), isValidUtf8]
  | case1 i inside ihAscii ihTail =>
    rw [drop_eq_getElem_cons inside, isValidUtf8, getElem?_eq_getElem inside,
      Option.bind_some]
    by_cases ascii : s[i] < 0x80
    · rw [if_pos ascii, if_pos ascii]
      exact ihAscii
    rw [if_neg ascii, if_neg ascii]
    cases lead : utf8Lead s[i] with
    | none => rfl
    | some head =>
      obtain ⟨cont, bits, lowest⟩ := head
      dsimp only
      by_cases short : i + cont ≥ s.length
      · rw [if_pos short]
        cases read : utf8Continuation cont bits (s.drop (i + 1)) with
        | none => rfl
        | some found =>
          have enough := (utf8Continuation_rest read).1
          rw [length_drop] at enough
          omega
      · rw [if_neg short, continueUtf8_eq (by omega), Option.bind_some]
        cases read : utf8Continuation cont bits (s.drop (i + 1)) with
        | none => rfl
        | some found =>
          obtain ⟨code, tail⟩ := found
          have behind := (utf8Continuation_rest read).2
          rw [drop_drop, Nat.add_right_comm] at behind
          dsimp only [Option.map]
          split_ifs
          · rfl
          · rfl
          · rw [ihTail cont short, behind]

/-! ## The encodings -/

/-- A small number is the value of its byte. -/
theorem byte_toNat {n : Nat} (small : n < 256) : (UInt8.ofNat n).toNat = n := by
  rw [UInt8.toNat_ofNat', Nat.mod_eq_of_lt small]

/-- The first bytes of longer sequences, in numbers. -/
theorem utf8Lead_eq (byte : UInt8) :
    utf8Lead byte =
      if byte.toNat < 0xC0 then none
      else if byte.toNat < 0xE0 then some (1, byte.toNat - 0xC0, 0x80)
      else if byte.toNat < 0xF0 then some (2, byte.toNat - 0xE0, 0x800)
      else if byte.toNat < 0xF8 then some (3, byte.toNat - 0xF0, 0x10000)
      else none := by
  have table : ∀ n : Fin 256, utf8Lead (UInt8.ofNat n) =
      if n.val < 0xC0 then none
      else if n.val < 0xE0 then some (1, n.val - 0xC0, 0x80)
      else if n.val < 0xF0 then some (2, n.val - 0xE0, 0x800)
      else if n.val < 0xF8 then some (3, n.val - 0xF0, 0x10000)
      else none := by
    decide +kernel
  simpa using table ⟨byte.toNat, byte.toNat_lt⟩

/-- A continuation byte, in numbers. -/
theorem continues_iff (byte : UInt8) :
    (byte &&& 0xC0 = 0x80 ↔ 0x80 ≤ byte.toNat ∧ byte.toNat < 0xC0) ∧
      (byte &&& 0x3F).toNat = byte.toNat % 64 := by
  have table : ∀ n : Fin 256, (UInt8.ofNat n &&& 0xC0 = 0x80 ↔ 0x80 ≤ n.val ∧ n.val < 0xC0) ∧
      (UInt8.ofNat n &&& 0x3F).toNat = n.val % 64 := by
    decide +kernel
  simpa using table ⟨byte.toNat, byte.toNat_lt⟩

/-- One more continuation byte. -/
theorem utf8Continuation_cons (due code : Nat) (byte : UInt8) (bytes : Bytes) :
    utf8Continuation (due + 1) code (byte :: bytes) =
      if 0x80 ≤ byte.toNat ∧ byte.toNat < 0xC0 then
        utf8Continuation due (code * 64 + byte.toNat % 64) bytes
      else none := by
  obtain ⟨continues, bits⟩ := continues_iff byte
  have joined : code <<< 6 ||| byte.toNat % 64 = code * 64 + byte.toNat % 64 :=
    (Nat.shiftLeft_add_eq_or_of_lt (Nat.mod_lt _ (by decide)) code).symm.trans
      (congrArg (· + _) (Nat.shiftLeft_eq code 6))
  rw [utf8Continuation, bits, joined]
  exact if_congr continues rfl rfl

/-- A byte that was read as a continuation. -/
theorem utf8Continuation_split (read : utf8Continuation (due + 1) code bytes = some (value, rest)) :
    ∃ first tail, bytes = first :: tail ∧ (0x80 ≤ first.toNat ∧ first.toNat < 0xC0) ∧
      utf8Continuation due (code * 64 + first.toNat % 64) tail = some (value, rest) := by
  cases bytes with
  | nil => cases read
  | cons first tail =>
    rw [utf8Continuation_cons] at read
    split_ifs at read with range
    exact ⟨first, tail, rfl, range, read⟩

/-- A continuation byte made from six bits. -/
theorem utf8Continuation_digit (due code digit : Nat) (bytes : Bytes) :
    utf8Continuation (due + 1) code (UInt8.ofNat (digit % 64 + 0x80) :: bytes) =
      utf8Continuation due (code * 64 + digit % 64) bytes := by
  rw [utf8Continuation_cons, byte_toNat (by omega), if_pos (by omega)]
  have digits : (digit % 64 + 0x80) % 64 = digit % 64 := by omega
  rw [digits]

/-- A scalar value has a character. -/
theorem exists_char (limited : code ≤ 0x10FFFF) (plain : ¬(code ≥ 0xD800 ∧ code ≤ 0xDFFF)) :
    ∃ c : Char, c.toNat = code := by
  have valid : code.isValidChar := by
    omega
  refine ⟨Char.ofNat code, ?_⟩
  rw [Char.ofNat, dif_pos valid]
  rfl

/-- The bytes of a character, in numbers. -/
theorem utf8EncodeChar_eq (c : Char) :
    String.utf8EncodeChar c =
      if c.toNat ≤ 0x7F then [UInt8.ofNat c.toNat]
      else if c.toNat ≤ 0x7FF then
        [UInt8.ofNat (c.toNat / 64 % 32 + 0xC0), UInt8.ofNat (c.toNat % 64 + 0x80)]
      else if c.toNat ≤ 0xFFFF then
        [UInt8.ofNat (c.toNat / 4096 % 16 + 0xE0), UInt8.ofNat (c.toNat / 64 % 64 + 0x80),
          UInt8.ofNat (c.toNat % 64 + 0x80)]
      else
        [UInt8.ofNat (c.toNat / 262144 % 8 + 0xF0), UInt8.ofNat (c.toNat / 4096 % 64 + 0x80),
          UInt8.ofNat (c.toNat / 64 % 64 + 0x80), UInt8.ofNat (c.toNat % 64 + 0x80)] :=
  rfl

section

variable {lowest bits : Nat} (lead : utf8Lead byte = some (due, bits, lowest))
  (read : utf8Continuation due bits bytes = some (code, rest)) (low : lowest ≤ code)
  (limited : code ≤ 0x10FFFF)

include lead read low limited

/-- A sequence that passes the checks is the encoding of a character. -/
theorem encoding_of_read (plain : ¬(code ≥ 0xD800 ∧ code ≤ 0xDFFF)) :
    ∃ c : Char, byte :: bytes = String.utf8EncodeChar c ++ rest := by
  obtain ⟨c, number⟩ := exists_char limited plain
  refine ⟨c, ?_⟩
  have same : ∀ (b : UInt8) (n : Nat), n = b.toNat → b = UInt8.ofNat n := by
    rintro b _ rfl
    exact UInt8.ofNat_toNat.symm
  rw [utf8Lead_eq] at lead
  split_ifs at lead <;>
    simp only [Option.some.injEq, Prod.mk.injEq] at lead <;>
    obtain ⟨rfl, rfl, rfl⟩ := lead
  · obtain ⟨first, tail, rfl, range, read⟩ := utf8Continuation_split read
    cases read
    rw [utf8EncodeChar_eq, if_neg (by omega), if_pos (by omega)]
    simp only [cons_append, nil_append, cons.injEq, and_true]
    exact ⟨same _ _ (by omega), same _ _ (by omega)⟩
  · obtain ⟨first, tail, rfl, range, read⟩ := utf8Continuation_split read
    obtain ⟨second, tail, rfl, range', read⟩ := utf8Continuation_split read
    cases read
    rw [utf8EncodeChar_eq, if_neg (by omega), if_neg (by omega), if_pos (by omega)]
    simp only [cons_append, nil_append, cons.injEq, and_true]
    exact ⟨same _ _ (by omega), same _ _ (by omega), same _ _ (by omega)⟩
  · obtain ⟨first, tail, rfl, range, read⟩ := utf8Continuation_split read
    obtain ⟨second, tail, rfl, range', read⟩ := utf8Continuation_split read
    obtain ⟨third, tail, rfl, range'', read⟩ := utf8Continuation_split read
    cases read
    rw [utf8EncodeChar_eq, if_neg (by omega), if_neg (by omega), if_neg (by omega)]
    simp only [cons_append, nil_append, cons.injEq, and_true]
    exact ⟨same _ _ (by omega), same _ _ (by omega), same _ _ (by omega), same _ _ (by omega)⟩

/-- Behind a sequence that passes the checks the scan goes on. -/
theorem isValidUtf8_sequence (plain : ¬(code ≥ 0xD800 ∧ code ≤ 0xDFFF)) :
    isValidUtf8 (byte :: bytes) = isValidUtf8 rest := by
  have large : ¬byte < 0x80 := by
    intro below
    have small := UInt8.lt_iff_toNat_lt.mp below
    rw [utf8Lead_eq, if_pos (Nat.lt_trans small (by decide))] at lead
    cases lead
  rw [isValidUtf8, if_neg large, lead]
  dsimp only
  rw [read]
  dsimp only
  rw [if_neg (by omega), if_neg plain]

end

/-- The encoding of a character passes the checks, and the scan goes on behind it. -/
theorem isValidUtf8_encoding (c : Char) (rest : Bytes) :
    isValidUtf8 (String.utf8EncodeChar c ++ rest) = isValidUtf8 rest := by
  have valid := c.valid
  have number : c.toNat.isValidChar := valid
  have ends : ∀ code, code = c.toNat → utf8Continuation 0 code rest = some (c.toNat, rest) := by
    rintro _ rfl
    rfl
  rw [utf8EncodeChar_eq]
  split_ifs with one two three <;> simp only [cons_append, nil_append]
  · have ascii : UInt8.ofNat c.toNat < 0x80 := by
      rw [UInt8.lt_iff_toNat_lt, byte_toNat (by omega)]
      exact Nat.lt_succ_of_le one
    rw [isValidUtf8, if_pos ascii]
  · have lead := utf8Lead_eq (UInt8.ofNat (c.toNat / 64 % 32 + 0xC0))
    rw [byte_toNat (by omega), if_neg (by omega), if_pos (by omega)] at lead
    refine isValidUtf8_sequence lead (?_ : _ = some (c.toNat, rest)) (by omega) (by omega) (by omega)
    rw [utf8Continuation_digit]
    exact ends _ (by omega)
  · have lead := utf8Lead_eq (UInt8.ofNat (c.toNat / 4096 % 16 + 0xE0))
    rw [byte_toNat (by omega), if_neg (by omega), if_neg (by omega), if_pos (by omega)] at lead
    refine isValidUtf8_sequence lead (?_ : _ = some (c.toNat, rest)) (by omega) (by omega) (by omega)
    rw [utf8Continuation_digit, utf8Continuation_digit]
    exact ends _ (by omega)
  · have lead := utf8Lead_eq (UInt8.ofNat (c.toNat / 262144 % 8 + 0xF0))
    rw [byte_toNat (by omega), if_neg (by omega), if_neg (by omega), if_neg (by omega),
      if_pos (by omega)] at lead
    refine isValidUtf8_sequence lead (?_ : _ = some (c.toNat, rest)) (by omega) (by omega) (by omega)
    rw [utf8Continuation_digit, utf8Continuation_digit, utf8Continuation_digit]
    exact ends _ (by omega)

/-- What passes is a sequence of encoded characters. -/
theorem encodings_of_valid (valid : isValidUtf8 s = true) :
    ∃ chars : List Char, s = chars.flatMap String.utf8EncodeChar := by
  have behind : ∀ {c : Char} {bytes rest : Bytes}, bytes = String.utf8EncodeChar c ++ rest →
      (∃ chars : List Char, rest = chars.flatMap String.utf8EncodeChar) →
      ∃ chars : List Char, bytes = chars.flatMap String.utf8EncodeChar := by
    rintro c _ _ rfl ⟨chars, rfl⟩
    exact ⟨c :: chars, flatMap_cons.symm⟩
  fun_induction isValidUtf8 s with
  | case1 => exact ⟨[], rfl⟩
  | case2 byte rest ascii ih =>
    have small := UInt8.lt_iff_toNat_lt.mp ascii
    obtain ⟨c, number⟩ := exists_char (Nat.le_trans (Nat.le_of_lt small) (by decide))
      (fun wide => absurd (Nat.lt_of_lt_of_le small (by decide)) (Nat.not_lt.mpr wide.1))
    have split : byte :: rest = String.utf8EncodeChar c ++ rest := by
      rw [utf8EncodeChar_eq, number, if_pos (Nat.le_of_lt_succ small), UInt8.ofNat_toNat]
      rfl
    exact behind split (ih valid)
  | case7 byte rest _ due bits lowest lead code tail read bounded plain ih =>
    obtain ⟨low, limited⟩ := not_or.mp bounded
    obtain ⟨c, split⟩ := encoding_of_read lead read (Nat.le_of_not_lt low) (Nat.le_of_not_lt limited)
      plain
    exact behind split (ih valid)
  | case3 => cases valid
  | case4 => cases valid
  | case5 => cases valid
  | case6 => cases valid

/-- `IsValidUtf8` reads no byte that is not there, and accepts the sequences of encoded characters. -/
theorem utf8_scan_exact (s : Bytes) :
    scanUtf8 s 0 = some (isValidUtf8 s) ∧
      (isValidUtf8 s = true ↔ ∃ chars : List Char, s = chars.flatMap String.utf8EncodeChar) := by
  refine ⟨by rw [scanUtf8_eq, drop_zero], encodings_of_valid, ?_⟩
  rintro ⟨chars, rfl⟩
  induction chars with
  | nil => rw [flatMap_nil, isValidUtf8]
  | cons c chars ih =>
    rw [flatMap_cons, isValidUtf8_encoding]
    exact ih

end BbtInfra
