import Mathlib.Data.List.Basic
import Mathlib.Tactic.Ring

/-!
# The protobuf wire format

A message on the wire is a sequence of records: a key, which is a field number and a wire
type in one varint, and a value. Readers collect the values of each field number, so records
of unknown fields do no harm and the last value of a scalar counts. Writing and reading are
inverse on records within the limits of the format.
-/
namespace BbtInfra.Lib.ProtoWire

open List

/-- Most bytes of a varint. -/
def varintWidth : Nat := 10

/-- Base-128 digits, lowest first, with a continuation bit on all but the last. -/
def encodeVarint : Nat → Nat → List UInt8
  | 0, _ => []
  | width + 1, value =>
    if value < 128 then [UInt8.ofNat value]
    else UInt8.ofNat (value % 128 + 128) :: encodeVarint width (value / 128)

/-- Read one varint of at most `width` bytes. -/
def decodeVarint : Nat → List UInt8 → Option (Nat × List UInt8)
  | 0, _ => none
  | _ + 1, [] => none
  | width + 1, byte :: rest =>
    if byte.toNat < 128 then some (byte.toNat, rest)
    else do
      let (high, rest) ← decodeVarint width rest
      some (byte.toNat - 128 + 128 * high, rest)

variable {records : List Record} {record : Record} {field value : Nat}

/-- A varint is read back in front of every suffix. -/
theorem decode_encodeVarint {width : Nat} (wide : 0 < width) (fits : value < 128 ^ width)
    (suffix : List UInt8) :
    decodeVarint width (encodeVarint width value ++ suffix) = some (value, suffix) := by
  induction width generalizing value with
  | zero => omega
  | succ width ih =>
    rw [encodeVarint]
    by_cases small : value < 128
    · rw [if_pos small, singleton_append, decodeVarint, UInt8.toNat_ofNat',
        Nat.mod_eq_of_lt (by omega), if_pos small]
    · have digit : (UInt8.ofNat (value % 128 + 128)).toNat = value % 128 + 128 := by
        rw [UInt8.toNat_ofNat']
        omega
      have high : value / 128 < 128 ^ width := by
        rw [Nat.div_lt_iff_lt_mul (by decide), ← Nat.pow_succ]
        exact fits
      have more : 0 < width := by
        by_contra none'
        have zero : width = 0 := by omega
        rw [zero] at fits
        omega
      rw [if_neg small, cons_append, decodeVarint, digit, if_neg (by omega), ih more high]
      simp only [Option.bind_eq_bind, Option.bind_some, Option.some.injEq, Prod.mk.injEq, and_true]
      omega

/-- A varint has as many bytes as its width at most. -/
theorem encodeVarint_length_le (width value : Nat) : (encodeVarint width value).length ≤ width := by
  induction width generalizing value with
  | zero => simp [encodeVarint]
  | succ width ih =>
    rw [encodeVarint]
    split_ifs
    · simp
    · have shorter := ih (value / 128)
      simp only [length_cons]
      omega

/-- A value below a power of 128 needs no more bytes than its exponent. -/
theorem encodeVarint_length_le_of_lt {width : Nat} (bytes : Nat) (fits : value < 128 ^ bytes)
    (some' : 0 < bytes) : (encodeVarint width value).length ≤ bytes := by
  induction width generalizing bytes value with
  | zero => simp [encodeVarint]
  | succ width ih =>
    rw [encodeVarint]
    by_cases small : value < 128
    · rw [if_pos small, length_singleton]
      exact some'
    · obtain ⟨fewer, rfl⟩ : ∃ fewer, bytes = fewer + 1 := ⟨bytes - 1, by omega⟩
      have high : value / 128 < 128 ^ fewer := by
        rw [Nat.div_lt_iff_lt_mul (by decide), ← Nat.pow_succ]
        exact fits
      have positive : 0 < fewer := by
        by_contra none'
        have zero : fewer = 0 := by omega
        rw [zero] at fits
        omega
      have shorter := ih fewer high positive
      rw [if_neg small, length_cons]
      omega

/-- A varint has a byte. -/
theorem encodeVarint_ne_nil (width : Nat) (wide : 0 < width) (value : Nat) :
    encodeVarint width value ≠ [] := by
  obtain ⟨less, rfl⟩ : ∃ less, width = less + 1 := ⟨width - 1, by omega⟩
  rw [encodeVarint]
  split_ifs <;> simp

/-- The value of a record, by wire type; groups do not occur in proto3. -/
inductive Value
  | varint (value : Nat)
  | fixed64 (bytes : List UInt8)
  | bytes (bytes : List UInt8)
  | fixed32 (bytes : List UInt8)
  deriving DecidableEq, Repr

/-- The wire type of a value. -/
def Value.wireType : Value → Nat
  | .varint _ => 0
  | .fixed64 _ => 1
  | .bytes _ => 2
  | .fixed32 _ => 5

/-- One record. -/
structure Record where
  field : Nat
  value : Value
  deriving DecidableEq, Repr

/-- The limits of a record that is written: the field number and the value fit a varint. -/
def Record.Legal (record : Record) : Prop :=
  record.field < 2 ^ 29 ∧
    match record.value with
    | .varint value => value < 2 ^ 64
    | .bytes bytes => bytes.length < 2 ^ 64
    | .fixed64 bytes => bytes.length = 8
    | .fixed32 bytes => bytes.length = 4

/-- The key of a record. -/
def encodeKey (record : Record) : List UInt8 :=
  encodeVarint varintWidth (record.field * 8 + record.value.wireType)

/-- The bytes of a value. -/
def encodeValue : Value → List UInt8
  | .varint value => encodeVarint varintWidth value
  | .bytes bytes => encodeVarint varintWidth bytes.length ++ bytes
  | .fixed64 bytes => bytes
  | .fixed32 bytes => bytes

/-- Write one record. -/
def encodeRecord (record : Record) : List UInt8 := encodeKey record ++ encodeValue record.value

/-- Take a fixed number of bytes. -/
def takeBytes (count : Nat) (bytes : List UInt8) : Option (List UInt8 × List UInt8) :=
  if bytes.length < count then none else some (bytes.take count, bytes.drop count)

/-- Read a value of a wire type; values of varints keep 64 bits. -/
def decodeValue (wireType : Nat) (bytes : List UInt8) : Option (Value × List UInt8) :=
  match wireType with
  | 0 => do
    let (value, rest) ← decodeVarint varintWidth bytes
    some (.varint (value % 2 ^ 64), rest)
  | 1 => do
    let (taken, rest) ← takeBytes 8 bytes
    some (.fixed64 taken, rest)
  | 2 => do
    let (count, rest) ← decodeVarint varintWidth bytes
    let (taken, rest) ← takeBytes (count % 2 ^ 64) rest
    some (.bytes taken, rest)
  | 5 => do
    let (taken, rest) ← takeBytes 4 bytes
    some (.fixed32 taken, rest)
  | _ => none

/-- Read one record. -/
def decodeRecord (bytes : List UInt8) : Option (Record × List UInt8) := do
  let (key, rest) ← decodeVarint varintWidth bytes
  let (value, rest) ← decodeValue (key % 8) rest
  some ({ field := key / 8, value }, rest)

/-- Read records until no bytes are left, at most `fuel` of them. -/
def decodeRecordsUpTo : Nat → List UInt8 → Option (List Record)
  | _, [] => some []
  | 0, _ :: _ => none
  | fuel + 1, byte :: bytes => do
    let (record, rest) ← decodeRecord (byte :: bytes)
    let records ← decodeRecordsUpTo fuel rest
    some (record :: records)

/-- Read a message: a record has at least one byte, so its length is enough fuel. -/
def decodeRecords (bytes : List UInt8) : Option (List Record) :=
  decodeRecordsUpTo bytes.length bytes

/-- Write a message. -/
def encodeRecords (records : List Record) : List UInt8 := records.flatMap encodeRecord

/-- A value of 64 bits is read back from a varint. -/
theorem decode_encodeVarint64 (small : value < 2 ^ 64) (suffix : List UInt8) :
    decodeVarint varintWidth (encodeVarint varintWidth value ++ suffix) = some (value, suffix) :=
  decode_encodeVarint (by decide) (small.trans (by decide)) suffix

/-- Taking the bytes that are in front. -/
theorem takeBytes_append {bytes suffix : List UInt8} {count : Nat} (length : bytes.length = count) :
    takeBytes count (bytes ++ suffix) = some (bytes, suffix) := by
  unfold takeBytes
  rw [if_neg (by rw [length_append]; omega), take_left' length, drop_left' length]

/-- A value is read back in front of every suffix. -/
theorem decode_encodeValue (legal : record.Legal) (suffix : List UInt8) :
    decodeValue record.value.wireType (encodeValue record.value ++ suffix) =
      some (record.value, suffix) := by
  obtain ⟨field, value⟩ := record
  obtain ⟨-, legal⟩ := legal
  cases value with
  | varint value =>
    simp only [Value.wireType, encodeValue, decodeValue, decode_encodeVarint64 legal,
      Option.bind_eq_bind, Option.bind_some, Nat.mod_eq_of_lt legal]
  | bytes bytes =>
    simp only [Value.wireType, encodeValue, decodeValue, append_assoc,
      decode_encodeVarint64 legal, Option.bind_eq_bind, Option.bind_some,
      Nat.mod_eq_of_lt legal, takeBytes_append rfl]
  | fixed64 | fixed32 =>
    simp only [Value.wireType, encodeValue, decodeValue, takeBytes_append legal,
      Option.bind_eq_bind, Option.bind_some]

/-- A wire type takes three bits. -/
theorem wireType_lt (value : Value) : value.wireType < 8 := by
  cases value <;> simp [Value.wireType]

/-- A record is read back in front of every suffix. -/
theorem decode_encodeRecord (legal : record.Legal) (suffix : List UInt8) :
    decodeRecord (encodeRecord record ++ suffix) = some (record, suffix) := by
  have wire := wireType_lt record.value
  have key : record.field * 8 + record.value.wireType < 2 ^ 64 := by
    have field := legal.1
    omega
  have low : (record.field * 8 + record.value.wireType) % 8 = record.value.wireType := by omega
  have high : (record.field * 8 + record.value.wireType) / 8 = record.field := by omega
  unfold decodeRecord encodeRecord encodeKey
  rw [append_assoc, decode_encodeVarint64 key]
  simp only [Option.bind_eq_bind, Option.bind_some, low, high, decode_encodeValue legal]

/-- A record has bytes. -/
theorem encodeRecord_ne_nil (record : Record) : encodeRecord record ≠ [] := by
  unfold encodeRecord encodeKey
  simp [encodeVarint_ne_nil varintWidth (by decide)]

/-- Records are read back, given enough fuel. -/
theorem decodeUpTo_encodeRecords (legal : ∀ record ∈ records, record.Legal)
    {fuel : Nat} (enough : (encodeRecords records).length ≤ fuel) :
    decodeRecordsUpTo fuel (encodeRecords records) = some records := by
  induction records generalizing fuel with
  | nil =>
    unfold encodeRecords decodeRecordsUpTo
    rfl
  | cons record records ih =>
    have whole : encodeRecords (record :: records) =
        encodeRecord record ++ encodeRecords records := rfl
    have positive := length_pos_of_ne_nil (encodeRecord_ne_nil record)
    rw [whole, length_append] at enough
    obtain ⟨less, rfl⟩ : ∃ less, fuel = less + 1 := ⟨fuel - 1, by omega⟩
    have read := decode_encodeRecord (legal record (by simp)) (encodeRecords records)
    have rest := ih (fun other member => legal other (by simp [member]))
      (show (encodeRecords records).length ≤ less by omega)
    rw [whole]
    cases front : encodeRecord record ++ encodeRecords records with
    | nil =>
      rw [append_eq_nil_iff] at front
      exact absurd front.1 (encodeRecord_ne_nil record)
    | cons byte bytes =>
      rw [front] at read
      rw [decodeRecordsUpTo, read]
      simp only [Option.bind_eq_bind, Option.bind_some, rest]

/-- A message is read back. -/
theorem decode_encodeRecords (legal : ∀ record ∈ records, record.Legal) :
    decodeRecords (encodeRecords records) = some records :=
  decodeUpTo_encodeRecords legal le_rfl

/-- What a writer guarantees of a record before it knows the size of the message. -/
def Record.Written (record : Record) : Prop :=
  record.field < 2 ^ 29 ∧
    match record.value with
    | .varint value => value < 2 ^ 64
    | .bytes _ => True
    | .fixed64 bytes => bytes.length = 8
    | .fixed32 bytes => bytes.length = 4

/-- Every record of a message is written within the format. -/
def Written (records : List Record) : Prop := ∀ record ∈ records, record.Written

/-- No records are within the format. -/
@[simp] theorem written_nil : Written [] := by
  intro record member
  cases member

/-- Records are if each part is. -/
@[simp] theorem written_append (records others : List Record) :
    Written (records ++ others) ↔ Written records ∧ Written others := by
  simp only [Written, mem_append]
  exact ⟨fun all => ⟨fun record member => all record (.inl member),
    fun record member => all record (.inr member)⟩,
    fun both record member => member.elim (both.1 record) (both.2 record)⟩

/-- A record is no longer than the message it is in. -/
theorem encodeRecord_length_le_records (member : record ∈ records) :
    (encodeRecord record).length ≤ (encodeRecords records).length := by
  obtain ⟨before, after, rfl⟩ := append_of_mem member
  simp only [encodeRecords, flatMap_append, flatMap_cons, length_append]
  omega

/-- In a message of moderate size every written record is legal. -/
theorem legal_of_written (written : Written records)
    (small : (encodeRecords records).length < 2 ^ 64) : ∀ record ∈ records, record.Legal := by
  intro record member
  have within := encodeRecord_length_le_records member
  obtain ⟨field, value⟩ := written record member
  refine ⟨field, ?_⟩
  cases shape : record.value with
  | varint | fixed64 | fixed32 => simpa [shape] using value
  | bytes content =>
    simp only [encodeRecord, encodeValue, shape, length_append] at within
    omega

/-- The values of one field, in wire order. -/
def values (field : Nat) (records : List Record) : List Value :=
  (records.filter fun record => record.field = field).map Record.value

/-- No records have no values. -/
@[simp] theorem values_nil (field : Nat) : values field [] = [] := rfl

/-- Values, part by part. -/
@[simp] theorem values_append (field : Nat) (records others : List Record) :
    values field (records ++ others) = values field records ++ values field others := by
  simp [values]

/-- Records of one field. -/
def recordsOf (field : Nat) (all : List Value) : List Record :=
  all.map fun value => { field, value }

/-- The values of a field are those written under it. -/
@[simp] theorem values_recordsOf_self (field : Nat) (all : List Value) :
    values field (recordsOf field all) = all := by
  simp [values, recordsOf, filter_map, Function.comp_def]

/-- They are none of those written under another one. -/
theorem values_recordsOf_ne {other : Nat} (distinct : other ≠ field) (all : List Value) :
    values field (recordsOf other all) = [] := by
  simp [values, recordsOf, filter_map, Function.comp_def, distinct]

/-- The bytes of a record in a message with field numbers below 2048: two for the key, ten for
a varint or a length, and those of the value. -/
def Value.room : Value → Nat
  | .varint _ => 12
  | .bytes content => 12 + content.length
  | .fixed64 content => 2 + content.length
  | .fixed32 content => 2 + content.length

/-- A record with a small field number fits its room. -/
theorem encodeRecord_length_le (small : record.field < 2048) :
    (encodeRecord record).length ≤ record.value.room := by
  have wire := wireType_lt record.value
  have key : (encodeKey record).length ≤ 2 :=
    encodeVarint_length_le_of_lt 2 (by omega) (by decide)
  rw [encodeRecord, length_append]
  cases value : record.value with
  | varint number =>
    have length := encodeVarint_length_le varintWidth number
    simp only [encodeValue, Value.room]
    unfold varintWidth at length ⊢
    omega
  | bytes bytes =>
    have length := encodeVarint_length_le varintWidth bytes.length
    simp only [encodeValue, Value.room, length_append]
    unfold varintWidth at length ⊢
    omega
  | fixed64 | fixed32 =>
    simp only [encodeValue, Value.room]
    omega

/-- The room of a list of values. -/
def room (all : List Value) : Nat := (all.map Value.room).sum

/-- No records take no bytes. -/
@[simp] theorem encodeRecords_nil : encodeRecords [] = [] := rfl

/-- Bytes, part by part. -/
@[simp] theorem encodeRecords_append (records others : List Record) :
    encodeRecords (records ++ others) = encodeRecords records ++ encodeRecords others := by
  simp [encodeRecords]

/-- The records of a field with a small number fit the room of their values. -/
theorem encodeRecords_recordsOf_length_le (small : field < 2048) (all : List Value) :
    (encodeRecords (recordsOf field all)).length ≤ room all := by
  induction all with
  | nil => simp [recordsOf, room]
  | cons value all ih =>
    have first : (encodeRecord { field, value }).length ≤ value.room :=
      encodeRecord_length_le small
    have split : encodeRecords (recordsOf field (value :: all)) =
        encodeRecord { field, value } ++ encodeRecords (recordsOf field all) := rfl
    rw [split, length_append]
    simp only [room, map_cons, sum_cons] at ih ⊢
    omega

/-- A written message of moderate size is read back. -/
theorem decode_written (written : Written records)
    (small : (encodeRecords records).length < 2 ^ 64) :
    decodeRecords (encodeRecords records) = some records :=
  decode_encodeRecords (legal_of_written written small)

/-- Every record of a field is written when its values are. -/
theorem written_recordsOf {all : List Value}
    (written : ∀ value ∈ all, ({ field, value } : Record).Written) :
    Written (recordsOf field all) := by
  intro record member
  obtain ⟨value, inside, rfl⟩ := mem_map.mp member
  exact written value inside

/-- A nested message is shorter than the message around it. -/
theorem content_length_le {content : List UInt8}
    (member : { field, value := .bytes content } ∈ records) :
    content.length ≤ (encodeRecords records).length := by
  have within := encodeRecord_length_le_records member
  simp only [encodeRecord, encodeValue, length_append] at within
  omega

end BbtInfra.Lib.ProtoWire
