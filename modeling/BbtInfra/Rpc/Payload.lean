import BbtInfra.Lib.Cursor
import BbtInfra.Lib.LittleEndian
import BbtInfra.Result

/-!
# Positional payloads

The codec of positional arguments: a count, then for every argument its wire type, its length and its
bytes, all numbers little-endian. The encoder and the two decoders are translated as they are; the
arguments of a call are a list of types and one value of each. `decodeTuple` is the reader of the
writings of `encodeTuple`, and `decodeAt` picks one of the arguments it reads.
-/
namespace BbtInfra.Rpc.Payload

open Lib Lib.LittleEndian Cursor List

/-- `WireType`. -/
inductive WireType
  | bool | int | uint | float | string | bytes
  deriving DecidableEq, Repr

/-- The wire tag. -/
def WireType.tag : WireType → UInt8
  | .bool => 1
  | .int => 2
  | .uint => 3
  | .float => 4
  | .string => 5
  | .bytes => 6

/-- The sizes that `scalar_size_supported_v` admits. -/
inductive IntSize
  | one | two | four | eight
  deriving DecidableEq, Repr

/-- `sizeof`. -/
def IntSize.bytes : IntSize → Nat
  | .one => 1
  | .two => 2
  | .four => 4
  | .eight => 8

/-- The sizes that `float_size_supported_v` admits. -/
inductive FloatSize
  | four | eight
  deriving DecidableEq, Repr

/-- `sizeof`. -/
def FloatSize.bytes : FloatSize → Nat
  | .four => 4
  | .eight => 8

/-- The types that `scalar_supported_v` admits. -/
inductive FieldType
  | bool
  | int (size : IntSize)
  | uint (size : IntSize)
  | float (size : FloatSize)
  | string
  | bytes
  deriving DecidableEq, Repr

namespace FieldType

/-- The values of a type. A number is its bits, a float too. -/
abbrev Value : FieldType → Type
  | .bool => Bool
  | .int size | .uint size => BitVec (8 * size.bytes)
  | .float size => BitVec (8 * size.bytes)
  | .string | .bytes => Bytes

/-- `wire_type_v`. -/
def wireType : FieldType → WireType
  | .bool => .bool
  | .int _ => .int
  | .uint _ => .uint
  | .float _ => .float
  | .string => .string
  | .bytes => .bytes

end FieldType

/-- `kMaxFieldBytes`. -/
def kMaxFieldBytes : Nat := 0xFFFFFFFF

/-- `FitsU32`. -/
def fitsU32 (n : Nat) : Bool := n ≤ kMaxFieldBytes

/-- `PutU32`: the bytes that it appends. -/
def putU32 (v : BitVec 32) : Bytes := scatter 4 v

/-- `TakeU32`. -/
def takeU32 (input : Bytes) (pos : Nat) : Option (BitVec 32 × Nat) :=
  if pos > input.length ∨ input.length - pos < 4 then none
  else some (gather 32 ((input.drop pos).take 4), pos + 4)

/-- `Bad`. -/
def bad (what : String) : Error := makeError .protocolError (text ("rpc payload: " ++ what))

/-- `LengthOverflow`. -/
def lengthOverflow : Error :=
  makeError .invalidArgument (text "rpc payload: field length exceeds 32-bit field")

/-- `EncodeOne`. It does not fail. -/
def encodeOne : (type : FieldType) → type.Value → Bytes
  | .bool, value => [if value then 1 else 0]
  | .int size, value => scatter size.bytes (BitVec.ofInt 64 value.toInt)
  | .uint size, value => scatter size.bytes (BitVec.ofNat 64 value.toNat)
  | .float size, value => scatter size.bytes value
  | .string, value => value
  | .bytes, value => value

/-- The sign bit of fewer than eight bytes is copied into the bits above. -/
def extendSign (len : Nat) (u : BitVec 64) : BitVec 64 :=
  if len < 8 ∧ u &&& (1#64 <<< (len * 8 - 1)) ≠ 0 then u ||| (~~~(0#64) <<< (len * 8)) else u

/-- `DecodeOne` behind the look at the type. -/
def decodeBytes : (type : FieldType) → Bytes → Except Error type.Value
  | .bool, data =>
    if data.length ≠ 1 ∨ data.headD 0 > 1 then .error (bad "invalid bool")
    else .ok (data.headD 0 ≠ 0 : Bool)
  | .int size, data =>
    if data.length ≠ size.bytes then .error (bad "invalid integer length")
    else .ok (BitVec.ofInt (8 * size.bytes) (extendSign data.length (gather 64 data)).toInt)
  | .uint size, data =>
    if data.length ≠ size.bytes then .error (bad "invalid integer length")
    else .ok (BitVec.ofNat (8 * size.bytes) (gather 64 data).toNat)
  | .float size, data =>
    if data.length ≠ size.bytes then .error (bad "invalid float length")
    else .ok (gather (8 * size.bytes) data)
  | .string, data => .ok data
  | .bytes, data => .ok data

/-- `DecodeOne`. -/
def decodeOne (type : FieldType) (tag : UInt8) (data : Bytes) : Except Error type.Value :=
  if tag ≠ type.wireType.tag then
    .error (makeError .typeMismatch (text "rpc payload argument type mismatch"))
  else decodeBytes type data

/-- The next argument of a payload: its tag, its bytes and the position behind them. Both decoders
start a round of their loop with it. -/
def takeArgument : Cursor UInt8 Error (UInt8 × Bytes) := fun input pos =>
  match input[pos]? with
  | none => .error (bad "missing argument")
  | some tag =>
    match takeU32 input (pos + 1) with
    | none => .error (bad "truncated argument")
    | some (len, pos) =>
      if len.toNat > input.length - pos then .error (bad "truncated argument")
      else .ok ((tag, (input.drop pos).take len.toNat), pos + len.toNat)

/-- The rounds of `DecodeAt` from an index on. -/
def decodeAtFrom (type : FieldType) (input : Bytes) (wanted : Nat) :
    (rounds index pos : Nat) → Option type.Value → Except Error (Option type.Value × Nat)
  | 0, _, pos, value => .ok (value, pos)
  | rounds + 1, index, pos, value => do
    let ((tag, data), next) ← takeArgument input pos
    let value ← if index = wanted then (decodeOne type tag data).map some else .ok value
    decodeAtFrom type input wanted rounds (index + 1) next value

/-- `DecodeAt`. -/
def decodeAt (type : FieldType) (input : Bytes) (wanted : Nat) : Except Error type.Value :=
  match takeU32 input 0 with
  | none => .error (bad "header truncated")
  | some (count, pos) =>
    if wanted ≥ count.toNat then
      .error (makeError .invalidArgument (text "rpc payload argument index out of range"))
    else do
      let (value, pos) ← decodeAtFrom type input wanted count.toNat 0 pos none
      if pos ≠ input.length then .error (bad "trailing garbage")
      else
        match value with
        | none => .error (bad "missing argument")
        | some value => .ok value

/-- `std::tuple`: a value of each type. -/
def Tuple : List FieldType → Type
  | [] => Unit
  | type :: types => type.Value × Tuple types

/-- `std::get`. -/
def Tuple.get : {types : List FieldType} → Tuple types → (i : Fin types.length) →
    (types.get i).Value
  | _ :: _, (value, _), ⟨0, _⟩ => value
  | _ :: _, (_, values), ⟨i + 1, inside⟩ => Tuple.get values ⟨i, Nat.lt_of_succ_lt_succ inside⟩

/-- The fields of `DecodeTuple`. -/
def decodeFields : (types : List FieldType) → Cursor UInt8 Error (Tuple types)
  | [], _, pos => .ok ((), pos)
  | type :: types, input, pos => do
    let ((tag, data), pos) ← takeArgument input pos
    let value ← decodeOne type tag data
    let (values, pos) ← decodeFields types input pos
    .ok ((value, values), pos)

/-- `DecodeTuple`. -/
def decodeTuple (types : List FieldType) (input : Bytes) : Except Error (Tuple types) :=
  match takeU32 input 0 with
  | none => .error (bad "header truncated")
  | some (count, pos) =>
    if count.toNat ≠ types.length then
      .error (makeError .invalidArgument (text "rpc payload argument count mismatch"))
    else do
      let (values, pos) ← decodeFields types input pos
      if pos ≠ input.length then .error (bad "trailing garbage") else .ok values

/-- The fields of `EncodeTuple`, behind what is written already. -/
def encodeFields : (types : List FieldType) → Tuple types → Bytes → Except Error Bytes
  | [], _, out => .ok out
  | type :: types, (value, values), out =>
    let encoded := encodeOne type value
    if fitsU32 encoded.length = false then .error lengthOverflow
    else
      encodeFields types values
        (out ++ type.wireType.tag :: putU32 (BitVec.ofNat 32 encoded.length) ++ encoded)

/-- `EncodeTuple`. -/
def encodeTuple (types : List FieldType) (values : Tuple types) : Except Error Bytes :=
  encodeFields types values (putU32 (BitVec.ofNat 32 types.length))

/-! ### One argument -/

variable {input data bytes : Bytes} {pos next : Nat}

/-- A 32 bit number is read where it is written. -/
theorem takeU32_iff {v : BitVec 32} :
    takeU32 input pos = some (v, next) ↔ putU32 v <+: input.drop pos ∧ next = pos + 4 := by
  unfold takeU32
  split
  · next short =>
    refine ⟨fun read => (nomatch read), ?_⟩
    rintro ⟨starts, -⟩
    have room := starts.length_le
    simp only [putU32, scatter_length, length_drop] at room
    omega
  · next whole =>
    have digits : ((input.drop pos).take 4).length = 4 := by
      rw [length_take, length_drop]
      omega
    constructor
    · rintro ⟨⟩
      have written := scatter_gather (w := 32) ((input.drop pos).take 4) (by rw [digits])
      rw [digits] at written
      refine ⟨?_, rfl⟩
      rw [putU32, written]
      exact take_prefix 4 _
    · rintro ⟨starts, rfl⟩
      have taken : (input.drop pos).take 4 = putU32 v := by
        have same := prefix_iff_eq_take.mp starts
        exact same.symm
      rw [taken, putU32, gather_scatter v rfl]

/-- The low bits of a number are the same in every width. -/
theorem ofInt_toInt_bit {w v : Nat} (x : BitVec w) {i : Nat} (low : i < w) (inside : i < v) :
    (BitVec.ofInt v x.toInt).getLsbD i = x.getLsbD i := by
  have bit := BitVec.getLsbD_signExtend x (v := v) (i := i)
  simpa [BitVec.signExtend, low, inside] using bit

/-- Copying the sign bit leaves the bits below. -/
theorem extendSign_bit_low (len : Nat) (u : BitVec 64) {i : Nat} (low : i < 8 * len) :
    (extendSign len u).getLsbD i = u.getLsbD i := by
  unfold extendSign
  split
  · have below : i < len * 8 := by omega
    simp [below]
  · rfl

/-- The bytes of a signed number with its sign bit copied are the number. -/
theorem extendSign_gather_scatter {size : Nat} (positive : 0 < size) (room : size ≤ 8)
    (value : BitVec (8 * size)) :
    extendSign size (gather 64 (scatter size (BitVec.ofInt 64 value.toInt))) =
      BitVec.ofInt 64 value.toInt := by
  have gathered : ∀ i, (gather 64 (scatter size (BitVec.ofInt 64 value.toInt))).getLsbD i =
      (decide (i < 8 * size) && value.getLsbD i) := by
    intro i
    rw [gather_scatter_bit _ (by omega)]
    by_cases low : i < 8 * size
    · rw [ofInt_toInt_bit value low (by omega)]
    · simp [low]
  have number : ∀ i, (BitVec.ofInt 64 value.toInt).getLsbD i =
      (decide (i < 64) && if i < 8 * size then value.getLsbD i else value.msb) :=
    fun i => BitVec.getLsbD_signExtend value
  have top : value.msb = value.getLsbD (size * 8 - 1) := by
    rw [BitVec.msb_eq_getLsbD_last]
    congr 2
    omega
  have sign : (gather 64 (scatter size (BitVec.ofInt 64 value.toInt)) &&&
      (1#64 <<< (size * 8 - 1)) ≠ 0) ↔ value.msb = true := by
    have inside : size * 8 - 1 < 8 * size := by omega
    have power : 1#64 <<< (size * 8 - 1) = BitVec.twoPow 64 (size * 8 - 1) := rfl
    rw [power, BitVec.and_twoPow, gathered, top]
    cases value.getLsbD (size * 8 - 1) with
    | false => simp
    | true =>
      have present : BitVec.twoPow 64 (size * 8 - 1) ≠ 0#64 := by
        intro zero
        have bit := congrArg (fun word : BitVec 64 => word.getLsbD (size * 8 - 1)) zero
        simp at bit
        omega
      simp [inside, present]
  refine BitVec.eq_of_getLsbD_eq fun i inside => ?_
  rw [number]
  unfold extendSign
  split
  · next copied =>
    have set := sign.mp copied.2
    by_cases low : i < 8 * size
    · have below : i < size * 8 := by omega
      simp only [BitVec.getLsbD_or, gathered, BitVec.getLsbD_shiftLeft, low, below, inside]
      simp
    · have above : ¬i < size * 8 := by omega
      have within : i - size * 8 < 64 := by omega
      simp only [BitVec.getLsbD_or, gathered, BitVec.getLsbD_shiftLeft, BitVec.getLsbD_not, low, above,
        inside, within, set]
      simp
  · next kept =>
    rw [gathered]
    by_cases low : i < 8 * size
    · simp [low, inside]
    · have short : size < 8 := by omega
      have clear : value.msb = false := by
        rw [← Bool.not_eq_true, ← sign]
        exact fun set => kept ⟨short, set⟩
      simp [low, inside, clear]

/-- A size fits eight bytes. -/
theorem IntSize.bytes_le (size : IntSize) : 0 < size.bytes ∧ size.bytes ≤ 8 := by
  cases size <;> decide

/-- A value is read from its own bytes and from no others. -/
theorem decodeBytes_iff (type : FieldType) {value : type.Value} :
    decodeBytes type data = .ok value ↔ data = encodeOne type value := by
  cases type with
  | bool =>
    constructor
    · intro decoded
      simp only [decodeBytes] at decoded
      split at decoded
      · cases decoded
      · next small =>
        obtain rfl := Except.ok.inj decoded
        rw [not_or, Decidable.not_not] at small
        obtain ⟨byte, rfl⟩ := length_eq_one_iff.mp small.1
        have bounded : byte.toNat ≤ 1 := by simpa [UInt8.lt_iff_toNat_lt] using small.2
        obtain zero | one : byte.toNat = 0 ∨ byte.toNat = 1 := by omega
        · obtain rfl : byte = 0 := UInt8.toNat_inj.mp zero
          rfl
        · obtain rfl : byte = 1 := UInt8.toNat_inj.mp one
          rfl
    · rintro rfl
      cases value <;> rfl
  | int size =>
    obtain ⟨positive, room⟩ := size.bytes_le
    constructor
    · intro decoded
      simp only [decodeBytes] at decoded
      split at decoded
      · cases decoded
      · next exact' =>
        obtain rfl := Except.ok.inj decoded
        rw [Decidable.not_not] at exact'
        have written := scatter_gather (w := 64) data (by omega)
        rw [exact'] at written
        refine written.symm.trans (scatter_congr fun i low => ?_)
        have inside : i < 64 := by omega
        rw [ofInt_toInt_bit _ low inside, ofInt_toInt_bit _ inside low, extendSign_bit_low _ _ (by omega)]
    · rintro rfl
      have number := extendSign_gather_scatter positive room value
      have wide : (BitVec.ofInt 64 value.toInt).toInt = value.toInt :=
        BitVec.toInt_signExtend_of_le (by omega)
      simp only [decodeBytes, encodeOne, scatter_length, number, wide, BitVec.ofInt_toInt]
      simp
  | uint size =>
    obtain ⟨-, room⟩ := size.bytes_le
    constructor
    · intro decoded
      simp only [decodeBytes] at decoded
      split at decoded
      · cases decoded
      · next exact' =>
        obtain rfl := Except.ok.inj decoded
        rw [Decidable.not_not] at exact'
        have written := scatter_gather (w := 64) data (by omega)
        rw [exact'] at written
        refine written.symm.trans (scatter_congr fun i low => ?_)
        have inside : i < 64 := by omega
        rw [BitVec.ofNat_toNat, BitVec.getLsbD_setWidth, BitVec.ofNat_toNat, BitVec.getLsbD_setWidth]
        simp [low, inside]
    · rintro rfl
      simp only [decodeBytes, encodeOne, scatter_length]
      rw [if_neg (by simp)]
      congr 1
      refine BitVec.eq_of_getLsbD_eq fun i low => ?_
      rw [BitVec.ofNat_toNat, BitVec.getLsbD_setWidth, gather_scatter_bit _ (by omega),
        BitVec.ofNat_toNat, BitVec.getLsbD_setWidth]
      simp [low]
      omega
  | float size =>
    constructor
    · intro decoded
      simp only [decodeBytes] at decoded
      split at decoded
      · cases decoded
      · next exact' =>
        obtain rfl := Except.ok.inj decoded
        rw [Decidable.not_not] at exact'
        have written := scatter_gather (w := 8 * size.bytes) data (by omega)
        rw [exact'] at written
        exact written.symm
    · rintro rfl
      simp only [decodeBytes, encodeOne, scatter_length, gather_scatter value rfl]
      simp
  | string | bytes => exact ⟨fun decoded => Except.ok.inj decoded, fun same => congrArg _ same⟩

/-- A value is read behind its own tag, from its own bytes. -/
theorem decodeOne_iff {type : FieldType} {tag : UInt8} {value : type.Value} :
    decodeOne type tag data = .ok value ↔
      tag = type.wireType.tag ∧ data = encodeOne type value := by
  unfold decodeOne
  split
  · next other => simp [other]
  · next same =>
    rw [Decidable.not_not] at same
    simp [same, decodeBytes_iff]

/-- An argument as it is written: its tag, its length and its bytes. -/
def writeArgument (argument : UInt8 × Bytes) : Bytes :=
  argument.1 :: putU32 (BitVec.ofNat 32 argument.2.length) ++ argument.2

/-- An argument that a length field can announce. -/
def Announced (argument : UInt8 × Bytes) : Prop := fitsU32 argument.2.length = true

/-- A length that fits is read back. -/
theorem ofNat_toNat_of_fits {n : Nat} (fits : fitsU32 n = true) : (BitVec.ofNat 32 n).toNat = n := by
  have bound : n ≤ kMaxFieldBytes := by simpa [fitsU32] using fits
  rw [BitVec.toNat_ofNat, Nat.mod_eq_of_lt]
  simp only [kMaxFieldBytes] at bound
  omega

/-- The rounds read arguments. -/
theorem takeArgument_reads : takeArgument.Reads Announced writeArgument := by
  rintro input pos ⟨tag, data⟩ next inside
  unfold takeArgument
  constructor
  · intro read
    split at read
    · cases read
    · next found present =>
      obtain ⟨within, found⟩ := List.getElem?_eq_some_iff.mp present
      split at read
      · cases read
      · next len behind announced =>
        obtain ⟨starts, rfl⟩ := takeU32_iff.mp announced
        split at read
        · cases read
        · next room =>
          obtain ⟨⟨rfl, rfl⟩, rfl⟩ := by simpa using read
          have whole : ((input.drop (pos + 1 + 4)).take len.toNat).length = len.toNat := by
            rw [List.length_take, List.length_drop]
            omega
          refine ⟨?_, ?_, ?_⟩
          · simp only [Announced, fitsU32, kMaxFieldBytes, whole]
            simp
            omega
          · rw [List.drop_eq_getElem_cons within, found, writeArgument, whole]
            simp only [BitVec.ofNat_toNat, BitVec.setWidth_eq, List.cons_append]
            refine (List.prefix_cons_inj _).mpr ?_
            rw [drop_next starts]
            refine (List.prefix_append_right_inj _).mpr ?_
            exact List.take_prefix _ _
          · simp [writeArgument, putU32, whole]
            omega
  · rintro ⟨announced, starts, rfl⟩
    have split := drop_next starts
    have within : pos < input.length := by
      have room := starts.length_le
      simp only [writeArgument, List.cons_append, List.length_cons, List.length_drop] at room
      omega
    rw [List.drop_eq_getElem_cons within] at starts split
    simp only [writeArgument, List.cons_append, List.append_assoc] at starts split
    obtain ⟨tagged, behind⟩ := List.cons.inj split
    have length := ofNat_toNat_of_fits announced
    have number : takeU32 input (pos + 1) = some (BitVec.ofNat 32 data.length, pos + 1 + 4) :=
      takeU32_iff.mpr ⟨by rw [behind]; exact List.prefix_append _ _, rfl⟩
    have rest : input.drop (pos + 1 + 4) = data ++ input.drop (pos + 1 + 4 + data.length) := by
      refine drop_next ?_
      rw [← List.drop_drop, behind, List.drop_left' (by simp [putU32])]
      exact List.prefix_append _ _
    simp only [List.getElem?_eq_getElem within, tagged, number, length]
    have room := congrArg List.length rest
    simp only [List.length_drop, List.length_append] at room
    rw [if_neg (by omega), rest, List.take_left' rfl]
    simp [writeArgument, putU32]
    omega

/-! ### All arguments -/

variable {types : List FieldType}

/-- The arguments of a tuple. -/
def arguments : (types : List FieldType) → Tuple types → List (UInt8 × Bytes)
  | [], _ => []
  | type :: types, (value, values) =>
    (type.wireType.tag, encodeOne type value) :: arguments types values

/-- A tuple whose fields fit 32 bit lengths. -/
def Fits (values : Tuple types) : Prop := ∀ argument ∈ arguments types values, Announced argument

/-- The arguments of a tuple as they are written. -/
def writeFields (values : Tuple types) : Bytes := (arguments types values).flatMap writeArgument

/-- The encoder writes the arguments of a tuple whose fields fit, and refuses every other one. -/
theorem encodeFields_iff {values : Tuple types} {out : Bytes} :
    encodeFields types values out = .ok bytes ↔ Fits values ∧ bytes = out ++ writeFields values := by
  induction types generalizing out with
  | nil => simp [encodeFields, Fits, arguments, writeFields, eq_comm]
  | cons type types ih =>
    obtain ⟨value, values⟩ := values
    have written : @writeFields (type :: types) (value, values) =
        writeArgument (type.wireType.tag, encodeOne type value) ++ writeFields values := rfl
    have fits : @Fits (type :: types) (value, values) ↔
        fitsU32 (encodeOne type value).length = true ∧ Fits values := by
      simp [Fits, arguments, Announced]
    rw [written, fits, encodeFields]
    split
    · next long => simp [long]
    · next short =>
      rw [ih]
      simp [short, writeArgument]

/-- The fields read the arguments of a tuple. -/
theorem decodeFields_reads (types : List FieldType) :
    (decodeFields types).Reads (fun values => Fits values) (fun values => writeFields values) := by
  induction types with
  | nil =>
    have nothing := reads_nothing (β := UInt8) (ε := Error) () fun _ => rfl
    intro input pos values next inside
    refine Iff.trans (nothing input pos values next inside) ?_
    simp [Fits, arguments, writeFields]
  | cons type types ih =>
    have argument : (takeArgument.check fun argument => decodeOne type argument.1 argument.2).Reads
        (fun value => Announced (type.wireType.tag, encodeOne type value))
        (fun value => writeArgument (type.wireType.tag, encodeOne type value)) :=
      takeArgument_reads.check (fun argument value _ => by rw [decodeOne_iff, Prod.ext_iff])
        fun _ => Iff.rfl
    have sequence := argument.andThen fun value _ => ih
    rintro input pos ⟨value, values⟩ next inside
    have unfolded : decodeFields (type :: types) input pos =
        ((takeArgument.check fun argument => decodeOne type argument.1 argument.2).andThen
          fun _ => decodeFields types) input pos := by
      simp only [decodeFields, andThen, check, bind, Except.bind]
      cases takeArgument input pos with
      | error error => rfl
      | ok found =>
        obtain ⟨⟨tag, data⟩, middle⟩ := found
        simp only
        cases decodeOne type tag data <;> rfl
    rw [unfolded]
    refine Iff.trans (sequence input pos (value, values) next inside) ?_
    simp [Fits, arguments, writeFields]

/-- A payload of a tuple: the count and the arguments. -/
def writeTuple (values : Tuple types) : Bytes :=
  putU32 (BitVec.ofNat 32 types.length) ++ writeFields values

/-- The encoder writes the payload of a tuple whose fields fit. -/
theorem encodeTuple_iff {values : Tuple types} :
    encodeTuple types values = .ok bytes ↔ Fits values ∧ bytes = writeTuple values :=
  encodeFields_iff

/-- A payload begins with the count of its fields. -/
theorem writeTuple_head (values : Tuple types) (few : types.length ≤ kMaxFieldBytes) :
    (BitVec.ofNat 32 types.length).toNat = types.length ∧
      takeU32 (writeTuple values) 0 = some (BitVec.ofNat 32 types.length, 0 + 4) ∧
      (writeTuple values).drop (0 + 4) = writeFields values ∧ 0 + 4 ≤ (writeTuple values).length :=
  ⟨ofNat_toNat_of_fits (by simpa [fitsU32] using few),
    takeU32_iff.mpr ⟨prefix_append _ _, rfl⟩, drop_left' (by simp [putU32]),
    by simp [writeTuple, putU32]⟩

/-- The decoder accepts the payloads of tuples whose fields fit, and nothing else. -/
theorem decodeTuple_iff {values : Tuple types} :
    decodeTuple types input = .ok values ↔
      types.length ≤ kMaxFieldBytes ∧ Fits values ∧ input = writeTuple values := by
  have counted : ∀ count : BitVec 32, count.toNat ≤ kMaxFieldBytes := by
    intro count
    simp only [kMaxFieldBytes]
    omega
  unfold decodeTuple
  constructor
  · intro decoded
    split at decoded
    · cases decoded
    · next count pos announced =>
      obtain ⟨starts, rfl⟩ := takeU32_iff.mp announced
      split at decoded
      · cases decoded
      · next same =>
        rw [Decidable.not_not] at same
        have room := starts.length_le
        simp only [putU32, scatter_length, drop_zero] at room
        have read : (decodeFields types).toEnd (bad "trailing garbage") input (0 + 4) = .ok values :=
          decoded
        obtain ⟨fits, written⟩ := ((decodeFields_reads types).toEnd _ (by omega)).mp read
        refine ⟨same ▸ counted count, fits, ?_⟩
        have whole := drop_next starts
        rw [writeTuple, written, ← same, BitVec.ofNat_toNat, BitVec.setWidth_eq]
        exact whole
  · rintro ⟨few, fits, rfl⟩
    obtain ⟨length, number, behind, inside⟩ := writeTuple_head values few
    have read := ((decodeFields_reads types).toEnd (bad "trailing garbage") inside).mpr
      ⟨fits, behind.symm⟩
    rw [number]
    simp only [length, ne_eq, not_true_eq_false, if_false]
    exact read

/-- An argument of a tuple. -/
theorem arguments_get (values : Tuple types) (i : Fin types.length) :
    (arguments types values)[i.val]? =
      some ((types.get i).wireType.tag, encodeOne (types.get i) (values.get i)) := by
  induction types with
  | nil => exact i.elim0
  | cons type types ih =>
    obtain ⟨value, values⟩ := values
    obtain ⟨_ | place, inside⟩ := i
    · rfl
    · exact ih values ⟨place, Nat.lt_of_succ_lt_succ inside⟩

/-- As many arguments as types. -/
theorem arguments_length (values : Tuple types) : (arguments types values).length = types.length := by
  induction types with
  | nil => rfl
  | cons type types ih =>
    obtain ⟨value, values⟩ := values
    simp [arguments, ih]

/-- Rounds over written arguments decode the wanted one, or keep what was decoded before. -/
theorem decodeAtFrom_arguments (type : FieldType) (wanted : Nat) {args : List (UInt8 × Bytes)}
    (announced : ∀ argument ∈ args, Announced argument) (index : Nat) (kept : Option type.Value)
    (inside : pos ≤ input.length) (written : args.flatMap writeArgument = input.drop pos) :
    decodeAtFrom type input wanted args.length index pos kept =
      if index ≤ wanted then
        match args[wanted - index]? with
        | some argument =>
          (decodeOne type argument.1 argument.2).map fun value => (some value, input.length)
        | none => .ok (kept, input.length)
      else .ok (kept, input.length) := by
  induction args generalizing index pos kept with
  | nil =>
    have ended : pos = input.length := by
      have length := congrArg List.length written
      simp only [flatMap_nil, length_nil, length_drop] at length
      omega
    simp [decodeAtFrom, ended]
  | cons argument args ih =>
    have starts : writeArgument argument <+: input.drop pos := by
      rw [← written]
      exact prefix_append _ _
    have read := (takeArgument_reads input pos argument _ inside).mpr
      ⟨announced argument (by simp), starts, rfl⟩
    have within := takeArgument_reads.next_le inside read
    have rest : args.flatMap writeArgument = input.drop (pos + (writeArgument argument).length) := by
      have split := drop_next starts
      rw [← written, flatMap_cons] at split
      exact append_cancel_left split
    have others : ∀ other ∈ args, Announced other := fun other member => announced other (by simp [member])
    have later := fun index kept => ih others index kept within rest
    simp only [length_cons, decodeAtFrom, read, bind, Except.bind]
    obtain before | own | after := Nat.lt_trichotomy index wanted
    · have other : index ≠ wanted := by omega
      have low : index ≤ wanted := by omega
      have also : index + 1 ≤ wanted := before
      have shift : wanted - index = wanted - (index + 1) + 1 := by omega
      simp [other, low, also, later, shift]
    · subst own
      have past : ¬index + 1 ≤ index := Nat.not_succ_le_self index
      simp only [later, if_neg past, if_pos (Nat.le_refl index), Nat.sub_self,
        getElem?_cons_zero, if_true]
      cases decodeOne type argument.1 argument.2 <;> rfl
    · have other : index ≠ wanted := by omega
      have high : ¬index ≤ wanted := by omega
      have also : ¬index + 1 ≤ wanted := by omega
      simp [other, high, also, later]

/-- One argument of a payload. -/
theorem decodeAt_writeTuple {values : Tuple types} (few : types.length ≤ kMaxFieldBytes)
    (fits : Fits values) (i : Fin types.length) :
    decodeAt (types.get i) (writeTuple values) i = .ok (values.get i) := by
  obtain ⟨length, number, behind, inside⟩ := writeTuple_head values few
  have rounds := decodeAtFrom_arguments (types.get i) i fits 0 none inside behind.symm
  have decoded : decodeOne (types.get i) (types.get i).wireType.tag
      (encodeOne (types.get i) (values.get i)) = .ok (values.get i) := decodeOne_iff.mpr ⟨rfl, rfl⟩
  rw [arguments_length, if_pos (Nat.zero_le _), Nat.sub_zero, arguments_get] at rounds
  simp only [decoded, Except.map] at rounds
  have known : ¬i.val ≥ types.length := Nat.not_le.mpr i.isLt
  simp only [decodeAt, number, length, known, if_false, rounds, bind, Except.bind]
  simp

/-- A tuple whose fields fit is encoded, and both decoders read it back; what the tuple decoder accepts
is what the encoder writes of the value, with nothing missing and nothing behind, and the other
decoder finds the same fields in it. -/
theorem positional_payload_exact (types : List FieldType) :
    (∀ values : Tuple types, types.length ≤ kMaxFieldBytes → Fits values →
      ∃ bytes, encodeTuple types values = .ok bytes ∧ decodeTuple types bytes = .ok values ∧
        ∀ i : Fin types.length, decodeAt (types.get i) bytes i = .ok (values.get i)) ∧
    ∀ bytes (values : Tuple types), decodeTuple types bytes = .ok values →
      encodeTuple types values = .ok bytes ∧
      (∀ before (other : Tuple types), before <+: bytes → before ≠ bytes →
        decodeTuple types before ≠ .ok other) ∧
      (∀ longer (other : Tuple types), bytes <+: longer → longer ≠ bytes →
        decodeTuple types longer ≠ .ok other) ∧
      ∀ i : Fin types.length, decodeAt (types.get i) bytes i = .ok (values.get i) := by
  -- One payload in front of another: both are the count and the arguments of a tuple.
  have apart : ∀ (short long : Bytes) (first second : Tuple types),
      decodeTuple types short = .ok first → decodeTuple types long = .ok second → short <+: long →
      short = long := by
    rintro short long first second one two ⟨rest, joined⟩
    obtain ⟨-, fits, rfl⟩ := decodeTuple_iff.mp one
    obtain ⟨-, also, rfl⟩ := decodeTuple_iff.mp two
    rw [writeTuple, writeTuple, append_assoc] at joined
    have fields : writeFields first ++ rest = writeFields second ++ [] := by
      rw [append_nil]
      exact append_cancel_left joined
    obtain ⟨rfl, -⟩ := (decodeFields_reads types).splits fits also fields
    rfl
  refine ⟨?_, ?_⟩
  · intro values few fits
    refine ⟨writeTuple values, encodeTuple_iff.mpr ⟨fits, rfl⟩, ?_, decodeAt_writeTuple few fits⟩
    exact decodeTuple_iff.mpr ⟨few, fits, rfl⟩
  · intro bytes values decoded
    obtain ⟨few, fits, rfl⟩ := decodeTuple_iff.mp decoded
    refine ⟨encodeTuple_iff.mpr ⟨fits, rfl⟩, ?_, ?_, decodeAt_writeTuple few fits⟩
    · intro before other begins differs accepted
      exact differs (apart before _ other values accepted decoded begins)
    · intro longer other begins differs accepted
      exact differs (apart _ longer values other decoded accepted begins).symm

/-- The types of a flag, a short number and a string. -/
def mixedTypes : List FieldType := [.bool, .int .two, .string]

/-- A flag, minus two and a string. -/
def mixedValues : Tuple mixedTypes := (true, BitVec.ofInt 16 (-2), text "hi", ())

/-- Their payload. -/
def mixedBytes : Bytes :=
  [3, 0, 0, 0, 1, 1, 0, 0, 0, 1, 2, 2, 0, 0, 0, 0xFE, 0xFF, 5, 2, 0, 0, 0, 0x68, 0x69]

/-- The payload of the three is theirs alone, and its number is found in it. -/
theorem positional_payload_exact_mixed :
    (∃ bytes, encodeTuple mixedTypes mixedValues = .ok bytes ∧
      decodeTuple mixedTypes bytes = .ok mixedValues) ∧
    encodeTuple mixedTypes mixedValues = .ok mixedBytes ∧
    decodeAt (.int .two) mixedBytes 1 = .ok (BitVec.ofInt 16 (-2)) := by
  have fits : Fits mixedValues := by
    show ∀ argument ∈ arguments mixedTypes mixedValues, fitsU32 argument.2.length = true
    decide
  have decoded : decodeTuple mixedTypes mixedBytes = .ok mixedValues := rfl
  obtain ⟨bytes, encoded, back, -⟩ :=
    (positional_payload_exact mixedTypes).1 mixedValues (by decide) fits
  obtain ⟨again, -, -, fields⟩ := (positional_payload_exact mixedTypes).2 mixedBytes mixedValues decoded
  exact ⟨⟨bytes, encoded, back⟩, again, fields ⟨1, by decide⟩⟩

end BbtInfra.Rpc.Payload
