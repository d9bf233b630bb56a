import Mathlib.Data.List.Basic

/-!
# Results and errors

`result<T>` is `Except Error T`. Byte strings (`std::string`, `std::vector<std::uint8_t>`)
are lists of bytes; texts that the source writes as literals are their UTF-8 bytes.
-/
namespace BbtInfra

/-- The bytes of a `std::string` or of a byte vector. -/
abbrev Bytes := List UInt8

/-- The bytes of a string literal of the source. -/
def text (literal : String) : Bytes := literal.toUTF8.data.toList

/-- Two literals with the same bytes are the same. -/
theorem text_inj {a b : String} : text a = text b ↔ a = b := by
  constructor
  · intro same
    have bytes : a.toUTF8 = b.toUTF8 := by
      apply ByteArray.ext
      apply Array.toList_inj.mp
      exact same
    simpa only [String.toUTF8_eq_toByteArray, String.toByteArray_inj] using bytes
  · rintro rfl
    rfl

/-- `ErrorCode`: the classification callers branch on. -/
inductive ErrorCode
  | invalidArgument | invalidContext | runtimeUnavailable | closed | cancelled | timedOut
  | overloaded | unavailable | transportError | protocolError | notFound | typeMismatch
  | unsupportedRoute | outcomeUnknown | remoteError | internalError
  deriving DecidableEq, Repr

/-- `RequestPhase`: how far an outbound request got. A variable holds any value of the underlying
type of the enumeration, also one without enumerator. -/
structure RequestPhase where
  value : Int32
  deriving DecidableEq, Repr

namespace RequestPhase

/-- The enumerators. -/
def notStarted : RequestPhase := ⟨0⟩
def connecting : RequestPhase := ⟨1⟩
def writing : RequestPhase := ⟨2⟩
def requestCommitted : RequestPhase := ⟨3⟩
def replyTerminal : RequestPhase := ⟨4⟩

end RequestPhase

/-- `ErrorDetails`: ordered key and value pairs. -/
abbrev ErrorDetails := List (Bytes × Bytes)

/-- Most entries of `Error.details`. -/
def kMaxErrorDetails : Nat := 16
/-- Most bytes of one details key. -/
def kMaxKeyBytes : Nat := 64
/-- Most bytes of one details value. -/
def kMaxValueBytes : Nat := 256

/-- `Error`, with the defaults of the source. -/
structure Error where
  code : ErrorCode := .internalError
  domain : Bytes := text "infra"
  domainCode : Bytes := []
  message : Bytes := []
  backendCategory : Bytes := []
  backendCode : Int := 0
  transferredBytes : Nat := 0
  details : ErrorDetails := []
  requestPhase : Option RequestPhase := none
  deriving DecidableEq, Repr

/-- `MakeError`: only the code and the message differ from the defaults. -/
def makeError (code : ErrorCode) (message : Bytes) : Error := { code, message }

/-- The continuation bytes of one UTF-8 sequence: the code point read so far and how many
bytes are still due. Running out of input or a byte outside `10xxxxxx` is malformed. -/
def utf8Continuation : Nat → Nat → Bytes → Option (Nat × Bytes)
  | 0, code, rest => some (code, rest)
  | _ + 1, _, [] => none
  | due + 1, code, byte :: rest =>
    if byte &&& 0xC0 = 0x80 then utf8Continuation due (code <<< 6 ||| (byte &&& 0x3F).toNat) rest
    else none

/-- The bytes left after a sequence are a suffix of the input. -/
theorem utf8Continuation_length {due code value : Nat} {bytes rest : Bytes}
    (read : utf8Continuation due code bytes = some (value, rest)) : rest.length ≤ bytes.length := by
  induction due generalizing code bytes with
  | zero => simp_all [utf8Continuation]
  | succ due ih =>
    cases bytes with
    | nil => simp [utf8Continuation] at read
    | cons byte bytes =>
      simp only [utf8Continuation] at read
      split at read
      · have shorter := ih read
        simp only [List.length_cons]
        omega
      · contradiction

/-- What a first byte at or above 0x80 announces: continuation bytes due, the code bits it
carries, and the least code point that needs this length. -/
def utf8Lead (byte : UInt8) : Option (Nat × Nat × Nat) :=
  if byte &&& 0xE0 = 0xC0 then some (1, (byte &&& 0x1F).toNat, 0x80)
  else if byte &&& 0xF0 = 0xE0 then some (2, (byte &&& 0x0F).toNat, 0x800)
  else if byte &&& 0xF8 = 0xF0 then some (3, (byte &&& 0x07).toNat, 0x10000)
  else none

/-- `IsValidUtf8`: no truncated, overlong or surrogate sequence, nothing above U+10FFFF. -/
def isValidUtf8 : Bytes → Bool
  | [] => true
  | byte :: rest =>
    if byte < 0x80 then isValidUtf8 rest
    else
      match utf8Lead byte with
      | none => false
      | some (due, bits, lowest) =>
        match _read : utf8Continuation due bits rest with
        | none => false
        | some (code, tail) =>
          if code < lowest ∨ code > 0x10FFFF then false
          else if code ≥ 0xD800 ∧ code ≤ 0xDFFF then false
          else isValidUtf8 tail
termination_by bytes => bytes.length
decreasing_by
  · simp
  · have shorter := utf8Continuation_length _read
    simp only [List.length_cons]
    omega

/-- Seven-bit text is well formed. -/
theorem isValidUtf8_ascii {bytes : Bytes} (ascii : ∀ byte ∈ bytes, byte < 0x80) :
    isValidUtf8 bytes = true := by
  induction bytes with
  | nil => simp [isValidUtf8]
  | cons byte rest ih =>
    rw [isValidUtf8]
    simp [ascii byte (by simp), ih fun other member => ascii other (by simp [member])]

/-- The key of one pair occurs among the pairs before it. -/
def duplicateKey {β : Type} (before : List (Bytes × β)) (key : Bytes) : Bool :=
  before.any fun pair => pair.1 = key

/-- The entry loop of `ValidateErrorDetails`; `before` are the entries already passed. -/
def validateDetailsFrom (before : ErrorDetails) : ErrorDetails → Except Error Unit
  | [] => .ok ()
  | (key, value) :: rest =>
    if key.length > kMaxKeyBytes then
      .error (makeError .protocolError (text "error.details key exceeds max bytes"))
    else if value.length > kMaxValueBytes then
      .error (makeError .protocolError (text "error.details value exceeds max bytes"))
    else if !isValidUtf8 key || !isValidUtf8 value then
      .error (makeError .protocolError (text "error.details not valid UTF-8"))
    else if duplicateKey before key then
      .error (makeError .protocolError (text "error.details duplicate key"))
    else validateDetailsFrom (before ++ [(key, value)]) rest

/-- `ValidateErrorDetails`: the structure rules of `Error.details`. -/
def validateErrorDetails (error : Error) : Except Error Unit :=
  if error.details.length > kMaxErrorDetails then
    .error (makeError .protocolError (text "error.details exceeds max item count"))
  else validateDetailsFrom [] error.details

/-- Accepted details hold only well-formed text. -/
theorem validateDetailsFrom_utf8 {before details : ErrorDetails}
    (valid : validateDetailsFrom before details = .ok ()) :
    ∀ pair ∈ details, isValidUtf8 pair.1 = true ∧ isValidUtf8 pair.2 = true := by
  induction details generalizing before with
  | nil => simp
  | cons pair rest ih =>
    obtain ⟨key, value⟩ := pair
    simp only [validateDetailsFrom] at valid
    split_ifs at valid with large long malformed duplicate
    intro other member
    rcases List.mem_cons.mp member with rfl | later
    · simpa using malformed
    · exact ih valid other later

end BbtInfra
