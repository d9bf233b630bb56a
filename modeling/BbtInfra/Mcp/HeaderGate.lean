import BbtInfra.Lib.Base64
import BbtInfra.Mcp.Capabilities

/-!
# The routing headers of a request

A modern request over HTTP repeats its version, its method and the name of its target in headers.
`HeaderGate` lets it through when they agree with the body. The name may be in a sentinel form, which
`DecodeHeaderValue` takes apart. It refuses the sentinel form of the empty text, and it does not
look at the bits of the last digit that stand for nothing.
-/
namespace BbtInfra.Mcp

open Lib Base64 List

/-- `MakeMcpHttpError`. -/
def makeMcpHttpError (code : ErrorCode) (domainCode : String) : Error :=
  { code, domainCode := text domainCode }

/-- `kB64SentinelPrefix`. -/
def kB64SentinelPrefix : Bytes := text "=?base64?"
/-- `kB64SentinelSuffix`. -/
def kB64SentinelSuffix : Bytes := text "?="

/-- `pad` of `B64Decode`. -/
def b64Pad (payload : Bytes) : Nat :=
  if payload.getLast? = some pad then
    if payload.dropLast.getLast? = some pad then 2 else 1
  else 0

/-- One round of the loop of `B64Decode`. -/
def b64Quad (c₀ c₁ c₂ c₃ : UInt8) : Bytes :=
  let n := [c₀, c₁, c₂, c₃].foldl
    (fun n c => n <<< 6 ||| (if c = pad then 0 else sextet c)) 0
  [UInt8.ofNat (n >>> 16 &&& 0xFF), UInt8.ofNat (n >>> 8 &&& 0xFF), UInt8.ofNat (n &&& 0xFF)]

/-- The loop of `B64Decode`. The length is a multiple of four. -/
def b64Loop : Bytes → Bytes
  | c₀ :: c₁ :: c₂ :: c₃ :: rest => b64Quad c₀ c₁ c₂ c₃ ++ b64Loop rest
  | _ => []

/-- `B64Decode`. -/
def b64Decode (payload : Bytes) : Except Error Bytes :=
  if payload = [] ∨ payload.length % 4 ≠ 0 then
    .error (makeMcpHttpError .protocolError "mcp.http.b64_length")
  else
    let pad := b64Pad payload
    if (payload.take (payload.length - pad)).all isDigit then
      let out := b64Loop payload
      let out := out.take (out.length - pad)
      if isValidUtf8 out then .ok out
      else .error (makeMcpHttpError .protocolError "mcp.http.b64_utf8")
    else .error (makeMcpHttpError .protocolError "mcp.http.b64_char")

/-- The shape that `DecodeHeaderValue` looks for. -/
def isSentinel (value : Bytes) : Bool :=
  decide (kB64SentinelPrefix.length + kB64SentinelSuffix.length ≤ value.length) &&
    value.take kB64SentinelPrefix.length = kB64SentinelPrefix &&
    value.drop (value.length - kB64SentinelSuffix.length) = kB64SentinelSuffix

/-- `DecodeHeaderValue`. -/
def decodeHeaderValue (value : Bytes) : Option Bytes :=
  if isSentinel value then
    (b64Decode ((value.drop kB64SentinelPrefix.length).take
      (value.length - kB64SentinelPrefix.length - kB64SentinelSuffix.length))).toOption
  else if value.any fun c => c < 0x20 || 0x7E < c then none
  else some value

/-- `std::tolower` in the locale of C. -/
def toLower (c : UInt8) : UInt8 := if 0x41 ≤ c ∧ c ≤ 0x5A then c + 0x20 else c

/-- `EqualsNoCase`. -/
def equalsNoCase (left right : Bytes) : Bool :=
  left.length = right.length && (left.zip right).all fun pair => toLower pair.1 = toLower pair.2

/-- `Headers`. -/
abbrev Headers := List (Bytes × Bytes)

/-- `HeaderValues`. -/
def headerValues (headers : Headers) (name : String) : List Bytes :=
  (headers.filter fun field => equalsNoCase field.1 (text name)).map Prod.snd

/-- `SingleHeader`. -/
def singleHeader (headers : Headers) (name : String) : Option Bytes :=
  match headerValues headers name with
  | [value] => some value
  | _ => none

/-- `Response`, with a body that is to be serialized. -/
structure JsonResponse where
  statusCode : Nat
  headers : Headers
  body : JsonValue

/-- `JsonErrorBody`. -/
def jsonErrorBody (status : Nat) (id : Option RequestId) (code : JsonRpcErrorCode)
    (message : String) : JsonResponse where
  statusCode := status
  headers := [(text "content-type", text "application/json")]
  body := makeErrorResponse id (failure code message)

/-- What `HeaderGate` does with a request. -/
inductive GateVerdict
  | pass
  /-- It passes, and the session adopts the version. -/
  | adopt (version : Bytes)
  | refuse (response : JsonResponse)

/-- The request goes on as it is. -/
def GateVerdict.passes : GateVerdict → Bool
  | .pass => true
  | _ => false

/-- The version in the envelope, or nothing. -/
def envelopeVersion (request : JsonRpcRequest) : Bytes :=
  (((request.params.bind (·.find (text "_meta"))).bind (·.find metaKeyProtocolVersion)).bind
    JsonValue.asString).getD []

/-- `name_method`. -/
def isNameMethod (method : Bytes) : Bool :=
  method = text "tools/call" || method = text "prompts/get" || method = text "resources/read"

/-- `expected`: the target that the body names. -/
def bodyTarget (request : JsonRpcRequest) : Option Bytes :=
  (request.params.bind (·.find
    (if request.method = text "resources/read" then text "uri" else text "name"))).bind
    JsonValue.asString

/-- `HeaderGate`. -/
def headerGate (headers : Headers) (request : JsonRpcRequest) (modern : Bool)
    (detectedId : Option RequestId) : GateVerdict :=
  let mismatch := fun message => GateVerdict.refuse (jsonErrorBody 400 detectedId .headerMismatch message)
  if ["mcp-protocol-version", "mcp-method", "mcp-name"].any fun name =>
      1 < (headerValues headers name).length then
    mismatch "duplicate MCP routing header"
  else
    let versionHeader := singleHeader headers "mcp-protocol-version"
    let methodHeader := singleHeader headers "mcp-method"
    let nameHeader := singleHeader headers "mcp-name"
    if modern then
      if envelopeVersion request = [] ∨ versionHeader ≠ some (envelopeVersion request) then
        mismatch ("mcp-protocol-version header does not match the request " ++
          "envelope's protocol version")
      else if methodHeader ≠ some request.method then
        mismatch "mcp-method header does not match the request body's method"
      else if nameHeader.isSome && !isNameMethod request.method then
        mismatch "mcp-name header present for a non-named method"
      else if isNameMethod request.method then
        match nameHeader with
        | none => mismatch "mcp-name header is required for this method"
        | some header =>
          match decodeHeaderValue header, bodyTarget request with
          | some decoded, some expected =>
            if decoded = expected then .pass
            else mismatch "mcp-name header does not match the request body's parameter"
          | _, _ => mismatch "mcp-name header does not match the request body's parameter"
      else .pass
    else if methodHeader.isSome || nameHeader.isSome then
      mismatch "mcp-method/mcp-name headers are not part of the legacy HTTP profile"
    else
      match versionHeader with
      | none => .pass
      | some version =>
        if version = protocolVersion2025 then .adopt version
        else mismatch "mcp-protocol-version header is not a served legacy revision"

/-! ### The decoder -/

/-- A round shifts in the values of its four digits. -/
theorem b64Quad_eq (c₀ c₁ c₂ c₃ : UInt8) :
    b64Quad c₀ c₁ c₂ c₃ =
      Base64.group (Base64.value c₀) (Base64.value c₁) (Base64.value c₂) (Base64.value c₃) := by
  have shifted : ∀ (n : Nat) (c : UInt8),
      n <<< 6 ||| (if c = pad then 0 else sextet c) = n * 64 + value c := by
    intro n c
    have small : value c < 2 ^ 6 := value_lt c
    change n <<< 6 ||| value c = _
    rw [← Nat.shiftLeft_add_eq_or_of_lt small, Nat.shiftLeft_eq]
  have byte : ∀ n : Nat, UInt8.ofNat (n &&& 0xFF) = UInt8.ofNat n := by
    intro n
    apply UInt8.toNat_inj.mp
    rw [UInt8.toNat_ofNat', UInt8.toNat_ofNat', Nat.and_two_pow_sub_one_eq_mod n 8, Nat.mod_mod]
  simp only [b64Quad, foldl_cons, foldl_nil, shifted, byte, Nat.zero_mul, Nat.zero_add,
    group, Nat.shiftRight_eq_div_pow, Nat.reducePow]

/-- The rounds decode the groups. -/
theorem b64Loop_eq (payload : Bytes) : b64Loop payload = Base64.decodeGroups payload := by
  fun_induction b64Loop payload with
  | case1 c₀ c₁ c₂ c₃ rest ih => rw [decodeGroups, b64Quad_eq, ih]
  | case2 payload short =>
    rcases payload with _ | ⟨c₀, _ | ⟨c₁, _ | ⟨c₂, _ | ⟨c₃, rest⟩⟩⟩⟩
    iterate 4 rfl
    exact absurd rfl (short c₀ c₁ c₂ c₃ rest)

/-- The fillers behind a digit. -/
theorem b64Pad_tail {last : UInt8} (digit : last ≠ pad) (body : Bytes) {count : Nat}
    (few : count ≤ 2) : b64Pad (body ++ last :: List.replicate count pad) = count := by
  unfold b64Pad
  match count, few with
  | 0, _ => simp [digit]
  | 1, _ => simp [digit, replicate]
  | 2, _ => simp [replicate]

/-- Up to two fillers stand behind the rest of a payload. -/
theorem b64Pad_split (payload : Bytes) : b64Pad payload ≤ 2 ∧
    payload = payload.take (payload.length - b64Pad payload) ++
      replicate (b64Pad payload) Base64.pad := by
  have ends : ∀ {bytes : Bytes}, bytes.getLast? = some pad →
      bytes = bytes.dropLast ++ [pad] := by
    intro bytes last
    obtain ⟨front, rfl⟩ := getLast?_eq_some_iff.mp last
    simp
  unfold b64Pad
  split
  · next one =>
    split
    · next two =>
      refine ⟨Nat.le_refl 2, ?_⟩
      have shape : payload = payload.dropLast.dropLast ++ [pad, pad] := by
        have outer := ends one
        rw [ends two] at outer
        simpa using outer
      have cut : payload.dropLast.dropLast = payload.take (payload.length - 2) := by
        rw [dropLast_eq_take, dropLast_eq_take, take_take, length_take]
        congr 1
        omega
      rw [← cut]
      exact shape
    · refine ⟨by decide, ?_⟩
      rw [← dropLast_eq_take]
      exact ends one
  · refine ⟨by decide, ?_⟩
    simp

/-- `B64Decode` accepts a payload that spells well-formed text. -/
theorem b64Decode_ok {payload s : Bytes} :
    b64Decode payload = .ok s ↔ isValidUtf8 s = true ∧ Base64.Spells payload s := by
  rw [spells_iff]
  unfold b64Decode
  rw [b64Loop_eq]
  constructor
  · intro decoded
    dsimp only at decoded
    split_ifs at decoded with wrong digits utf8
    obtain rfl := Except.ok.inj decoded
    push Not at wrong
    obtain ⟨some', whole⟩ := wrong
    obtain ⟨few, shape⟩ := b64Pad_split payload
    have long := length_pos_iff.mpr some'
    have filled : payload.take (payload.length - b64Pad payload) ≠ [] := by
      rw [← length_pos_iff, length_take]
      omega
    refine ⟨utf8, (payload.take (payload.length - b64Pad payload)).dropLast,
      (payload.take (payload.length - b64Pad payload)).getLast filled, b64Pad payload, few, ?_, ?_, ?_,
      rfl⟩
    · rw [dropLast_append_getLast]
      simpa using digits
    · rw [length_dropLast, length_take]
      omega
    · rw [← singleton_append, ← append_assoc, dropLast_append_getLast]
      exact shape
  · rintro ⟨utf8, body, last, count, few, known, whole, shape, decoded⟩
    have digit := ne_pad (known last (by simp))
    have pad : b64Pad payload = count := by rw [shape, b64Pad_tail digit body few]
    have some' : payload ≠ [] := by simp [shape]
    have length : payload.length % 4 = 0 := by
      rw [shape]
      simp only [length_append, length_cons, length_replicate]
      omega
    have front : payload.take (payload.length - count) = body ++ [last] := by
      rw [shape, append_cons, take_left']
      simp only [length_append, length_cons, length_replicate, length_nil]
      omega
    have digits : (payload.take (payload.length - count)).all isDigit = true := by
      rw [front, all_eq_true]
      exact known
    rw [if_neg (by simp [some', length])]
    simp only [pad, digits, if_true, ← decoded, utf8]

/-! ### The value of a header -/

/-- The sentinel form of a payload. -/
def sentinel (payload : Bytes) : Bytes := kB64SentinelPrefix ++ payload ++ kB64SentinelSuffix

/-- What a header denotes: a text in the sentinel form, or itself when it is printable. -/
def Denotes (header s : Bytes) : Prop :=
  (∃ payload, header = sentinel payload ∧ isValidUtf8 s = true ∧ Base64.Spells payload s) ∨
    ((∀ payload, header ≠ sentinel payload) ∧ (∀ c ∈ header, 0x20 ≤ c ∧ c ≤ 0x7E) ∧ s = header)

/-- The marks around a payload take eleven bytes. -/
theorem sentinel_length (payload : Bytes) : (sentinel payload).length = 11 + payload.length := by
  have long : kB64SentinelPrefix.length = 9 := by decide
  have short : kB64SentinelSuffix.length = 2 := by decide
  simp only [sentinel, length_append, long, short]
  omega

/-- The payload is what stands between the ends. -/
theorem sentinel_payload (payload : Bytes) :
    ((sentinel payload).drop kB64SentinelPrefix.length).take ((sentinel payload).length -
      kB64SentinelPrefix.length - kB64SentinelSuffix.length) = payload := by
  have short : kB64SentinelSuffix.length = 2 := by decide
  have long : kB64SentinelPrefix.length = 9 := by decide
  have room : 11 + payload.length - 9 - 2 = payload.length := by omega
  rw [sentinel_length, short, long, room, ← long, sentinel, append_assoc, drop_left,
    take_left]

/-- The shape is the one of the sentinel forms. -/
theorem isSentinel_iff (value : Bytes) : isSentinel value = true ↔ ∃ payload, value = sentinel payload := by
  have long : kB64SentinelPrefix.length = 9 := by decide
  have short : kB64SentinelSuffix.length = 2 := by decide
  unfold isSentinel
  simp only [Bool.and_eq_true, decide_eq_true_eq, long, short]
  constructor
  · rintro ⟨⟨room, front⟩, back⟩
    refine ⟨(value.drop 9).take (value.length - 9 - 2), ?_⟩
    have middle : (value.drop 9).drop (value.length - 9 - 2) = value.drop (value.length - 2) := by
      rw [drop_drop]
      congr 1
      omega
    rw [sentinel, ← front, ← back, ← middle, append_assoc, take_append_drop,
      take_append_drop]
  · rintro ⟨payload, rfl⟩
    have whole := sentinel_length payload
    have cut : 11 + payload.length - 2 = (kB64SentinelPrefix ++ payload).length := by
      rw [length_append, long]
      omega
    refine ⟨⟨by omega, ?_⟩, ?_⟩
    · rw [← long, sentinel, append_assoc, take_left]
    · rw [whole, cut, sentinel, drop_left]

/-- `DecodeHeaderValue` reads what a header denotes. -/
theorem decodeHeaderValue_iff {header s : Bytes} :
    decodeHeaderValue header = some s ↔ Denotes header s := by
  unfold decodeHeaderValue Denotes
  by_cases shaped : isSentinel header = true
  · obtain ⟨payload, rfl⟩ := (isSentinel_iff header).mp shaped
    have taken : ∀ other, sentinel payload = sentinel other → other = payload := by
      intro other same
      rw [← sentinel_payload other, ← same, sentinel_payload]
    rw [if_pos shaped, sentinel_payload]
    constructor
    · intro decoded
      refine .inl ⟨payload, rfl, b64Decode_ok.mp ?_⟩
      cases outcome : b64Decode payload with
      | error error => simp [outcome, Except.toOption] at decoded
      | ok value =>
        rw [outcome] at decoded
        cases decoded
        rfl
    · rintro (⟨other, same, spelled⟩ | ⟨apart, -⟩)
      · rw [taken other same] at spelled
        rw [b64Decode_ok.mpr spelled]
        rfl
      · exact absurd rfl (apart payload)
  · have apart : ∀ payload, header ≠ sentinel payload := fun payload same =>
      shaped ((isSentinel_iff header).mpr ⟨payload, same⟩)
    rw [if_neg shaped]
    split
    · next bad =>
      obtain ⟨c, member, outside⟩ := any_eq_true.mp bad
      rw [Bool.or_eq_true, decide_eq_true_eq, decide_eq_true_eq] at outside
      constructor
      · nofun
      · rintro (⟨payload, same, -⟩ | ⟨-, plain, -⟩)
        · exact absurd same (apart payload)
        · have inside := plain c member
          rcases outside with low | high
          · exact absurd low (UInt8.not_lt.mpr inside.1)
          · exact absurd high (UInt8.not_lt.mpr inside.2)
    · next good =>
      have plain : ∀ c ∈ header, 0x20 ≤ c ∧ c ≤ 0x7E := by
        simpa [not_lt] using good
      constructor
      · intro decoded
        exact .inr ⟨apart, plain, (Option.some.inj decoded).symm⟩
      · rintro (⟨payload, same, -⟩ | ⟨-, -, rfl⟩)
        · exact absurd same (apart payload)
        · rfl

/-! ### The gate -/

/-- A request that the gate lets through has one name header, which reads as its target. -/
theorem headerGate_named {headers : Headers} {request : JsonRpcRequest} {detectedId : Option RequestId}
    (named : isNameMethod request.method = true)
    (passed : (headerGate headers request true detectedId).passes = true) :
    ∃ header target, headerValues headers "mcp-name" = [header] ∧
      bodyTarget request = some target ∧ decodeHeaderValue header = some target := by
  unfold headerGate at passed
  simp only [if_true, named, Bool.not_true, Bool.and_false, Bool.false_eq_true, if_false] at passed
  split_ifs at passed with twice version method
  · cases passed
  · cases passed
  · cases passed
  · cases found : singleHeader headers "mcp-name" with
    | none => simp [found, GateVerdict.passes] at passed
    | some header =>
      have alone : headerValues headers "mcp-name" = [header] := by
        unfold singleHeader at found
        split at found
        · next value alone => rw [alone, Option.some.inj found]
        · contradiction
      rw [found] at passed
      cases decoded : decodeHeaderValue header with
      | none => simp [decoded, GateVerdict.passes] at passed
      | some name =>
        cases expected : bodyTarget request with
        | none => simp [decoded, expected, GateVerdict.passes] at passed
        | some target =>
          simp only [decoded, expected] at passed
          split_ifs at passed with same
          · exact ⟨header, target, alone, rfl, by rw [decoded, same]⟩
          · cases passed

/-- The sentinel form of every text but the empty one is read back, a printable value outside that
form is returned unchanged, nothing else is accepted than what spells well-formed text, and a modern
request for a named target gets through with a header that denotes this target. -/
theorem header_names_target :
    (∀ s, s ≠ [] → isValidUtf8 s = true →
      decodeHeaderValue (sentinel (encode s)) = some s) ∧
    decodeHeaderValue (sentinel []) = none ∧
    (∀ value, (∀ payload, value ≠ sentinel payload) → (∀ c ∈ value, 0x20 ≤ c ∧ c ≤ 0x7E) →
      decodeHeaderValue value = some value) ∧
    (∀ value s, decodeHeaderValue value = some s ↔ Denotes value s) ∧
    ∀ headers request detectedId, isNameMethod request.method = true →
      (headerGate headers request true detectedId).passes = true →
      ∃ header target, headerValues headers "mcp-name" = [header] ∧
        bodyTarget request = some target ∧ Denotes header target := by
  refine ⟨fun s some' utf8 => ?_, ?_, fun value apart plain => ?_,
    fun value s => decodeHeaderValue_iff, fun headers request detectedId named passed => ?_⟩
  · exact decodeHeaderValue_iff.mpr (.inl ⟨_, rfl, utf8, spells_encode some'⟩)
  · unfold decodeHeaderValue
    rfl
  · exact decodeHeaderValue_iff.mpr (.inr ⟨apart, plain, rfl⟩)
  · obtain ⟨header, target, alone, expected, decoded⟩ := headerGate_named named passed
    exact ⟨header, target, alone, expected, decodeHeaderValue_iff.mp decoded⟩

/-- A call of the tool `a`, with its name in the sentinel form. -/
theorem header_names_target_call :
    decodeHeaderValue (sentinel (encode (text "a"))) = some (text "a") ∧
    ∃ header target,
      headerValues [(text "MCP-Protocol-Version", text "2026-07-28"),
        (text "Mcp-Method", text "tools/call"), (text "Mcp-Name", text "=?base64?YQ==?=")]
        "mcp-name" = [header] ∧
      bodyTarget { method := text "tools/call", params := some (.object [
        (text "_meta", .object [(metaKeyProtocolVersion, .literal "2026-07-28")]),
        (text "name", .literal "a")]) } = some target ∧ Denotes header target :=
  ⟨header_names_target.1 _ (by decide) (by decide +kernel),
    header_names_target.2.2.2.2 _ _ none (by decide +kernel) (by decide +kernel)⟩

/-- The sentinel form of the empty text is refused, and `YR==` is read as the `YQ==` that stands for
`a`. -/
theorem header_value_loose :
    decodeHeaderValue (sentinel (encode [])) ≠ some [] ∧
    decodeHeaderValue (text "=?base64?YR==?=") = some (text "a") ∧
    text "=?base64?YR==?=" ≠ text "a" ∧
    text "=?base64?YR==?=" ≠ sentinel (encode (text "a")) := by
  decide +kernel

end BbtInfra.Mcp
