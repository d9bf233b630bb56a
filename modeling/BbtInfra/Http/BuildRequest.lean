import BbtInfra.Lib.Decimal
import BbtInfra.Mcp.HeaderGate

/-!
# The construction of a request

`Client::BuildRequest` puts the options of the client and of the request together: the URL with the
base URL, the headers, the parameters and the timeouts. `ValidatePrepared` parses what was built
once more. What `net::Address` makes of a host is a parameter.
-/
namespace BbtInfra.Http

open Lib (decimal undecimal)
open Mcp (toLower equalsNoCase Headers)

/-- `InvalidArgument`, of a message with bytes of the input. -/
def invalidArgumentBytes (message : Bytes) : Error :=
  makeError .invalidArgument (text "http client: " ++ message)

/-- `Unsupported`. -/
def unsupported (message : Bytes) : Error :=
  makeError .unsupportedRoute (text "http client: " ++ message)

/-- A letter or a digit. -/
def isAlnum (c : UInt8) : Bool :=
  (0x61 ≤ c && c ≤ 0x7A) || (0x41 ≤ c && c ≤ 0x5A) || (0x30 ≤ c && c ≤ 0x39)

/-- `Token`. -/
def token (value : Bytes) : Bool :=
  !value.isEmpty && value.all fun c => isAlnum c || (text "!#$%&'*+-.^_`|~").contains c

/-- The state of the loop in `ValidateHeaders`: the bytes and the `Host` fields so far. -/
def validateHeader (counts : Nat × Nat) (header : Bytes × Bytes) : Except Error (Nat × Nat) :=
  let bytes := counts.1 + (header.1.length + header.2.length + 4)
  let isHost := equalsNoCase header.1 (text "Host")
  if token header.1 = false then throw (invalidArgumentBytes (text "invalid header name"))
  else if 8192 < header.1.length ∨ 32768 < header.2.length ∨ 65536 < bytes then
    throw (invalidArgumentBytes (text "request headers exceed limit"))
  else if header.2.any fun c => (c < 32 && c != 9) || c == 127 then
    throw (invalidArgumentBytes (text "invalid header value"))
  else if equalsNoCase header.1 (text "Content-Length") ||
      equalsNoCase header.1 (text "Transfer-Encoding") then
    throw (invalidArgumentBytes (text "request framing is managed by Client"))
  else if isHost && 1 < counts.2 + 1 then
    throw (invalidArgumentBytes (text "duplicate Host header"))
  else return (bytes, if isHost then counts.2 + 1 else counts.2)

/-- `ValidateHeaders`. -/
def validateHeaders (headers : Headers) : Except Error Unit := do
  let _ ← headers.foldlM validateHeader (0, 0)

/-- A digit of `hex`. -/
def hexDigit (value : Nat) : UInt8 :=
  UInt8.ofNat (if value < 10 then 0x30 + value else 0x37 + value)

/-- What `PercentEncode` keeps. -/
def unreserved (c : UInt8) : Bool := isAlnum c || (text "-_.~").contains c

/-- `PercentEncode`. -/
def percentEncode (value : Bytes) : Bytes :=
  value.flatMap fun c =>
    if unreserved c then [c] else [0x25, hexDigit (c.toNat / 16), hexDigit (c.toNat % 16)]

/-- `net::Address`: `Ip` and `ToString`. -/
structure AddressSpace (α : Type) where
  ip : Bytes → Nat → Option α
  toText : α → Bytes

/-- `Origin` and what `ParseUrl` reads beside it. -/
structure ParsedUrl (α : Type) where
  scheme : Bytes := text "http"
  host : Bytes
  port : Nat
  address : α
  path : Bytes
  query : Bytes

/-- The text before the first `"://"`, and the text behind it. -/
def splitScheme : Bytes → Option (Bytes × Bytes)
  | [] => none
  | c :: rest =>
    if text "://" <+: c :: rest then some ([], rest.drop 2)
    else (splitScheme rest).map fun parts => (c :: parts.1, parts.2)

/-- `std::from_chars` for an `int`, on the whole text. -/
def fromCharsInt (digits : Bytes) : Option Int :=
  let number (digits : Bytes) : Option Nat :=
    if digits = [] ∨ digits.any (fun c => c < 0x30 || 0x39 < c) then none
    else some (undecimal digits)
  match digits with
  | 0x2D :: rest => (number rest).bind fun n => if n ≤ 2 ^ 31 then some (-n) else none
  | _ => (number digits).bind fun n => if n < 2 ^ 31 then some n else none

/-- A byte of the authority, which ends at a slash or a question mark. -/
def authorityByte (c : UInt8) : Bool := c != 0x2F && c != 0x3F

/-- The path of a text behind the scheme: from the first slash to the question mark, when the slash
comes first. -/
def pathOf (rest : Bytes) : Bytes :=
  let behind := rest.dropWhile authorityByte
  if behind.head? = some 0x2F then behind.takeWhile (· != 0x3F) else [0x2F]

/-- The query: what follows the first question mark. -/
def queryOf (rest : Bytes) : Bytes := (rest.dropWhile (· != 0x3F)).drop 1

/-- The host and the port text of an authority with one colon, not at its end; any other is a
host. -/
def splitColon (authority : Bytes) : Bytes × Option Bytes :=
  match authority.dropWhile (· != 0x3A) with
  | _ :: c :: port =>
    if (c :: port).contains 0x3A then (authority, none)
    else (authority.takeWhile (· != 0x3A), some (c :: port))
  | _ => (authority, none)

/-- The host and the port text of an authority. -/
def splitAuthority : Bytes → Except Error (Bytes × Option Bytes)
  | 0x5B :: inner =>
    match inner.dropWhile (· != 0x5D) with
    | [] => throw (invalidArgumentBytes (text "ipv6 literal missing ']'"))
    | [_] => return (inner.takeWhile (· != 0x5D), none)
    | _ :: 0x3A :: c :: port => return (inner.takeWhile (· != 0x5D), some (c :: port))
    | _ :: _ :: _ => throw (invalidArgumentBytes (text "ipv6 authority trailing garbage"))
  | authority => return splitColon authority

/-- The port of a port text, or the default. -/
def readPort : Option Bytes → Except Error Int
  | none => return 80
  | some digits =>
    match fromCharsInt digits with
    | none => throw (invalidArgumentBytes (text "invalid URL port"))
    | some port => return port

section

variable {α : Type} (space : AddressSpace α)

/-- The end of `ParseUrl`, behind the scheme and without the fragment. -/
def parseRest (rest : Bytes) : Except Error (ParsedUrl α) := do
  let (host, portText) ← splitAuthority (rest.takeWhile authorityByte)
  let port ← readPort portText
  if host = [] then throw (invalidArgumentBytes (text "url missing host"))
  if port ≤ 0 ∨ 65535 < port then throw (invalidArgumentBytes (text "url port out of range"))
  match space.ip host port.toNat with
  | none => throw (invalidArgumentBytes (text "host must be numeric IP (DNS 未交付): " ++ host))
  | some address =>
    return { host, port := port.toNat, address, path := pathOf rest, query := queryOf rest }

/-- `ParseUrl`. -/
def parseUrl (url : Bytes) : Except Error (ParsedUrl α) :=
  if url.any fun c => c ≤ 32 || c == 127 then
    throw (invalidArgumentBytes (text "invalid URL character"))
  else
    match splitScheme url with
    | none => throw (invalidArgumentBytes (text "url missing scheme: " ++ url))
    | some (scheme, rest) =>
      if equalsNoCase scheme (text "https") then
        throw (unsupported (text "https/TLS 未交付，本轮仅支持 http"))
      else if equalsNoCase scheme (text "http") = false then
        throw (unsupported (text "unsupported scheme: " ++ scheme))
      else parseRest space (rest.takeWhile (· != 0x23))

/-- `HostHeader`. -/
def hostHeader (parsed : ParsedUrl α) : Bytes :=
  let host := if parsed.host.contains 0x3A then [0x5B] ++ parsed.host ++ [0x5D] else parsed.host
  if parsed.port = 80 then host else host ++ [0x3A] ++ decimal parsed.port

/-- The target on the wire. -/
def targetOf (path query : Bytes) : Bytes := path ++ if query = [] then [] else 0x3F :: query

/-- `PhaseTimeout`. -/
inductive PhaseTimeout
  | inherit
  | finite (milliseconds : Int)
  | disabled
  deriving DecidableEq

/-- A phase that is neither resolved nor a positive time. -/
def PhaseTimeout.unusable : PhaseTimeout → Bool
  | .inherit => true
  | .finite milliseconds => decide (milliseconds ≤ 0)
  | .disabled => false

/-- `ResolvePhase`. -/
def resolvePhase : PhaseTimeout → PhaseTimeout → PhaseTimeout
  | .inherit, client => client
  | request, _ => request

/-- `Timeout`. -/
structure Timeout where
  connect : PhaseTimeout := .finite 5000
  read : PhaseTimeout := .finite 5000
  write : PhaseTimeout := .finite 5000
  pool : PhaseTimeout := .finite 5000

/-- The phases. -/
def Timeout.phases (timeout : Timeout) : List PhaseTimeout :=
  [timeout.connect, timeout.read, timeout.write, timeout.pool]

/-- What `BuildRequest` reads of the options of the client. -/
structure BuildDefaults where
  baseUrl : Bytes := []
  headers : Headers := []
  params : Headers := []
  timeout : Timeout := {}

/-- `RequestOptions`. -/
structure RequestOptions where
  headers : Headers := []
  params : Headers := []
  timeout : Option Timeout := none

/-- `PreparedRequest`. -/
structure PreparedRequest (α : Type) where
  method : Bytes
  url : Bytes
  targetForWire : Bytes
  address : α
  hostHeader : Bytes
  headers : Headers
  body : Bytes := []
  timeout : Timeout

/-- `ValidatePrepared`. -/
def validatePrepared (request : PreparedRequest α) : Except Error (ParsedUrl α) := do
  if token request.method = false then throw (invalidArgumentBytes (text "invalid method"))
  if request.method = text "CONNECT" then throw (unsupported (text "CONNECT tunnel unsupported"))
  validateHeaders request.headers
  if (request.headers.countP fun header =>
      equalsNoCase header.1 (text "Host") && !header.2.isEmpty) ≠ 1 then
    throw (invalidArgumentBytes (text "exactly one Host required"))
  if request.timeout.phases.any PhaseTimeout.unusable then
    throw (invalidArgumentBytes (text "unresolved or invalid timeout"))
  let url ← parseUrl space request.url
  if request.targetForWire ≠ targetOf url.path url.query ∨ 0x23 ∈ request.targetForWire ∨
      space.toText request.address ≠ space.toText url.address ∨
      request.hostHeader ≠ hostHeader url then
    throw (invalidArgumentBytes (text "inconsistent prepared URL/address/target"))
  return url

/-- A header of the request replaces the first of its name or goes to the end. -/
def mergeHeader : Headers → Bytes × Bytes → Headers
  | [], header => [header]
  | existing :: rest, header =>
    if equalsNoCase existing.1 header.1 then (existing.1, header.2) :: rest
    else existing :: mergeHeader rest header

/-- The merge of the headers in `BuildRequest`, with the `Host` at the end when nobody set it. -/
def mergedHeaders (client request : Headers) (host : Bytes) : Headers :=
  let headers := request.foldl mergeHeader client
  if headers.any fun header => equalsNoCase header.1 (text "Host") then headers
  else headers ++ [(text "Host", host)]

/-- A parameter goes to the end of a query. -/
def appendParam (query : Bytes) (param : Bytes × Bytes) : Bytes :=
  (if query = [] then [] else query ++ [0x26]) ++ percentEncode param.1 ++ [0x3D] ++
    percentEncode param.2

/-- A relative URL behind the base URL. -/
def absoluteUrl (baseUrl url : Bytes) : Except Error Bytes :=
  if (splitScheme url).isSome then return url
  else if baseUrl = [] then
    throw (invalidArgumentBytes (text "relative url requires client base_url"))
  else
    let rooted := if url ≠ [] ∧ url.head? ≠ some 0x2F then 0x2F :: url else url
    let base := if baseUrl.getLast? = some 0x2F ∧ rooted.head? = some 0x2F then baseUrl.dropLast
      else baseUrl
    return base ++ rooted

/-- The timeouts of the request over those of the client. -/
def resolveTimeout (request : Option Timeout) (client : Timeout) : Timeout where
  connect := resolvePhase (request.elim .inherit Timeout.connect) client.connect
  read := resolvePhase (request.elim .inherit Timeout.read) client.read
  write := resolvePhase (request.elim .inherit Timeout.write) client.write
  pool := resolvePhase (request.elim .inherit Timeout.pool) client.pool

/-- `BuildRequest`. -/
def buildRequest (client : BuildDefaults) (method url : Bytes) (options : RequestOptions) :
    Except Error (PreparedRequest α) := do
  if token method = false then throw (invalidArgumentBytes (text "method must not be empty"))
  let absolute ← absoluteUrl client.baseUrl url
  let parsed ← parseUrl space absolute
  let host := hostHeader parsed
  let query := (client.params ++ options.params).foldl appendParam parsed.query
  let target := targetOf parsed.path query
  let timeout := resolveTimeout options.timeout client.timeout
  if timeout.phases.any PhaseTimeout.unusable then
    throw (invalidArgumentBytes (text "request timeout override must be positive or disabled"))
  let request : PreparedRequest α :=
    { method, url := text "http://" ++ host ++ target, targetForWire := target
      address := parsed.address, hostHeader := host
      headers := mergedHeaders client.headers options.headers host, timeout }
  let _ ← validatePrepared space request
  return request

end

end BbtInfra.Http
