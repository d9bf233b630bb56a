import BbtInfra.Lib.Cursor
import BbtInfra.Lib.Decimal
import BbtInfra.Mcp.HeaderGate

/-!
# Health queries

`Client::HealthyInstances` behind the exchange with the agent. An entry of the response is taken,
or left out because one of its checks is not passing, or refused, and then nothing is returned.
What Boost.JSON makes of a body is a parameter.
-/
namespace BbtInfra.Consul

open List

open Lib (decimal undecimal digit_of_mem_decimal bind_eq_ok)
open Mcp (JsonValue Headers equalsNoCase)

/-- `Protocol`. -/
def protocol (message : String) : Error :=
  makeError .protocolError (text ("consul: " ++ message))

/-- `http::Response`. -/
structure Response where
  statusCode : Nat
  headers : Headers
  body : Bytes

/-- `Response::Ok`. -/
def Response.ok (response : Response) : Bool :=
  200 ≤ response.statusCode && response.statusCode < 300

/-- `CheckStatus`. -/
def checkStatus (response : Response) (action : Bytes) : Except Error Unit :=
  if response.ok then return
  else throw { makeError .transportError (text "consul: " ++ action ++
      text " rejected with HTTP " ++ decimal response.statusCode) with
    backendCategory := text "consul.http", backendCode := response.statusCode }

/-- The members of an object. -/
abbrev Object := List (Bytes × JsonValue)

/-- `Member`. -/
def member (object : Object) (key : String) : Option JsonValue := object.lookup (text key)

/-- `StringMember`. -/
def stringMember (object : Object) (key : String) : Option Bytes :=
  match member object key with
  | some (.string value) => some value
  | _ => none

/-- `PortMember`. -/
def portMember (object : Object) (key : String) : Option Nat :=
  let checked (port : Int) : Option Nat :=
    if port ≤ 0 ∨ 65535 < port then none else some port.toNat
  match member object key with
  | some (.int64 port) => checked port.toInt
  | some (.uint64 raw) => if 65535 < raw.toNat then none else checked raw.toNat
  | _ => none

/-- A number of a dotted quad, as `inet_pton` takes it: at most three digits without a zero in
front, up to 255. -/
def octet (digits : Bytes) : Bool :=
  digits ≠ [] && digits.length ≤ 3 && digits.all (fun c => 0x30 ≤ c && c ≤ 0x39) &&
    (digits.length = 1 || digits.head? ≠ some 0x30) && undecimal digits ≤ 255

/-- `inet_pton` for `AF_INET`. -/
def inetPton (address : Bytes) : Bool :=
  (address.splitOn 0x2E).length = 4 && (address.splitOn 0x2E).all octet

/-- `IsNumericIpv4`: a C string ends at its first zero byte. -/
def isNumericIpv4 (address : Bytes) : Bool :=
  address ≠ [] && inetPton (address.takeWhile (· != 0))

/-- The header and the number of `X-Consul-Index`, which `std::from_chars` reads whole. -/
def readIndex (headers : Headers) : Except Error Nat :=
  match headers.find? fun header => equalsNoCase header.1 (text "X-Consul-Index") with
  | none | some (_, []) => throw (protocol "health response missing X-Consul-Index")
  | some (_, value) =>
    if value.all (fun c => 0x30 ≤ c && c ≤ 0x39) && undecimal value < 2 ^ 64 then
      return undecimal value
    else throw (protocol "health response has invalid X-Consul-Index")

/-- `Instance`. -/
structure Instance where
  id : Bytes
  name : Bytes
  address : Bytes
  port : Nat
  deriving DecidableEq

/-- `ServiceSnapshot`. -/
structure ServiceSnapshot where
  index : Nat
  instances : List Instance
  deriving DecidableEq

/-- The loop over the checks of an entry. -/
def checksPassing : List JsonValue → Except Error Bool
  | [] => return true
  | .object check :: rest =>
    match stringMember check "Status" with
    | none => throw (protocol "health check missing Status")
    | some status => if status = text "passing" then checksPassing rest else return false
  | _ => throw (protocol "health check must be an object")

/-- Whether the checks of an entry are passing, if it has any. -/
def entryPassing (object : Object) : Except Error Bool :=
  match member object "Checks" with
  | none => return true
  | some (.array checks) => checksPassing checks
  | some _ => throw (protocol "health entry Checks must be an array")

/-- The address of the service or else of the node. -/
def readAddress (object service : Object) : Except Error Bytes :=
  match stringMember service "Address" with
  | some (c :: declared) => return c :: declared
  | _ =>
    match member object "Node" with
    | some (.object node) =>
      match stringMember node "Address" with
      | some (c :: address) => return c :: address
      | _ => throw (protocol "health entry has no usable address")
    | _ => throw (protocol "health entry missing Node address")

/-- The instance of an entry. -/
def readInstance (name : Bytes) (object service : Object) : Except Error Instance :=
  match stringMember service "ID" with
  | some (c :: id) =>
    match portMember service "Port" with
    | some port => do
      let address ← readAddress object service
      if isNumericIpv4 address then
        return { id := c :: id, name := (stringMember service "Service").getD name, address, port }
      else throw (protocol "health entry address is not numeric ipv4")
    | none => throw (protocol "health entry has invalid service port")
  | _ => throw (protocol "health entry has empty service ID")

/-- The body of the loop over the entries. -/
def readEntry (name : Bytes) : JsonValue → Except Error (Option Instance)
  | .object object =>
    match member object "Service" with
    | some (.object service) => do
      if (← entryPassing object) then return some (← readInstance name object service)
      else return none
    | _ => throw (protocol "health entry missing Service object")
  | _ => throw (protocol "health entry must be an object")

/-- The loop over the entries. -/
def readEntries (name : Bytes) : List JsonValue → Except Error (List Instance)
  | [] => return []
  | entry :: rest => do
    let found ← readEntry name entry
    let behind ← readEntries name rest
    return found.toList ++ behind

/-- `HealthyInstances` behind `Send`. -/
def healthyInstances (parse : Bytes → Option JsonValue) (service : Bytes) (response : Response) :
    Except Error ServiceSnapshot := do
  checkStatus response (text "health query")
  let index ← readIndex response.headers
  match parse response.body with
  | none => throw (protocol "health response is not valid json")
  | some (.array entries) => return { index, instances := ← readEntries service entries }
  | some _ => throw (protocol "health response must be an array")

/-- A dotted quad. -/
def DottedQuad (address : Bytes) : Prop :=
  ∃ parts : List Nat, parts.length = 4 ∧ (∀ part ∈ parts, part ≤ 255) ∧
    address = [0x2E].intercalate (parts.map decimal)

/-- The status of a check. -/
def statusOf : JsonValue → Option Bytes
  | .object check => stringMember check "Status"
  | _ => none

/-- A check that says that it is passing. -/
def passingCheck (check : JsonValue) : Bool := statusOf check = some (text "passing")

/-- An entry has no `Checks`, or only passing ones. -/
def passing (object : Object) : Bool :=
  match member object "Checks" with
  | none => true
  | some (.array checks) => checks.all passingCheck
  | some _ => false

/-- The first check that is not passing says so. -/
def checked (object : Object) : Bool :=
  match member object "Checks" with
  | none => true
  | some (.array checks) =>
    ((checks.find? (!passingCheck ·)).all fun check => (statusOf check).isSome)
  | some _ => false

/-- An instance is what its entry says. -/
structure Reads (name : Bytes) (object service : Object) (taken : Instance) : Prop where
  id : stringMember service "ID" = some taken.id ∧ taken.id ≠ []
  port : portMember service "Port" = some taken.port
  address : readAddress object service = .ok taken.address ∧ isNumericIpv4 taken.address = true
  name : taken.name = (stringMember service "Service").getD name

/-- An entry that `HealthyInstances` takes or leaves out. -/
def Acceptable (name : Bytes) (entry : JsonValue) : Prop :=
  ∃ object service, entry = .object object ∧ member object "Service" = some (.object service) ∧
    checked object = true ∧ (passing object = true → ∃ taken, Reads name object service taken)

/-- A passing entry and its instance. -/
def Describes (name : Bytes) (entry : JsonValue) (taken : Instance) : Prop :=
  ∃ object service, entry = .object object ∧ member object "Service" = some (.object service) ∧
    passing object = true ∧ Reads name object service taken

/-- An entry with a check that says that it is not passing. -/
def NotPassing (entry : JsonValue) : Prop :=
  ∃ object checks check status, entry = .object object ∧
    member object "Checks" = some (.array checks) ∧ check ∈ checks ∧
    statusOf check = some status ∧ status ≠ text "passing"

/-- Whether an entry is passing. -/
def passingEntry : JsonValue → Bool
  | .object object => passing object
  | _ => false

/-- The instances are those of the passing entries, in order, and are usable; the entries that were
left out have a check that is not passing. -/
structure SnapshotExact (name : Bytes) (entries : List JsonValue) (instances : List Instance) :
    Prop where
  taken : List.Forall₂ (Describes name) (entries.filter passingEntry) instances
  left : ∀ entry ∈ entries, passingEntry entry = false → NotPassing entry
  usable : ∀ taken ∈ instances, taken.id ≠ [] ∧ 1 ≤ taken.port ∧ taken.port ≤ 65535 ∧
    DottedQuad taken.address

/-- A response that is an error whatever the addresses of its entries are. -/
def Refused (name : Bytes) (response : Response) (document : JsonValue) : Prop :=
  response.ok = false ∨ (readIndex response.headers).toOption = none ∨
    ∀ entries, document = .array entries → ∃ entry ∈ entries, ¬Acceptable name entry

/-- The address of no passing entry has a zero byte in it. -/
def NoZero (document : JsonValue) : Prop :=
  ∀ entries object service address, document = .array entries → .object object ∈ entries →
    member object "Service" = some (.object service) → passing object = true →
    readAddress object service = .ok address → 0 ∉ address

section Addresses

/-- A number of a dotted quad is the text of a number up to 255. -/
theorem octet_decimal {digits : Bytes} (known : octet digits = true) :
    undecimal digits ≤ 255 ∧ decimal (undecimal digits) = digits := by
  simp only [octet, Bool.and_eq_true, Bool.or_eq_true, decide_eq_true_eq, all_eq_true] at known
  obtain ⟨⟨⟨⟨some', -⟩, bytes⟩, canonical⟩, small⟩ := known
  have digits' : ∀ c ∈ digits, 0x30 ≤ c.toNat ∧ c.toNat ≤ 0x39 := by
    intro c inside
    exact ⟨UInt8.le_iff_toNat_le.mp (bytes c inside).1, UInt8.le_iff_toNat_le.mp (bytes c inside).2⟩
  exact ⟨small, (BbtInfra.Lib.decimal_undecimal some' digits' canonical).1⟩

/-- What `inet_pton` takes is a dotted quad. -/
theorem dottedQuad_of_inetPton {address : Bytes} (known : inetPton address = true) :
    DottedQuad address := by
  simp only [inetPton, Bool.and_eq_true, decide_eq_true_eq, all_eq_true] at known
  refine ⟨(address.splitOn 0x2E).map undecimal, by simpa using known.1, ?_, ?_⟩
  · intro part member
    obtain ⟨digits, inside, rfl⟩ := mem_map.mp member
    exact (octet_decimal (known.2 digits inside)).1
  · have same : ((address.splitOn 0x2E).map undecimal).map decimal = address.splitOn 0x2E := by
      rw [map_map]
      conv_rhs => rw [← map_id (address.splitOn 0x2E)]
      exact map_congr_left fun digits inside => (octet_decimal (known.2 digits inside)).2
    rw [same, intercalate_splitOn]

/-- A dotted quad has no zero byte. -/
theorem DottedQuad.noZero {address : Bytes} (quad : DottedQuad address) : 0 ∉ address := by
  obtain ⟨parts, -, -, rfl⟩ := quad
  have digits : ∀ part, (0 : UInt8) ∉ decimal part := by
    intro part inside
    exact absurd (digit_of_mem_decimal inside).1 (by decide)
  induction parts with
  | nil => simp
  | cons part parts ih =>
    cases parts with
    | nil => simpa using digits part
    | cons next parts => simpa [digits part] using ih

/-- Without a zero byte `IsNumericIpv4` looks at the whole address. -/
theorem dottedQuad_of_isNumericIpv4 {address : Bytes} (known : isNumericIpv4 address = true)
    (noZero : 0 ∉ address) : DottedQuad address := by
  simp only [isNumericIpv4, Bool.and_eq_true] at known
  have whole : address.takeWhile (· != 0) = address := by
    apply takeWhile_eq_self_iff.mpr
    intro c inside
    have apart : c ≠ 0 := by
      rintro rfl
      exact noZero inside
    simpa using apart
  rw [whole] at known
  exact dottedQuad_of_inetPton known.2

/-- A port that is read is one. -/
theorem portMember_bounds {object : Object} {key : String} {port : Nat}
    (read : portMember object key = some port) : 1 ≤ port ∧ port ≤ 65535 := by
  unfold portMember at read
  simp only at read
  split at read
  · simp only [Option.ite_none_left_eq_some] at read
    obtain ⟨bounds, same⟩ := read
    injection same with same
    omega
  · simp only [Option.ite_none_left_eq_some] at read
    obtain ⟨-, bounds, same⟩ := read
    injection same with same
    omega
  · cases read

end Addresses

section Entries

variable {name : Bytes} {object service : Object} {entry : JsonValue}

/-- The loop over the checks stops at the first that is not passing. -/
theorem checksPassing_ok {checks : List JsonValue} {value : Bool} :
    checksPassing checks = .ok value ↔
      ((checks.find? (!passingCheck ·)).all fun check => (statusOf check).isSome) = true ∧
        checks.all passingCheck = value := by
  induction checks with
  | nil => simp [checksPassing, pure, Except.pure]
  | cons check rest ih =>
    cases check with
    | object check =>
      cases read : stringMember check "Status" with
      | none =>
        have status : statusOf (.object check) = none := read
        simp [checksPassing, read, passingCheck, status, throw, throwThe, MonadExceptOf.throw]
      | some status =>
        have status' : statusOf (.object check) = some status := read
        by_cases passes : status = text "passing"
        · simp [checksPassing, read, passingCheck, status', passes, ih]
        · simp [checksPassing, read, passingCheck, status', passes, pure, Except.pure]
    | _ => simp [checksPassing, passingCheck, statusOf, throw, throwThe, MonadExceptOf.throw]

/-- What `HealthyInstances` makes of the checks of an entry. -/
theorem entryPassing_ok {value : Bool} :
    entryPassing object = .ok value ↔ checked object = true ∧ passing object = value := by
  unfold entryPassing checked passing
  split
  · simp [pure, Except.pure]
  · exact checksPassing_ok
  · simp [throw, throwThe, MonadExceptOf.throw]

/-- An entry that is left out has a check that is not passing. -/
theorem notPassing_of_checked (known : checked object = true) (left : passing object = false) :
    NotPassing (.object object) := by
  unfold checked at known
  unfold passing at left
  split at known
  · rename_i none'
    rw [none'] at left
    cases left
  · rename_i checks found
    simp only [found, all_eq_false] at left
    obtain ⟨other, inside, fails⟩ := left
    cases first : checks.find? (!passingCheck ·) with
    | none =>
      rw [find?_eq_none] at first
      exact absurd (first other inside) (by simpa using fails)
    | some check =>
      rw [first, Option.all_some] at known
      obtain ⟨status, read⟩ := Option.isSome_iff_exists.mp known
      refine ⟨object, checks, check, status, rfl, found, mem_of_find?_eq_some first, read, ?_⟩
      intro passes
      have fails := find?_some first
      simp [passingCheck, read, passes] at fails
  · cases known

/-- The instance of a passing entry. -/
theorem readInstance_ok {taken : Instance} :
    readInstance name object service = .ok taken ↔ Reads name object service taken := by
  constructor
  · intro done
    unfold readInstance at done
    split at done
    · rename_i named
      split at done
      · rename_i numbered
        obtain ⟨address, read, done⟩ := bind_eq_ok.mp done
        split at done
        · cases done
          exact ⟨⟨named, by simp⟩, numbered, ⟨read, by assumption⟩, rfl⟩
        · cases done
      · cases done
    · cases done
  · rintro ⟨⟨named, some'⟩, numbered, ⟨read, numeric⟩, called⟩
    obtain ⟨id, name', address, port⟩ := taken
    obtain ⟨c, rest, rfl⟩ := exists_cons_of_ne_nil some'
    simp only at named numbered read numeric called
    simp [readInstance, named, numbered, read, numeric, called, bind, Except.bind, pure,
      Except.pure]

/-- What `HealthyInstances` makes of an entry. -/
theorem readEntry_ok {found : Option Instance} :
    readEntry name entry = .ok found ↔ ∃ object service, entry = .object object ∧
      member object "Service" = some (.object service) ∧ checked object = true ∧
      (found = none ∧ passing object = false ∨
        ∃ taken, found = some taken ∧ passing object = true ∧ Reads name object service taken) := by
  constructor
  · intro done
    unfold readEntry at done
    split at done
    · rename_i object
      split at done
      · rename_i service served
        obtain ⟨passes, checks, done⟩ := bind_eq_ok.mp done
        have known := entryPassing_ok.mp checks
        cases passes with
        | true =>
          obtain ⟨taken, read, done⟩ := bind_eq_ok.mp done
          cases done
          exact ⟨object, service, rfl, served, known.1,
            .inr ⟨taken, rfl, known.2, readInstance_ok.mp read⟩⟩
        | false =>
          cases done
          exact ⟨object, service, rfl, served, known.1, .inl ⟨rfl, known.2⟩⟩
      · cases done
    · cases done
  · rintro ⟨object, service, rfl, served, known, ⟨rfl, passes⟩ | ⟨taken, rfl, passes, reads⟩⟩
    · have checks := entryPassing_ok.mpr ⟨known, passes⟩
      simp [readEntry, served, checks, bind, Except.bind, pure, Except.pure]
    · have checks := entryPassing_ok.mpr ⟨known, passes⟩
      have read := readInstance_ok.mpr reads
      simp [readEntry, served, checks, read, bind, Except.bind, pure, Except.pure]

/-- What the loop over the entries returns. -/
theorem readEntries_ok {entries : List JsonValue} {instances : List Instance}
    (done : readEntries name entries = .ok instances) :
    (∀ entry ∈ entries, Acceptable name entry) ∧
    List.Forall₂ (Describes name) (entries.filter passingEntry) instances ∧
    ∀ entry ∈ entries, passingEntry entry = false → NotPassing entry := by
  induction entries generalizing instances with
  | nil =>
    cases done
    simp
  | cons entry rest ih =>
    obtain ⟨found, first, done⟩ := bind_eq_ok.mp done
    obtain ⟨behind, second, done⟩ := bind_eq_ok.mp done
    cases done
    obtain ⟨acceptable, taken', left⟩ := ih second
    obtain ⟨object, service, rfl, served, known, ⟨rfl, out⟩ | ⟨taken, rfl, passes, reads⟩⟩ :=
      readEntry_ok.mp first
    · have good : Acceptable name (.object object) :=
        ⟨object, service, rfl, served, known, fun passes => by simp [out] at passes⟩
      have out' : ¬passingEntry (.object object) = true := by simp [passingEntry, out]
      rw [forall_mem_cons, forall_mem_cons, filter_cons_of_neg out']
      exact ⟨⟨good, acceptable⟩, taken', fun _ => notPassing_of_checked known out, left⟩
    · have good : Acceptable name (.object object) :=
        ⟨object, service, rfl, served, known, fun _ => ⟨taken, reads⟩⟩
      have passes' : passingEntry (.object object) = true := passes
      rw [forall_mem_cons, forall_mem_cons, filter_cons_of_pos passes']
      exact ⟨⟨good, acceptable⟩, .cons ⟨object, service, rfl, served, passes, reads⟩ taken',
        fun out => by simp [passes'] at out, left⟩

/-- Entries that are all acceptable are read. -/
theorem readEntries_acceptable {entries : List JsonValue}
    (all : ∀ entry ∈ entries, Acceptable name entry) :
    ∃ instances, readEntries name entries = .ok instances := by
  induction entries with
  | nil => exact ⟨[], rfl⟩
  | cons entry rest ih =>
    rw [forall_mem_cons] at all
    obtain ⟨behind, second⟩ := ih all.2
    obtain ⟨object, service, same, served, known, reads⟩ := all.1
    have first : ∃ found, readEntry name entry = .ok found := by
      cases passes : passing object with
      | false =>
        exact ⟨none, readEntry_ok.mpr ⟨object, service, same, served, known, .inl ⟨rfl, passes⟩⟩⟩
      | true =>
        obtain ⟨taken, reads⟩ := reads passes
        exact ⟨some taken, readEntry_ok.mpr ⟨object, service, same, served, known,
          .inr ⟨taken, rfl, passes, reads⟩⟩⟩
    obtain ⟨found, first⟩ := first
    exact ⟨found.toList ++ behind, by simp [readEntries, first, second, bind, Except.bind, pure,
      Except.pure]⟩

/-- What `HealthyInstances` returns. -/
theorem healthyInstances_ok {parse : Bytes → Option JsonValue} {response : Response}
    {snapshot : ServiceSnapshot} :
    healthyInstances parse name response = .ok snapshot ↔
      response.ok = true ∧ readIndex response.headers = .ok snapshot.index ∧
      ∃ entries, parse response.body = some (.array entries) ∧
        readEntries name entries = .ok snapshot.instances := by
  constructor
  · intro done
    obtain ⟨⟨⟩, status, done⟩ := bind_eq_ok.mp done
    obtain ⟨index, numbered, done⟩ := bind_eq_ok.mp done
    have ok : response.ok = true := by
      unfold checkStatus at status
      split at status
      · assumption
      · cases status
    split at done
    · cases done
    · rename_i entries parsed
      obtain ⟨instances, read, done⟩ := bind_eq_ok.mp done
      cases done
      exact ⟨ok, numbered, entries, parsed, read⟩
    · cases done
  · rintro ⟨ok, numbered, entries, parsed, read⟩
    simp [healthyInstances, checkStatus, ok, numbered, parsed, read, bind, Except.bind, pure,
      Except.pure]

/-- Related lists relate each member of the first to one of the second. -/
theorem forall₂_left {α β : Type} {R : α → β → Prop} {xs : List α} {ys : List β}
    (all : List.Forall₂ R xs ys) : ∀ x ∈ xs, ∃ y ∈ ys, R x y := by
  induction all with
  | nil => simp
  | cons first _ ih =>
    rw [forall_mem_cons]
    refine ⟨⟨_, by simp, first⟩, fun x inside => ?_⟩
    obtain ⟨y, there, related⟩ := ih x inside
    exact ⟨y, mem_cons_of_mem _ there, related⟩

/-- A snapshot is exact for a body that is JSON exactly when the response is refused or no address
of a passing entry has a zero byte in it. -/
theorem snapshot_exact_iff {parse : Bytes → Option JsonValue} {response : Response}
    {document : JsonValue} (parsed : parse response.body = some document) :
    (∀ snapshot, healthyInstances parse name response = .ok snapshot →
      ∃ entries, document = .array entries ∧ SnapshotExact name entries snapshot.instances) ↔
    Refused name response document ∨ NoZero document := by
  constructor
  · intro exact'
    rw [or_iff_not_imp_left]
    intro taken entries object service address same inside served passes addressed
    have accepted := taken
    simp only [Refused, not_or, not_forall, not_exists, not_and, not_not] at accepted
    obtain ⟨ok, numbered, entries', same', acceptable⟩ := accepted
    cases same
    cases same'
    obtain ⟨instances, read⟩ := readEntries_acceptable acceptable
    cases index : readIndex response.headers with
    | error failure =>
      rw [index] at numbered
      exact absurd rfl numbered
    | ok index' =>
      obtain ⟨entries', same, exact'⟩ := exact' { index := index', instances }
        (healthyInstances_ok.mpr ⟨by simpa using ok, index, entries, parsed, read⟩)
      cases same
      obtain ⟨taken, there, object', service', same, served', -, reads⟩ :=
        forall₂_left (readEntries_ok read).2.1 _ (mem_filter.mpr ⟨inside, passes⟩)
      cases same
      rw [served] at served'
      cases served'
      have same := addressed.symm.trans reads.address.1
      cases same
      exact (exact'.usable taken there).2.2.2.noZero
  · intro either snapshot done
    obtain ⟨ok, numbered, entries, parsed', read⟩ := healthyInstances_ok.mp done
    rw [parsed] at parsed'
    cases parsed'
    obtain ⟨acceptable, taken', left⟩ := readEntries_ok read
    have noZero : NoZero (.array entries) := by
      rcases either with (status | none' | bad) | noZero
      · simp [ok] at status
      · rw [numbered] at none'
        cases none'
      · obtain ⟨entry, member, bad⟩ := bad entries rfl
        exact absurd (acceptable entry member) bad
      · exact noZero
    refine ⟨entries, rfl, taken', left, fun taken inside => ?_⟩
    obtain ⟨entry, member, object, service, same, served, passes, reads⟩ :=
      forall₂_left taken'.flip taken inside
    cases same
    have bounds := portMember_bounds reads.port
    exact ⟨reads.id.2, bounds.1, bounds.2, dottedQuad_of_isNumericIpv4 reads.address.2
      (noZero entries object service _ rfl (mem_filter.mp member).1 served passes
        reads.address.1)⟩

/-- A service with an address. -/
def serviceOf (address : Bytes) : Object :=
  [(text "Address", .string address), (text "ID", .literal "a"), (text "Port", .int64 80)]

/-- An entry that a check leaves out. -/
def leftOut : Object :=
  [(text "Checks", .array [.object [(text "Status", .literal "critical")]]),
    (text "Service", .object (serviceOf (text "10.0.0.2")))]

/-- A document of two entries, the second of them left out, and its text. -/
def documentOf (address : Bytes) : JsonValue :=
  .array [.object [(text "Service", .object (serviceOf address))], .object leftOut]

def bodyOf (address : String) : Bytes :=
  text ("[\x7b\"Service\":\x7b\"Address\":\"" ++ address ++
    "\",\"ID\":\"a\",\"Port\":80\x7d\x7d,\x7b\"Checks\":[\x7b\"Status\":\"critical\"\x7d]," ++
    "\"Service\":\x7b\"Address\":\"10.0.0.2\",\"ID\":\"a\",\"Port\":80\x7d\x7d]")

/-- A parser that knows one body, which spells an address. -/
def parserOf (body : String) (address : Bytes) (other : Bytes) : Option JsonValue :=
  if other = bodyOf body then some (documentOf address) else none

/-- A response with these entries. -/
def responseOf (body : String) : Response where
  statusCode := 200
  headers := [(text "X-Consul-Index", text "7")]
  body := bodyOf body

/-- An entry with a good address, and one that is left out. -/
theorem snapshot_exact_iff_left_out : ∃ snapshot entries,
    healthyInstances (parserOf "10.0.0.1" (text "10.0.0.1")) (text "s") (responseOf "10.0.0.1") =
      .ok snapshot ∧ SnapshotExact (text "s") entries snapshot.instances ∧
    entries.map passingEntry = [true, false] := by
  have parsed : parserOf "10.0.0.1" (text "10.0.0.1") (responseOf "10.0.0.1").body =
      some (documentOf (text "10.0.0.1")) := if_pos rfl
  have noZero : NoZero (documentOf (text "10.0.0.1")) := by
    intro entries object service address same inside served passes read
    cases same
    have first : object = [(text "Service", .object (serviceOf (text "10.0.0.1")))] := by
      simp only [mem_cons, JsonValue.object.injEq, not_mem_nil, or_false] at inside
      refine inside.resolve_right ?_
      rintro rfl
      exact absurd passes (by decide +kernel)
    rw [first] at served read
    have same : service = serviceOf (text "10.0.0.1") := by
      simpa [member, eq_comm] using served
    have whole : text "10.0.0.1" = [0x31, 0x30, 0x2E, 0x30, 0x2E, 0x30, 0x2E, 0x31] := by
      decide +kernel
    have declared : stringMember (serviceOf (text "10.0.0.1")) "Address" =
        some (text "10.0.0.1") := by
      simp [stringMember, member, serviceOf]
    rw [same, readAddress, declared, whole] at read
    cases read
    decide
  have done : (healthyInstances (parserOf "10.0.0.1" (text "10.0.0.1")) (text "s")
      (responseOf "10.0.0.1")).toOption.isSome = true := by
    decide +kernel
  cases made : healthyInstances (parserOf "10.0.0.1" (text "10.0.0.1")) (text "s")
      (responseOf "10.0.0.1") with
  | error failure =>
    rw [made] at done
    cases done
  | ok snapshot =>
    obtain ⟨entries, same, exact'⟩ := (snapshot_exact_iff parsed).mpr (.inr noZero) snapshot made
    cases same
    exact ⟨snapshot, _, rfl, exact', by decide +kernel⟩

/-- What follows a zero byte in an address is not looked at. -/
theorem address_behind_zero :
    (healthyInstances (parserOf "10.0.0.1\\u0000x" (text "10.0.0.1\x00x")) (text "s")
      (responseOf "10.0.0.1\\u0000x")).toOption =
      some { index := 7, instances := [⟨text "a", text "s", text "10.0.0.1\x00x", 80⟩] } ∧
    ¬DottedQuad (text "10.0.0.1\x00x") := by
  refine ⟨by decide +kernel, fun quad => ?_⟩
  exact quad.noZero (by decide +kernel)

end Entries

end BbtInfra.Consul
