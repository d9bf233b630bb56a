import BbtInfra.Lib.Pages
import BbtInfra.Mcp.RegistrationPool

/-!
# Listing what is registered

A client lists the resources, the prompts or the tools page by page. The registry does not change
any more, so a cursor is a position in the table: the pages of one enumeration fit together, and a
cursor that the server has not issued is refused or leads to the rest of the same enumeration.
-/
namespace BbtInfra.Mcp

open Lib JsonValue RegistrationState

open Lib (Machine SortedTable Page Paged follow decimal)

/-- What a client can list. -/
inductive ListKind
  | resources | prompts | tools
  deriving DecidableEq, Repr

/-- The method that lists a kind. -/
def ListKind.method : ListKind → Bytes
  | .resources => text "resources/list"
  | .prompts => text "prompts/list"
  | .tools => text "tools/list"

/-- The member with the entries of a page. -/
def ListKind.key : ListKind → String
  | .resources => "resources"
  | .prompts => "prompts"
  | .tools => "tools"

/-- The keys of a table. -/
def ListKind.keys (registry : Registry) : ListKind → List Bytes
  | .resources => registry.resources.map ResourceDefinition.uri
  | .prompts => registry.prompts.map PromptDefinition.name
  | .tools => registry.tools.map ToolDefinition.name

/-- The entries of a table as they are listed. -/
def ListKind.entries (registry : Registry) : ListKind → List JsonValue
  | .resources => registry.resources.map buildResourceJson
  | .prompts => registry.prompts.map buildPromptJson
  | .tools => registry.tools.map buildToolsJson

/-- The registry that requests find. The hooks look a validator up and fail without one. -/
def RegistrationState.registry {V : Type} (validate : V → JsonValue → Bool)
    (state : RegistrationState V) : Registry where
  resources := state.tables.resources.entries
  prompts := state.tables.prompts.entries
  tools := state.tables.tools.entries
  toolsHooks :=
    if state.hooksSet then
      some
        { validateInput := fun name instance' =>
            (state.tables.inputValidators name).any fun compiled => validate compiled instance'
          validateOutput := fun name structured =>
            (state.tables.outputValidators name).any fun compiled => validate compiled structured }
    else none

section Frozen

variable {V : Type} {compile : JsonValue → Except SchemaErrorCode V} {maxRegistrations : UInt64}

variable {state : RegistrationState V}

/-- Behind Start nothing reaches the test of the capacity. -/
theorem ineligible_of_started (started : state.started = true)
    (call : RegistrationCall) : state.eligible call = false := by
  cases call <;>
    simp [eligible, resourceChecks, promptChecks, toolChecks, lockedChecks,
      started]

/-- Behind Start no call changes what requests find. -/
theorem call_started {state : RegistrationState V} (started : state.started = true)
    (call : RegistrationCall) :
    (state.call compile maxRegistrations call).2.started = true ∧
      (state.call compile maxRegistrations call).2.tables = state.tables ∧
      (state.call compile maxRegistrations call).2.hooksSet = state.hooksSet := by
  have ineligible := ineligible_of_started started call
  cases call with
  | addResource definition hasHandler =>
    obtain ⟨error, refused, _⟩ := exists_refusal ineligible
    simp [RegistrationState.call, addResource, refused, started]
  | addPrompt definition hasHandler =>
    obtain ⟨error, refused, _⟩ := exists_refusal ineligible
    simp [RegistrationState.call, addPrompt, refused, started]
  | addTool definition hasHandler =>
    obtain ⟨error, refused, _⟩ := exists_refusal ineligible
    simp [RegistrationState.call, addTool, refused, started]
  | enableToolsSchemaValidation =>
    cases closed : state.closed <;>
      simp [RegistrationState.call, enableToolsSchemaValidation, firstRefusal, closed, started]
  | start =>
    cases closed : state.closed <;>
      simp [RegistrationState.call, startServer, firstRefusal, closed, started]
  | close => simp [RegistrationState.call, started]

section

variable (validate : V → JsonValue → Bool)

/-- Behind Start the registry stays as it is, whatever calls follow. -/
theorem registry_frozen {next : RegistrationState V}
    (started : state.started = true) {later : List RegistrationCall}
    (executed : (registration compile maxRegistrations).exec state later = some next) :
    next.registry validate = state.registry validate := by
  induction later generalizing state with
  | nil =>
    simp only [Machine.exec, Option.some.injEq] at executed
    rw [executed]
  | cons call rest ih =>
    obtain ⟨still, tables, hooks⟩ :=
      @call_started V compile maxRegistrations state started call
    rw [ih still executed, registry, registry, tables, hooks]

/-- The keys of every table ascend. -/
theorem keys_ascending (state : RegistrationState V)
    (kind : ListKind) : (kind.keys (state.registry validate)).Pairwise (· < ·) := by
  cases kind with
  | resources => exact List.pairwise_map.mpr state.tables.resources.ascending
  | prompts => exact List.pairwise_map.mpr state.tables.prompts.ascending
  | tools => exact List.pairwise_map.mpr state.tables.tools.ascending

/-- No table outgrows a `std::size_t`. -/
theorem entries_length_le (registered : Registered maxRegistrations state) (kind : ListKind) :
    (kind.entries (state.registry validate)).length < 2 ^ 64 := by
  have bound := maxRegistrations.toNat_lt
  have pool := registered.pool
  have tools := registered.tools
  simp only [SortedTable.size] at pool tools
  cases kind <;> simp only [ListKind.entries, registry, List.length_map] <;>
    omega

end

end Frozen

section Answers

variable {options : ServerOptions} {target : JsonValue} {key : Bytes}

/-- Another member is not touched. -/
theorem lookup_setMember_of_ne {other : Bytes} (ne : other ≠ key) (value : JsonValue)
    (members : List (Bytes × JsonValue)) :
    (JsonValue.setMember key value members).lookup other = members.lookup other := by
  induction members with
  | nil => simp [setMember, List.lookup_cons, beq_eq_false_iff_ne.mpr ne]
  | cons first rest ih =>
    obtain ⟨here, old⟩ := first
    rw [setMember]
    by_cases same : here = key
    · rw [if_pos same, List.lookup_cons, List.lookup_cons, same, beq_eq_false_iff_ne.mpr ne]
    · rw [if_neg same, List.lookup_cons, List.lookup_cons, ih]

/-- Setting a member of an object succeeds and leaves the others. -/
theorem set_object (object : target.isObject = true)
    (utf8 : isValidUtf8 key = true) (value : JsonValue) :
    ∃ next, target.set key value = .ok next ∧ next.isObject = true ∧
      ∀ other, other ≠ key → next.find other = target.find other := by
  cases target with
  | object members =>
    refine ⟨.object (JsonValue.setMember key value members), by simp [JsonValue.set, utf8], rfl, ?_⟩
    intro other ne
    exact lookup_setMember_of_ne ne value members
  | _ => simp [JsonValue.isObject] at object

/-- The members that the end of a business method writes. -/
def stampedKeys : List Bytes :=
  [text "resultType", text "ttlMs", text "cacheScope", text "_meta"]

/-- The keys that the server adds are UTF-8. -/
theorem stampedKeys_utf8 : ∀ key ∈ metaKeyServerInfo :: stampedKeys, isValidUtf8 key = true := by
  decide +kernel

/-- A result with its own members left alone. -/
def KeepsMembers (result final : JsonValue) : Prop :=
  final.isObject = true ∧ ∀ key, key ∉ stampedKeys → final.find key = result.find key

/-- Members are kept from step to step. -/
theorem KeepsMembers.trans {first second third : JsonValue} (one : KeepsMembers first second)
    (two : KeepsMembers second third) : KeepsMembers first third :=
  ⟨two.1, fun key fresh => (two.2 key fresh).trans (one.2 key fresh)⟩

/-- Setting one of the members of the server. -/
theorem set_stamped (object : target.isObject = true)
    (stamped : key ∈ stampedKeys) (value : JsonValue) :
    ∃ next, target.set key value = .ok next ∧ KeepsMembers target next := by
  have utf8 := stampedKeys_utf8 key (List.mem_cons_of_mem _ stamped)
  obtain ⟨next, setting, nextObject, others⟩ := set_object object utf8 value
  refine ⟨next, setting, nextObject, ?_⟩
  intro other fresh
  exact others other fun same => fresh (same ▸ stamped)

/-- `ApplyModernResultType` on an object. -/
theorem applyModernResultType_object (object : target.isObject = true) :
    ∃ next, applyModernResultType target = .ok next ∧ KeepsMembers target next := by
  have member : text "resultType" ∈ stampedKeys := by simp [stampedKeys]
  obtain ⟨next, setting, kept⟩ := set_stamped object member (.literal "complete")
  exact ⟨next, by simp [applyModernResultType, object, setting], kept⟩

/-- `ApplyPrivateCacheHints` on an object. -/
theorem applyPrivateCacheHints_object (object : target.isObject = true) :
    ∃ next, applyPrivateCacheHints target = .ok next ∧ KeepsMembers target next := by
  have first : text "ttlMs" ∈ stampedKeys := by simp [stampedKeys]
  have second : text "cacheScope" ∈ stampedKeys := by simp [stampedKeys]
  obtain ⟨timed, timing, timedKept⟩ := set_stamped object first (.int64 0)
  obtain ⟨hinted, hinting, hintedKept⟩ := set_stamped timedKept.1 second (.literal "private")
  refine ⟨hinted, ?_, timedKept.trans hintedKept⟩
  simp [applyPrivateCacheHints, object, timing, hinting, bind, Except.bind]

/-- `StampServerInfo` on an object. -/
theorem stampServerInfo_object {target : JsonValue} (object : target.isObject = true) :
    ∃ next, stampServerInfo target options = .ok next ∧ KeepsMembers target next := by
  have envelope : (((target.find (text "_meta")).filter isObject).getD
      .empty).isObject = true := by
    cases found : (target.find (text "_meta")).filter isObject with
    | none => rfl
    | some value => exact (Option.filter_eq_some_iff.mp found).2
  rw [stampServerInfo]
  split
  · exact ⟨target, rfl, object, fun _ _ => rfl⟩
  · obtain ⟨inner, innerSet, _⟩ := set_object envelope (stampedKeys_utf8 metaKeyServerInfo (by simp))
      (.object [(text "name", .string options.serverName),
        (text "version", .string options.serverVersion)])
    have member : text "_meta" ∈ stampedKeys := by simp [stampedKeys]
    obtain ⟨outer, outerSet, kept⟩ := set_stamped object member inner
    exact ⟨outer, by simp [innerSet, outerSet, bind, Except.bind], kept⟩

/-- The end of a business method answers with its result, and adds only its own members. -/
theorem finishBusiness_object (id : RequestId) (modern cacheable : Bool) {result : JsonValue}
    (object : result.isObject = true) :
    ∃ final, finishBusiness options id modern cacheable result = successOutcome id final ∧
      KeepsMembers result final := by
  cases modern with
  | false => exact ⟨result, by simp [finishBusiness], object, fun _ _ => rfl⟩
  | true =>
    obtain ⟨typed, typing, typedKept⟩ := applyModernResultType_object object
    have hints : ∃ cached, (if cacheable then applyPrivateCacheHints typed else .ok typed) =
        .ok cached ∧ KeepsMembers typed cached := by
      cases cacheable with
      | false => exact ⟨typed, rfl, typedKept.1, fun _ _ => rfl⟩
      | true => exact applyPrivateCacheHints_object typedKept.1
    obtain ⟨cached, caching, cachedKept⟩ := hints
    obtain ⟨final, stamping, finalKept⟩ := @stampServerInfo_object options _ cachedKept.1
    refine ⟨final, ?_, (typedKept.trans cachedKept).trans finalKept⟩
    simp [finishBusiness, typing, caching, stamping, bind, Except.bind]

end Answers

section Cursors

/-- The cursor of a request, when it has one. -/
def requestCursor (params : Option JsonValue) : Option JsonValue :=
  params.bind fun params => params.find (text "cursor")

/-- The position that a cursor stands for in a table. -/
def cursorPosition (total : Nat) (cursor : Option JsonValue) : Option Nat :=
  (parseCursor (cursor.map fun cursor => .object [(text "cursor", cursor)]) total).toOption

/-- `ParseCursor` looks at nothing but the cursor. -/
theorem parseCursor_cursor {params : Option JsonValue}
    (object : params.all JsonValue.isObject = true) (total : Nat) :
    (parseCursor params total).toOption = cursorPosition total (requestCursor params) := by
  cases params with
  | none => rfl
  | some params =>
    have isObject : params.isObject = true := by simpa using object
    cases found : params.find (text "cursor") with
    | none => simp [parseCursor, cursorPosition, requestCursor, isObject, found]
    | some cursor =>
      have alone : (JsonValue.object [(text "cursor", cursor)]).find (text "cursor") =
          some cursor := by
        simp [find]
      have aloneObject : (JsonValue.object [(text "cursor", cursor)]).isObject = true := rfl
      simp only [parseCursor, cursorPosition, requestCursor, isObject, aloneObject, found, alone,
        Option.bind_some, Option.map_some]

/-- A position is never behind the end. -/
theorem cursorPosition_le {total : Nat} {cursor : Option JsonValue} {first : Nat}
    (placed : cursorPosition total cursor = some first) : first ≤ total := by
  cases cursor with
  | none =>
    have zero : 0 = first := by simpa [cursorPosition, parseCursor, Except.toOption] using placed
    omega
  | some cursor =>
    cases digits : cursor.asString with
    | none =>
      simp [cursorPosition, parseCursor, isObject, find, digits,
        Except.toOption] at placed
    | some digits' =>
      simp only [cursorPosition, parseCursor, Option.map_some, isObject, find,
        List.lookup_cons, beq_self_eq_true, digits, Bool.not_true, Bool.false_eq_true,
        if_false] at placed
      split at placed
      · simp [Except.toOption] at placed
      · split at placed
        · simp [Except.toOption] at placed
        · rename_i within
          have same : decimalValue digits' = first := by simpa [Except.toOption] using placed
          omega

/-- The cursor that the server issues for a position stands for it. -/
theorem cursorPosition_issued {total position : Nat} (within : position ≤ total)
    (small : total < 2 ^ 64) :
    cursorPosition total (some (.string (text position.repr))) = some position := by
  have spelled : text position.repr = decimal position := toUTF8_repr position
  have nonempty : (decimal position).isEmpty = false := by
    simp [decimal_ne_nil position]
  have length : (decimal position).length ≤ 20 := by
    exact length_decimal_le (by decide) (by omega)
  have digits : (decimal position).all isAsciiDigit = true := by
    rw [List.all_eq_true]
    intro c member
    have bounds := digit_of_mem_decimal member
    have low : (0x30 : UInt8) ≤ c := UInt8.le_iff_toNat_le.mpr bounds.1
    have high : c ≤ (0x39 : UInt8) := UInt8.le_iff_toNat_le.mpr bounds.2
    simp [isAsciiDigit, low, high]
  have value : decimalValue (decimal position) = position := undecimal_decimal position
  have front : ¬(1 < (decimal position).length ∧ (decimal position).head? = some 0x30) :=
    fun leading => head_decimal leading.1 leading.2
  have word : ¬2 ^ 64 ≤ position := by omega
  have inside : ¬total < position := by omega
  rw [spelled]
  simp only [cursorPosition, parseCursor, Option.map_some, isObject, find,
    List.lookup_cons, beq_self_eq_true, asString, nonempty, Nat.not_lt.mpr length, digits,
    value, front, word, inside, Bool.not_true, Bool.false_eq_true, or_self, if_false,
    Except.toOption]

end Cursors

section Pages

variable {options : ServerOptions}

/-- The page in an answer. -/
def readPage (kind : ListKind) : Dispatched → Option (Page JsonValue JsonValue)
  | .done (.ok (some response)) =>
    (response.find (text "result")).bind fun result =>
      match result.find (text kind.key) with
      | some (.array items) => some ⟨items, result.find (text "nextCursor")⟩
      | _ => none
  | _ => none

/-- The members of a page are not among those that the server adds. -/
theorem key_fresh (kind : ListKind) :
    text kind.key ∉ stampedKeys ∧ text "nextCursor" ∉ stampedKeys ∧
      text "nextCursor" ≠ text kind.key := by
  cases kind <;> simp only [stampedKeys, ListKind.key, List.mem_cons, List.not_mem_nil, or_false,
    text_inj, ne_eq] <;> decide

/-- A list request with a good cursor is answered by a page from there on. -/
theorem readPage_listPage (kind : ListKind) (request : JsonRpcRequest) (modern : Bool)
    (snapshot : List JsonValue) {first : Nat}
    (placed : parseCursor request.params snapshot.length = .ok first)
    (within : first ≤ snapshot.length) (small : snapshot.length < 2 ^ 64) :
    readPage kind (.done (listPage options request modern kind.key snapshot)) =
      some ⟨(snapshot.drop first).take options.pageSize.toNat,
        if first + options.pageSize.toNat < snapshot.length then
          some (.string (text (first + options.pageSize.toNat).repr))
        else none⟩ := by
  obtain ⟨keyFresh, nextFresh, different⟩ := key_fresh kind
  have ends := pageEnd_toNat options.pageSize within small
  generalize options.pageSize.toNat = size at ends ⊢
  have takes : first + min size (snapshot.length - first) - first =
      min size (snapshot.length - first) := by omega
  have taken : (snapshot.drop first).take (min size (snapshot.length - first)) =
      (snapshot.drop first).take size := by
    rw [← List.length_drop, List.take_eq_take_iff]
    omega
  have more : (first + min size (snapshot.length - first) < snapshot.length) =
      (first + size < snapshot.length) := by
    apply propext
    omega
  simp only [listPage, placed, ends, takes, taken, more]
  generalize shown : JsonValue.object _ = result
  have itemsFound : result.find (text kind.key) =
      some (.array ((snapshot.drop first).take size)) := by
    rw [← shown]
    simp [find]
  have behind : (text "nextCursor" == text kind.key) = false := beq_eq_false_iff_ne.mpr different
  have nextFound : result.find (text "nextCursor") =
      if first + size < snapshot.length then some (.string (text (first + size).repr))
      else none := by
    rw [← shown]
    by_cases left : first + size < snapshot.length
    · have whole : min size (snapshot.length - first) = size := by omega
      simp [find, List.lookup_cons, behind, left, whole]
    · simp [find, List.lookup_cons, behind, left]
  have object : result.isObject = true := by
    rw [← shown]
    rfl
  obtain ⟨final, finished, kept⟩ := @finishBusiness_object options request.id modern true _ object
  have answer : (makeSuccessResponse request.id final).find (text "result") = some final := rfl
  rw [finished]
  simp only [readPage, successOutcome, answer, Option.bind_some, kept.2 _ keyFresh,
    kept.2 _ nextFresh, itemsFound, nextFound]

/-- A list method comes to its page. -/
theorem dispatchBusiness_list {registry : Registry} (kind : ListKind) {request : JsonRpcRequest}
    (method : request.method = kind.method) (object : request.params.all isObject = true)
    (modern : Bool) (capabilities : JsonValue) :
    dispatchBusiness options registry request modern capabilities =
      .done (listPage options request modern kind.key (kind.entries registry)) := by
  have passes : (request.params.any fun params => !params.isObject) = false := by
    cases given : request.params with
    | none => rfl
    | some params => simpa [given] using object
  cases kind <;>
    simp [dispatchBusiness, passes, method, ListKind.method, ListKind.key, ListKind.entries,
      text_inj]

/-- A client's requests for one list: they differ in their cursor, and in nothing that the method
looks at. -/
structure Asks (kind : ListKind) (ask : Option JsonValue → JsonRpcRequest) : Prop where
  method : ∀ cursor, (ask cursor).method = kind.method
  object : ∀ cursor, (ask cursor).params.all isObject = true
  cursor : ∀ cursor, requestCursor (ask cursor).params = cursor

/-- What the client reads for a cursor. -/
def servePage (options : ServerOptions) (registry : Registry) (modern : Bool)
    (capabilities : JsonValue) (kind : ListKind) (ask : Option JsonValue → JsonRpcRequest)
    (cursor : Option JsonValue) : Option (Page JsonValue JsonValue) :=
  readPage kind (dispatchBusiness options registry (ask cursor) modern capabilities)

/-- The list methods hand out the pages of their table. -/
theorem listPages_paged {registry : Registry} {kind : ListKind} {modern : Bool}
    {capabilities : JsonValue} {ask : Option JsonValue → JsonRpcRequest} (asks : Asks kind ask)
    (positive : 0 < options.pageSize.toNat) (small : (kind.entries registry).length < 2 ^ 64) :
    Paged (servePage options registry modern capabilities kind ask) (kind.entries registry)
      options.pageSize.toNat (cursorPosition (kind.entries registry).length) where
  size_pos := positive
  begins := rfl
  page := by
    intro cursor first placed
    have within := cursorPosition_le placed
    have parsed : parseCursor (ask cursor).params (kind.entries registry).length = .ok first := by
      have same := parseCursor_cursor (asks.object cursor) (kind.entries registry).length
      rw [asks.cursor, placed] at same
      cases outcome : parseCursor (ask cursor).params (kind.entries registry).length with
      | error error => simp [outcome, Except.toOption] at same
      | ok value =>
        rw [outcome] at same
        simpa [Except.toOption] using same
    have page := @readPage_listPage options kind (ask cursor) modern (kind.entries registry) first
      parsed within small
    rw [← dispatchBusiness_list kind (asks.method cursor) (asks.object cursor) modern
      capabilities] at page
    refine ⟨_, page, ?_⟩
    by_cases more : first + options.pageSize.toNat < (kind.entries registry).length
    · rw [if_pos more, if_pos more]
      exact ⟨rfl, cursorPosition_issued (Nat.le_of_lt more) small⟩
    · rw [if_neg more, if_neg more]

/-- A cursor that stands for no position is refused. -/
theorem list_refused {registry : Registry} {kind : ListKind} {modern : Bool}
    {capabilities : JsonValue} {ask : Option JsonValue → JsonRpcRequest} (asks : Asks kind ask)
    {cursor : Option JsonValue}
    (nowhere : cursorPosition (kind.entries registry).length cursor = none) :
    dispatchBusiness options registry (ask cursor) modern capabilities =
      .done (invalidOutcome (ask cursor).id
        "Invalid params: cursor is not a valid position") := by
  have same := parseCursor_cursor (asks.object cursor) (kind.entries registry).length
  rw [asks.cursor, nowhere] at same
  rw [dispatchBusiness_list kind (asks.method cursor) (asks.object cursor) modern capabilities,
    listPage]
  cases outcome : parseCursor (ask cursor).params (kind.entries registry).length with
  | error error => rfl
  | ok value => simp [outcome, Except.toOption] at same

end Pages

section Enumeration

variable {V : Type} {compile : JsonValue → Except SchemaErrorCode V} {maxRegistrations : UInt64}

/-- Listing enumerates the registry. Once it is frozen no call changes it; its keys ascend; a client
that follows the cursors comes to an end with every entry once, without an empty page among others;
any other cursor is refused or leads to the rest of the same enumeration. -/
theorem list_enumerates (validate : V → JsonValue → Bool) {calls : List RegistrationCall}
    {state : RegistrationState V} (run : (registration compile maxRegistrations).Run calls state)
    (options : ServerOptions) (positive : 1 ≤ options.pageSize) (modern : Bool)
    (capabilities : JsonValue) (kind : ListKind) {ask : Option JsonValue → JsonRpcRequest}
    (asks : Asks kind ask) :
    (state.frozen = true → ∀ later next,
      (registration compile maxRegistrations).exec state later = some next →
        next.registry validate = state.registry validate) ∧
    (kind.keys (state.registry validate)).Pairwise (· < ·) ∧
    (∃ pages, (∀ fuel, (kind.entries (state.registry validate)).length < fuel →
        follow (servePage options (state.registry validate) modern capabilities kind ask) fuel
          none = some pages) ∧
      pages.flatten = kind.entries (state.registry validate) ∧
      (kind.entries (state.registry validate) ≠ [] → [] ∉ pages)) ∧
    ∀ cursor,
      dispatchBusiness options (state.registry validate) (ask cursor) modern capabilities =
          .done (invalidOutcome (ask cursor).id
            "Invalid params: cursor is not a valid position") ∨
        ∃ fuel pages first,
          follow (servePage options (state.registry validate) modern capabilities kind ask) fuel
            cursor = some pages ∧
          pages.flatten = (kind.entries (state.registry validate)).drop first := by
  have registered := registered_of_reachable ⟨calls, run⟩
  have paged := @listPages_paged options (state.registry validate) kind modern capabilities ask asks
    (UInt64.le_iff_toNat_le.mp positive) (entries_length_le validate registered kind)
  refine ⟨?_, keys_ascending validate state kind, paged.follow_all, ?_⟩
  · intro frozen later next executed
    rw [registered.frozen] at frozen
    exact registry_frozen validate frozen executed
  · intro cursor
    cases placed : cursorPosition (kind.entries (state.registry validate)).length cursor with
    | none => exact .inl (list_refused asks placed)
    | some first =>
      obtain ⟨pages, followed, flat, _⟩ := paged.follow_eq placed (Nat.lt_succ_self _)
      exact .inr ⟨_, pages, first, followed, flat⟩

/-- A request for the resources, from a cursor on. -/
def askResources (cursor : Option JsonValue) : JsonRpcRequest where
  id := .int64 1
  method := text "resources/list"
  params := cursor.map fun cursor => .object [(text "cursor", cursor)]

/-- Two resources are listed one to a page. -/
theorem list_enumerates_two :
    ∃ state : RegistrationState Unit, (registration (fun _ => .ok ()) 2).Reachable state ∧
      (ListKind.resources.entries (state.registry fun _ _ => true)).length = 2 ∧
      ∃ pages, (∀ fuel, 2 < fuel →
          follow (servePage { pageSize := 1 } (state.registry fun _ _ => true) true .empty
            .resources askResources) fuel none = some pages) ∧
        pages.flatten = ListKind.resources.entries (state.registry fun _ _ => true) := by
  obtain ⟨state, ⟨calls, run⟩, size⟩ := Machine.exists_reachable
    [.addResource sampleResource true, .addResource { sampleResource with uri := text "a" } true,
      .start]
    (m := registration (fun _ : JsonValue => .ok ()) 2)
    (fun state : RegistrationState Unit => decide (state.tables.resources.size = 2)) rfl
    (by decide +kernel)
  have two : (ListKind.resources.entries (state.registry fun _ _ => true)).length = 2 := by
    simpa [ListKind.entries, registry, SortedTable.size] using
      of_decide_eq_true size
  have asks : Asks .resources askResources :=
    { method := fun _ => rfl
      object := by
        intro cursor
        cases cursor <;> simp [askResources, isObject]
      cursor := by
        intro cursor
        cases cursor <;> simp [askResources, requestCursor, find] }
  obtain ⟨pages, followed, flat, _⟩ := (list_enumerates (fun _ _ => true) run { pageSize := 1 }
    (by decide) true .empty .resources asks).2.2.1
  rw [two] at followed
  exact ⟨state, ⟨calls, run⟩, two, pages, followed, flat⟩

end Enumeration

end BbtInfra.Mcp
