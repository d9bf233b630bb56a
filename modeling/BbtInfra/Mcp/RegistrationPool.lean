import BbtInfra.Mcp.Registration

/-!
# The pool of registrations

`AddTool` tests the pool with the entries of all three kinds, `AddResource` and `AddPrompt` leave
the tools out. The bound holds as long as the difference does not decide: a resource or a prompt is
not asked for while the tools hold what is left of the pool.
-/
namespace BbtInfra.Mcp

open RegistryTables

open Lib (Machine SortedTable)

section Capacity

variable {V : Type} (compile : JsonValue → Except SchemaErrorCode V) (maxRegistrations : UInt64)

/-- Whether a registration gets as far as the test of the capacity. -/
def RegistrationState.eligible (state : RegistrationState V) : RegistrationCall → Bool
  | .addResource definition hasHandler =>
    (resourceChecks state definition hasHandler).all fun check => !check.1
  | .addPrompt definition hasHandler =>
    (promptChecks state definition hasHandler).all fun check => !check.1
  | .addTool definition hasHandler =>
    (toolChecks state definition hasHandler).all fun check => !check.1
  | .enableToolsSchemaValidation | .start | .close => false

/-- The entries that the test of a call counts. -/
def RegistryTables.charged (tables : RegistryTables V) : RegistrationCall → Nat
  | .addResource _ _ | .addPrompt _ _ => tables.resources.size + tables.prompts.size
  | .addTool _ _ | .enableToolsSchemaValidation | .start | .close => tables.total

/-- A call is refused because the pool is full. -/
def refusedForCapacity : Except Error Unit → Prop
  | .error error => error.code = .overloaded
  | .ok () => False

/-- The call does not ask for a resource or a prompt while only the tools fill the pool. -/
def ToolsLeaveRoom (state : RegistrationState V) (call : RegistrationCall) : Prop :=
  state.eligible call = true → maxRegistrations.toNat ≤ state.tables.total →
    maxRegistrations.toNat ≤ state.tables.charged call

/-- A test counts no more than there is. -/
theorem charged_le_total (tables : RegistryTables V) (call : RegistrationCall) :
    tables.charged call ≤ tables.total := by
  cases call <;> simp only [charged, total] <;> omega

variable {checks : List (Bool × Error)} {state : RegistrationState V} {hasHandler : Bool}
  {check : Bool × Error}

/-- Checks that all pass refuse nothing. -/
theorem firstRefusal_of_all
    (passed : (checks.all fun check => !check.1) = true) : firstRefusal checks = .ok () := by
  rw [firstRefusal_ok]
  intro check member
  have holds := List.all_eq_true.mp passed check member
  simpa using holds

/-- Checks that refuse nothing all pass. -/
theorem all_of_firstRefusal
    (passed : firstRefusal checks = .ok ()) : (checks.all fun check => !check.1) = true := by
  rw [List.all_eq_true]
  intro check member
  simp [firstRefusal_ok.mp passed check member]

/-- Checks that do not all pass refuse with the error of one of them. -/
theorem exists_refusal (failed : (checks.all fun check => !check.1) = false) :
    ∃ error, firstRefusal checks = .error error ∧ (true, error) ∈ checks := by
  cases outcome : firstRefusal checks with
  | error error => exact ⟨error, rfl, firstRefusal_error outcome⟩
  | ok => simp [all_of_firstRefusal outcome] at failed

/-- None of the checks is about the pool. -/
theorem resourceChecks_code {definition : ResourceDefinition}
    (member : check ∈ resourceChecks state definition hasHandler) : check.2.code ≠ .overloaded := by
  simp only [resourceChecks, lockedChecks, List.mem_append, List.mem_cons, List.not_mem_nil,
    or_false] at member
  rcases member with ((rfl | rfl | rfl) | rfl | rfl) | rfl <;>
    simp [handlerError, definitionError, duplicateError, domainError, makeError]

/-- None of the checks is about the pool. -/
theorem promptChecks_code {definition : PromptDefinition}
    (member : check ∈ promptChecks state definition hasHandler) : check.2.code ≠ .overloaded := by
  simp only [promptChecks, lockedChecks, List.mem_append, List.mem_cons, List.not_mem_nil,
    or_false] at member
  rcases member with ((rfl | rfl | rfl | rfl | rfl) | rfl | rfl) | rfl <;>
    simp [handlerError, definitionError, duplicateError, domainError, makeError]

/-- None of the checks is about the pool. -/
theorem toolChecks_code {definition : ToolDefinition}
    (member : check ∈ toolChecks state definition hasHandler) : check.2.code ≠ .overloaded := by
  simp only [toolChecks, lockedChecks, List.mem_append, List.mem_cons, List.not_mem_nil,
    or_false] at member
  rcases member with ((rfl | rfl | rfl | rfl | rfl | rfl) | rfl | rfl) | rfl | rfl <;>
    simp [handlerError, definitionError, duplicateError, headerAnnotationError, domainError,
      makeError]

end Capacity

section Calls

variable {V : Type} (compile : JsonValue → Except SchemaErrorCode V) {maxRegistrations : UInt64}

/-- The tables of the validators follow the tools, and none of the bounds is passed by itself. -/
structure Registered (maxRegistrations : UInt64) (state : RegistrationState V) : Prop where
  compiled : ∀ name, (state.tables.inputValidators name).isSome = state.tables.tools.contains name
  compiledOutput : ∀ name, (state.tables.outputValidators name).isSome = true →
    state.tables.tools.contains name = true
  hooked : state.hooksSet = false → state.tables.tools = .empty _
  pool : state.tables.resources.size + state.tables.prompts.size ≤ maxRegistrations.toNat
  tools : state.tables.tools.size ≤ maxRegistrations.toNat
  frozen : state.frozen = state.started

/-- A failed compilation leaves no half of a record behind. -/
theorem compileTool_cases {tables : RegistryTables V} {definition : ToolDefinition}
    (fresh : tables.inputValidators definition.name = none) :
    (∃ error, compileTool compile tables definition = (.error error, tables) ∧
      error.code ≠ .overloaded) ∨
    ∃ input outputs, compileTool compile tables definition = (.ok (), { tables with
        inputValidators := Function.update tables.inputValidators definition.name (some input)
        outputValidators := outputs }) ∧
      ∀ name, name ≠ definition.name → outputs name = tables.outputValidators name := by
  have rejected : ∀ which code, (schemaError which code).code ≠ .overloaded := by
    intro _ _
    simp [schemaError, domainError, makeError]
  have erased : Function.update tables.inputValidators definition.name none =
      tables.inputValidators := by
    rw [← fresh]
    exact Function.update_eq_self _ _
  cases first : compile definition.inputSchema with
  | error code =>
    refine .inl ⟨_, ?_, rejected "tool input schema" code⟩
    simp [compileTool, first]
  | ok input =>
    cases declared : definition.outputSchema with
    | none =>
      exact .inr ⟨input, tables.outputValidators, by simp [compileTool, first, declared],
        fun _ _ => rfl⟩
    | some schema =>
      cases second : compile schema with
      | error code =>
        refine .inl ⟨_, ?_, rejected "tool output schema" code⟩
        simp [compileTool, first, declared, second, erased]
      | ok output =>
        refine .inr ⟨input, Function.update tables.outputValidators definition.name (some output),
          by simp [compileTool, first, declared, second], ?_⟩
        intro name other
        exact Function.update_of_ne other _ _

/-- A call that does not reach the test of the capacity registers nothing. -/
theorem call_ineligible {state : RegistrationState V} {call : RegistrationCall}
    (ineligible : state.eligible call = false) :
    ¬refusedForCapacity (state.call compile maxRegistrations call).1 ∧
      (∀ error, (state.call compile maxRegistrations call).1 = .error error →
        (state.call compile maxRegistrations call).2 = state) ∧
      (state.call compile maxRegistrations call).2.tables.resources = state.tables.resources ∧
      (state.call compile maxRegistrations call).2.tables.prompts = state.tables.prompts ∧
      (state.call compile maxRegistrations call).2.tables.tools = state.tables.tools := by
  cases call with
  | addResource definition hasHandler =>
    obtain ⟨error, refused, member⟩ := exists_refusal ineligible
    have code := resourceChecks_code member
    simp [RegistrationState.call, addResource, refused, refusedForCapacity, code]
  | addPrompt definition hasHandler =>
    obtain ⟨error, refused, member⟩ := exists_refusal ineligible
    have code := promptChecks_code member
    simp [RegistrationState.call, addPrompt, refused, refusedForCapacity, code]
  | addTool definition hasHandler =>
    obtain ⟨error, refused, member⟩ := exists_refusal ineligible
    have code := toolChecks_code member
    simp [RegistrationState.call, addTool, refused, refusedForCapacity, code]
  | enableToolsSchemaValidation =>
    cases closed : state.closed <;> cases started : state.started <;>
      cases set : state.hooksSet <;>
        simp [RegistrationState.call, enableToolsSchemaValidation, firstRefusal, closed, started,
          set, refusedForCapacity, domainError, makeError]
  | start =>
    cases closed : state.closed <;> cases started : state.started <;>
      simp [RegistrationState.call, startServer, firstRefusal, closed, started,
        refusedForCapacity, domainError, makeError]
  | close => simp [RegistrationState.call, refusedForCapacity]

variable {state : RegistrationState V} {call : RegistrationCall} {hasHandler : Bool}

/-- A call that finds the pool full changes nothing. -/
theorem call_full (eligible : state.eligible call = true)
    (full : maxRegistrations.toNat ≤ state.tables.charged call) :
    state.call compile maxRegistrations call = (.error capacityError, state) := by
  cases call with
  | addResource definition hasHandler =>
    have passed := firstRefusal_of_all eligible
    simp only [charged] at full
    simp [RegistrationState.call, addResource, passed, full]
  | addPrompt definition hasHandler =>
    have passed := firstRefusal_of_all eligible
    simp only [charged] at full
    simp [RegistrationState.call, addPrompt, passed, full]
  | addTool definition hasHandler =>
    have passed := firstRefusal_of_all eligible
    simp only [charged] at full
    simp [RegistrationState.call, addTool, passed, full]
  | enableToolsSchemaValidation | start | close => simp [RegistrationState.eligible] at eligible

/-- The key of an eligible resource is free. -/
theorem resource_free {definition : ResourceDefinition}
    (eligible : state.eligible (.addResource definition hasHandler) = true) :
    state.tables.resources.contains definition.uri = false := by
  have last := firstRefusal_ok.mp (firstRefusal_of_all eligible)
    (state.tables.resources.contains definition.uri,
      duplicateError "resource uri already registered") (by simp [resourceChecks])
  exact last

/-- The key of an eligible prompt is free. -/
theorem prompt_free {definition : PromptDefinition}
    (eligible : state.eligible (.addPrompt definition hasHandler) = true) :
    state.tables.prompts.contains definition.name = false := by
  have last := firstRefusal_ok.mp (firstRefusal_of_all eligible)
    (state.tables.prompts.contains definition.name,
      duplicateError "prompt name already registered") (by simp [promptChecks])
  exact last

/-- The key of an eligible tool is free, and the hooks are set. -/
theorem tool_free {definition : ToolDefinition}
    (eligible : state.eligible (.addTool definition hasHandler) = true) :
    state.tables.tools.contains definition.name = false ∧ state.hooksSet = true := by
  have passed := firstRefusal_ok.mp (firstRefusal_of_all eligible)
  have duplicate := passed (state.tables.tools.contains definition.name,
    duplicateError "tool name already registered") (by simp [toolChecks])
  have hooks := passed (!state.hooksSet, domainError .invalidContext "mcp.tools.schema_disabled"
    "tools schema validation is not enabled") (by simp [toolChecks])
  exact ⟨duplicate, by simpa using hooks⟩

section

variable (registered : Registered maxRegistrations state)

include registered

/-- An eligible call that finds room adds one entry, unless a schema does not compile. -/
theorem call_room (eligible : state.eligible call = true)
    (room : state.tables.charged call < maxRegistrations.toNat) :
    (∃ error, state.call compile maxRegistrations call = (.error error, state) ∧
      error.code ≠ .overloaded ∧ state.tables.charged call = state.tables.total) ∨
    ∃ next, state.call compile maxRegistrations call = (.ok (), next) ∧
      Registered maxRegistrations next ∧ next.tables.total = state.tables.total + 1 := by
  cases call with
  | addResource definition hasHandler =>
    have passed := firstRefusal_of_all eligible
    have grows := SortedTable.size_emplace (resource_free eligible)
    simp only [charged] at room
    have accepted : state.call compile maxRegistrations (.addResource definition hasHandler) =
        (.ok (), { state with tables :=
          { state.tables with resources := state.tables.resources.emplace definition } }) := by
      simp [RegistrationState.call, addResource, passed, Nat.not_le.mpr room]
    refine .inr ⟨_, accepted, ⟨registered.compiled, registered.compiledOutput, registered.hooked, ?_, registered.tools,
        registered.frozen⟩, ?_⟩
    · simp only [grows]
      omega
    · simp only [total, grows]
      omega
  | addPrompt definition hasHandler =>
    have passed := firstRefusal_of_all eligible
    have grows := SortedTable.size_emplace (prompt_free eligible)
    simp only [charged] at room
    have accepted : state.call compile maxRegistrations (.addPrompt definition hasHandler) =
        (.ok (), { state with tables :=
          { state.tables with prompts := state.tables.prompts.emplace definition } }) := by
      simp [RegistrationState.call, addPrompt, passed, Nat.not_le.mpr room]
    refine .inr ⟨_, accepted, ⟨registered.compiled, registered.compiledOutput, registered.hooked, ?_, registered.tools,
        registered.frozen⟩, ?_⟩
    · simp only [grows]
      omega
    · simp only [total, grows]
      omega
  | addTool definition hasHandler =>
    have passed := firstRefusal_of_all eligible
    obtain ⟨free, hooks⟩ := tool_free eligible
    have grows := SortedTable.size_emplace free
    have fresh : state.tables.inputValidators definition.name = none := by
      have tracked := registered.compiled definition.name
      rw [free] at tracked
      simpa using tracked
    simp only [charged] at room
    rcases compileTool_cases compile fresh with
      ⟨error, failed, code⟩ | ⟨input, outputs, compiled, others⟩
    · refine .inl ⟨error, ?_, code, rfl⟩
      simp [RegistrationState.call, addTool, passed, Nat.not_le.mpr room, failed]
    · have accepted : state.call compile maxRegistrations (.addTool definition hasHandler) =
          (.ok (), { state with tables := { state.tables with
            tools := state.tables.tools.emplace definition
            inputValidators :=
              Function.update state.tables.inputValidators definition.name (some input)
            outputValidators := outputs } }) := by
        simp [RegistrationState.call, addTool, passed, Nat.not_le.mpr room, compiled]
      have keys : ∀ name, (state.tables.tools.emplace definition).contains name = true ↔
          definition.name = name ∨ state.tables.tools.contains name = true :=
        fun name => SortedTable.contains_emplace free
      refine .inr ⟨_, accepted, ⟨?_, ?_, ?_, registered.pool, ?_, registered.frozen⟩, ?_⟩
      · intro name
        by_cases same : definition.name = name
        · rw [(keys name).mpr (.inl same), ← same]
          simp
        · simp only [Function.update_of_ne (Ne.symm same), registered.compiled name]
          rw [Bool.eq_iff_iff, keys]
          simp [same]
      · intro name some_output
        refine (keys name).mpr ?_
        by_cases same : definition.name = name
        · exact .inl same
        · refine .inr (registered.compiledOutput name ?_)
          rw [← others name (Ne.symm same)]
          exact some_output
      · simp [hooks]
      · simp only [grows]
        have part : state.tables.tools.size ≤ state.tables.total := by
          simp only [total]
          omega
        omega
      · simp only [total, grows]
        omega
  | enableToolsSchemaValidation | start | close => simp [RegistrationState.eligible] at eligible

/-- Every call keeps the tables in step. -/
theorem Registered.called (call : RegistrationCall) :
    Registered maxRegistrations (state.call compile maxRegistrations call).2 := by
  by_cases eligible : state.eligible call = true
  · by_cases full : maxRegistrations.toNat ≤ state.tables.charged call
    · rw [call_full compile eligible full]
      exact registered
    · rcases call_room compile registered eligible (Nat.not_le.mp full) with
        ⟨error, refused, _⟩ | ⟨next, accepted, kept, _⟩
      · rw [refused]
        exact registered
      · rw [accepted]
        exact kept
  · have ineligible := Bool.eq_false_iff.mpr eligible
    cases call with
    | addResource definition hasHandler =>
      obtain ⟨error, refused, _⟩ := exists_refusal ineligible
      simpa [RegistrationState.call, addResource, refused] using registered
    | addPrompt definition hasHandler =>
      obtain ⟨error, refused, _⟩ := exists_refusal ineligible
      simpa [RegistrationState.call, addPrompt, refused] using registered
    | addTool definition hasHandler =>
      obtain ⟨error, refused, _⟩ := exists_refusal ineligible
      simpa [RegistrationState.call, addTool, refused] using registered
    | enableToolsSchemaValidation =>
      simp only [RegistrationState.call, enableToolsSchemaValidation]
      split
      case h_1 => exact registered
      case h_2 passed =>
        have unset : state.hooksSet = false := firstRefusal_ok.mp passed
          (state.hooksSet, domainError .invalidContext "mcp.tools.already_enabled"
            "tools schema validation already enabled") (by simp)
        have none_yet := registered.hooked unset
        refine ⟨?_, ?_, ?_, registered.pool, registered.tools, registered.frozen⟩
        · intro name
          simp [none_yet, SortedTable.contains, SortedTable.empty]
        · intro name some_output
          simp at some_output
        · intro set
          simp at set
    | start =>
      simp only [RegistrationState.call, startServer]
      split
      case h_1 => exact registered
      case h_2 =>
        exact ⟨registered.compiled, registered.compiledOutput, registered.hooked, registered.pool,
          registered.tools, rfl⟩
    | close =>
      exact ⟨registered.compiled, registered.compiledOutput, registered.hooked, registered.pool,
        registered.tools, registered.frozen⟩

/-- A refused call leaves the server as it was. -/
theorem call_refused
    {error : Error} (refused : (state.call compile maxRegistrations call).1 = .error error) :
    (state.call compile maxRegistrations call).2 = state := by
  by_cases eligible : state.eligible call = true
  · by_cases full : maxRegistrations.toNat ≤ state.tables.charged call
    · rw [call_full compile eligible full]
    · rcases call_room compile registered eligible (Nat.not_le.mp full) with
        ⟨other, failed, _⟩ | ⟨next, accepted, _⟩
      · rw [failed]
      · rw [accepted] at refused
        simp at refused
  · exact (call_ineligible compile (Bool.eq_false_iff.mpr eligible)).2.1 error refused

/-- A call is refused for the pool when the entries that it counts fill it. -/
theorem refusedForCapacity_iff (call : RegistrationCall) :
    refusedForCapacity (state.call compile maxRegistrations call).1 ↔
      state.eligible call = true ∧ maxRegistrations.toNat ≤ state.tables.charged call := by
  by_cases eligible : state.eligible call = true
  · by_cases full : maxRegistrations.toNat ≤ state.tables.charged call
    · simp [call_full compile eligible full, refusedForCapacity, eligible, full, capacityError,
        domainError, makeError]
    · rcases call_room compile registered eligible (Nat.not_le.mp full) with
        ⟨error, failed, code, _⟩ | ⟨next, accepted, _⟩
      · simp [failed, refusedForCapacity, code, full]
      · simp [accepted, refusedForCapacity, full]
  · have elsewhere : ¬refusedForCapacity (state.call compile maxRegistrations call).1 :=
      (call_ineligible compile (Bool.eq_false_iff.mpr eligible)).1
    simp [eligible, elsewhere]

/-- The verdict of the pool goes by the total when the tools leave room, and only then. -/
theorem capacity_by_total_iff (call : RegistrationCall) :
    (refusedForCapacity (state.call compile maxRegistrations call).1 ↔
      state.eligible call = true ∧ maxRegistrations.toNat ≤ state.tables.total) ↔
    ToolsLeaveRoom maxRegistrations state call := by
  rw [refusedForCapacity_iff compile registered call]
  have fewer := charged_le_total state.tables call
  constructor
  · intro same eligible full
    exact (same.mpr ⟨eligible, full⟩).2
  · intro room
    constructor
    · rintro ⟨eligible, full⟩
      exact ⟨eligible, full.trans fewer⟩
    · rintro ⟨eligible, full⟩
      exact ⟨eligible, room eligible full⟩

/-- What one call does to the total. -/
theorem total_call (call : RegistrationCall) :
    (state.call compile maxRegistrations call).2.tables.total =
      if state.eligible call = true ∧ state.tables.charged call < maxRegistrations.toNat ∧
          (state.call compile maxRegistrations call).1 = .ok () then
        state.tables.total + 1
      else state.tables.total := by
  by_cases eligible : state.eligible call = true
  · by_cases full : maxRegistrations.toNat ≤ state.tables.charged call
    · simp [call_full compile eligible full]
    · rcases call_room compile registered eligible (Nat.not_le.mp full) with
        ⟨error, failed, _⟩ | ⟨next, accepted, _, grows⟩
      · simp [failed]
      · simp [accepted, grows, eligible, Nat.not_le.mp full]
  · have ineligible := Bool.eq_false_iff.mpr eligible
    obtain ⟨_, _, resources, prompts, tools⟩ :=
      @call_ineligible V compile maxRegistrations state call ineligible
    simp [total, resources, prompts, tools, eligible]

/-- Where the tools leave room no call takes the total past the bound. -/
theorem total_call_le (room : ToolsLeaveRoom maxRegistrations state call)
    (within : state.tables.total ≤ maxRegistrations.toNat) :
    (state.call compile maxRegistrations call).2.tables.total ≤ maxRegistrations.toNat := by
  rw [total_call compile registered call]
  split
  case isTrue accepted =>
    have below : state.tables.total < maxRegistrations.toNat := by
      by_contra full
      exact Nat.not_le.mpr accepted.2.1 (room accepted.1 (Nat.not_lt.mp full))
    omega
  case isFalse => exact within

/-- A call that keeps the total within the bound is one for which the tools leave room. -/
theorem toolsLeaveRoom_of_total
    (within : (state.call compile maxRegistrations call).2.tables.total ≤
      maxRegistrations.toNat) :
    ToolsLeaveRoom maxRegistrations state call := by
  intro eligible full
  by_contra short
  rcases call_room compile registered eligible (Nat.not_le.mp short) with
    ⟨error, _, _, charged⟩ | ⟨next, accepted, _, grows⟩
  · rw [charged] at short
    exact short full
  · rw [accepted] at within
    simp only at within
    omega

end

end Calls

section Runs

variable {V : Type} {compile : JsonValue → Except SchemaErrorCode V} {maxRegistrations : UInt64}

/-- The tables are in step in every reachable state. -/
theorem registered_of_reachable {state : RegistrationState V}
    (reachable : (registration compile maxRegistrations).Reachable state) :
    Registered maxRegistrations state := by
  refine reachable.invariant (Registered maxRegistrations) ?_ ?_
  · rintro state rfl
    exact ⟨fun _ => rfl, fun _ some_output => by simp at some_output, fun _ => rfl,
      Nat.zero_le _, Nat.zero_le _, rfl⟩
  · intro state call next registered stepped
    simp only [registration, Option.some.injEq] at stepped
    exact stepped ▸ registered.called compile call

/-- The bound holds along every run in which the tools leave room. -/
theorem total_le_of_guardedRun {calls : List RegistrationCall} {state : RegistrationState V}
    (run : (registration compile maxRegistrations).GuardedRun (ToolsLeaveRoom maxRegistrations)
      calls state) : state.tables.total ≤ maxRegistrations.toNat := by
  refine run.reachableInvariant (fun state => state.tables.total ≤ maxRegistrations.toNat) ?_ ?_
  · rintro state rfl
    exact Nat.zero_le _
  · intro state call next reachable within room stepped
    cases stepped
    exact total_call_le compile (registered_of_reachable reachable) room within

/-- The pool of the registrations: a run keeps the bound at each of its steps exactly when the
tools leave room at each of them, which is also when the verdict of the pool goes by the total. A
refused call changes nothing in any run. -/
theorem registration_pool_exact {calls : List RegistrationCall} {state : RegistrationState V}
    (run : (registration compile maxRegistrations).Run calls state) :
    ((registration compile maxRegistrations).GuardedRun (ToolsLeaveRoom maxRegistrations)
        calls state ↔
      (registration compile maxRegistrations).GuardedRun (fun before call =>
        (before.call compile maxRegistrations call).2.tables.total ≤ maxRegistrations.toNat)
        calls state) ∧
    ((registration compile maxRegistrations).GuardedRun (ToolsLeaveRoom maxRegistrations)
      calls state → state.tables.total ≤ maxRegistrations.toNat) ∧
    (∀ call, ((refusedForCapacity (state.call compile maxRegistrations call).1 ↔
        state.eligible call = true ∧ maxRegistrations.toNat ≤ state.tables.total) ↔
      ToolsLeaveRoom maxRegistrations state call)) ∧
    ∀ call error, (state.call compile maxRegistrations call).1 = .error error →
      (state.call compile maxRegistrations call).2 = state := by
  have registered := registered_of_reachable ⟨calls, run⟩
  refine ⟨⟨?_, ?_⟩, total_le_of_guardedRun, capacity_by_total_iff compile registered,
    fun call error refused => call_refused compile registered refused⟩
  · intro guarded
    clear run registered
    induction guarded with
    | start begun => exact .start begun
    | @step labels before call next guarded room stepped ih =>
      have registered := registered_of_reachable guarded.reachable
      have within := total_le_of_guardedRun guarded
      exact .step ih (total_call_le compile registered room within) stepped
  · intro bounded
    refine bounded.mono_reachable fun before call reachable within => ?_
    exact toolsLeaveRoom_of_total compile (registered_of_reachable reachable) within

/-- A resource and a tool that every check lets pass. -/
def sampleResource : ResourceDefinition := { uri := text "r", name := text "r" }

@[inherit_doc sampleResource]
def sampleTool : ToolDefinition where
  name := text "t"
  inputSchema := .object [(text "type", .literal "object")]

/-- A tool takes the one place of a pool, and a resource is accepted behind it. -/
theorem resource_beside_tool :
    ∃ state : RegistrationState Unit, (registration (fun _ => .ok ()) 1).Reachable state ∧
      1 < state.tables.total := by
  have reached := Machine.exists_reachable
    [.enableToolsSchemaValidation, .addTool sampleTool true, .addResource sampleResource true]
    (m := registration (fun _ : JsonValue => .ok ()) 1)
    (fun state : RegistrationState Unit => decide (1 < state.tables.total)) rfl (by decide +kernel)
  simpa using reached

/-- In a pool of two they both have a place, and the next call is refused by the total. -/
theorem registration_pool_exact_two :
    ∃ state : RegistrationState Unit, (registration (fun _ => .ok ()) 2).Reachable state ∧
      state.tables.total = 2 ∧
      ∀ call, (refusedForCapacity (state.call (fun _ => .ok ()) 2 call).1 ↔
          state.eligible call = true ∧ 2 ≤ state.tables.total) ↔
        ToolsLeaveRoom 2 state call := by
  obtain ⟨state, ⟨calls, run⟩, total⟩ := Machine.exists_reachable
    [.enableToolsSchemaValidation, .addTool sampleTool true, .addResource sampleResource true]
    (m := registration (fun _ : JsonValue => .ok ()) 2)
    (fun state : RegistrationState Unit => decide (state.tables.total = 2)) rfl (by decide +kernel)
  exact ⟨state, ⟨calls, run⟩, by simpa using total, (registration_pool_exact run).2.2.1⟩

end Runs

end BbtInfra.Mcp
