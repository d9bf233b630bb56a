import BbtInfra.Lib.Machine
import BbtInfra.Lib.SortedTable
import BbtInfra.Mcp.Registry
import BbtInfra.Mcp.SchemaTransform

/-!
# Registration

The calls on a server before its Start: three of them register a primitive, and each registered one
takes a place of a pool that the three kinds share. A registration makes all its checks before it
writes, apart from the compilation of a tool's schemas, which fills the tables of the validators.
What the validator makes of a schema is a parameter.
-/
namespace BbtInfra.Mcp

open Lib (Machine SortedTable)

/-- The tables behind `m_registry_mutex` and those of `ToolsSchemaState`. -/
structure RegistryTables (V : Type) where
  resources : SortedTable ResourceDefinition.uri := .empty _
  prompts : SortedTable PromptDefinition.name := .empty _
  tools : SortedTable ToolDefinition.name := .empty _
  inputValidators : Bytes → Option V := fun _ => none
  outputValidators : Bytes → Option V := fun _ => none

/-- What is registered, of all three kinds. -/
def RegistryTables.total {V : Type} (tables : RegistryTables V) : Nat :=
  tables.resources.size + tables.prompts.size + tables.tools.size

/-- A server as far as its registration goes. -/
structure RegistrationState (V : Type) where
  closed : Bool := false
  started : Bool := false
  frozen : Bool := false
  hooksSet : Bool := false
  tables : RegistryTables V := {}

/-- A list of checks with the error of each; the first one that fails refuses. -/
def firstRefusal : List (Bool × Error) → Except Error Unit
  | [] => .ok ()
  | (fails, error) :: rest => if fails then .error error else firstRefusal rest

/-- Nothing refuses when no check fails. -/
theorem firstRefusal_ok {checks : List (Bool × Error)} :
    firstRefusal checks = .ok () ↔ ∀ check ∈ checks, check.1 = false := by
  induction checks with
  | nil => simp [firstRefusal]
  | cons check rest ih =>
    rw [firstRefusal]
    cases fails : check.1 <;> simp [fails, ih]

/-- A refusal has the error of a check that fails. -/
theorem firstRefusal_error {checks : List (Bool × Error)} {error : Error}
    (refused : firstRefusal checks = .error error) : (true, error) ∈ checks := by
  induction checks with
  | nil => simp [firstRefusal] at refused
  | cons check rest ih =>
    obtain ⟨fails, first⟩ := check
    rw [firstRefusal] at refused
    cases fails with
    | false => exact List.mem_cons_of_mem _ (ih (by simpa using refused))
    | true =>
      have same : first = error := by simpa using refused
      rw [same]
      exact List.mem_cons_self

/-- A handler that is missing. -/
def handlerError (message : String) : Error :=
  domainError .invalidArgument "mcp.registry.handler" message

/-- A definition that is not well formed. -/
def definitionError (message : String) : Error :=
  domainError .invalidArgument "mcp.registry.definition" message

/-- A key that is taken. -/
def duplicateError (message : String) : Error :=
  domainError .invalidArgument "mcp.registry.duplicate" message

/-- An annotation that is not supported. -/
def headerAnnotationError : Error :=
  domainError .invalidArgument "mcp.registry.x_mcp_header"
    "x-mcp-header annotation is not supported in v1"

/-- The pool is full. -/
def capacityError : Error :=
  domainError .overloaded "mcp.registry.capacity" "max registrations reached"

section Checks

variable {V : Type} (state : RegistrationState V)

/-- The first checks behind the lock. -/
def lockedChecks : List (Bool × Error) :=
  [(state.closed, domainError .closed "mcp.server.closed" "server is closed"),
    (state.started,
      domainError .invalidContext "mcp.registry.frozen" "registration snapshot is frozen")]

/-- The checks of `AddResource` in front of the capacity. -/
def resourceChecks (definition : ResourceDefinition) (hasHandler : Bool) : List (Bool × Error) :=
  [(!hasHandler, handlerError "resource handler is required"),
    (definition.uri.isEmpty || definition.name.isEmpty,
      definitionError "resource uri and name are required"),
    (!isValidUtf8 definition.uri || !isValidUtf8 definition.name ||
      !isValidUtf8 definition.description || !isValidUtf8 definition.mimeType,
      definitionError "resource text must be valid UTF-8")] ++
  lockedChecks state ++
  [(state.tables.resources.contains definition.uri,
    duplicateError "resource uri already registered")]

/-- The checks of `AddPrompt` in front of the capacity. -/
def promptChecks (definition : PromptDefinition) (hasHandler : Bool) : List (Bool × Error) :=
  [(!hasHandler, handlerError "prompt handler is required"),
    (definition.name.isEmpty, definitionError "prompt name is required"),
    (!isValidUtf8 definition.name || !isValidUtf8 definition.description,
      definitionError "prompt text must be valid UTF-8"),
    (definition.arguments.any fun argument =>
      argument.name.isEmpty || !isValidUtf8 argument.name || !isValidUtf8 argument.description,
      definitionError "prompt argument name must be non-empty valid UTF-8"),
    (!decide (definition.arguments.map PromptArgument.name).Nodup,
      definitionError "duplicate prompt argument name")] ++
  lockedChecks state ++
  [(state.tables.prompts.contains definition.name,
    duplicateError "prompt name already registered")]

/-- Whether a schema has the annotation at its root or at one of its properties. -/
def declaresHeader (schema : JsonValue) : Bool :=
  (schema.find (text "x-mcp-header")).isSome ||
    ((schema.find (text "properties")).filter JsonValue.isObject).any fun properties =>
      (properties.keys.getD []).any fun key =>
        (properties.find key).any fun property =>
          property.isObject && (property.find (text "x-mcp-header")).isSome

/-- The checks of `AddTool` in front of the capacity. The hooks come before the duplicate. -/
def toolChecks (definition : ToolDefinition) (hasHandler : Bool) : List (Bool × Error) :=
  [(!hasHandler, handlerError "tool handler is required"),
    (definition.name.isEmpty, definitionError "tool name is required"),
    (!isValidUtf8 definition.name || !isValidUtf8 definition.title ||
      !isValidUtf8 definition.description,
      definitionError "tool text must be valid UTF-8"),
    (decide ((definition.inputSchema.find (text "type")).bind JsonValue.asString ≠
      some (text "object")), definitionError "tool input_schema root type must be object"),
    (definition.outputSchema.any fun schema => !schema.isObject,
      definitionError "tool output_schema must be an object"),
    (declaresHeader definition.inputSchema, headerAnnotationError)] ++
  lockedChecks state ++
  [(!state.hooksSet, domainError .invalidContext "mcp.tools.schema_disabled"
      "tools schema validation is not enabled"),
    (state.tables.tools.contains definition.name, duplicateError "tool name already registered")]

end Checks

/-- What a schema that does not compile is refused with. -/
def schemaError (which : String) (code : SchemaErrorCode) : Error :=
  domainError .invalidArgument "mcp.tools.schema" (which ++
    match code with
    | .externalRef => " external ref rejected"
    | .limitExceeded => " limits exceeded"
    | .unsupported => " unsupported construct"
    | .invalidSchema | .regexInvalid | .internal => " rejected")

/-- The calls. A registration says whether its handler is set. -/
inductive RegistrationCall
  | addResource (definition : ResourceDefinition) (hasHandler : Bool)
  | addPrompt (definition : PromptDefinition) (hasHandler : Bool)
  | addTool (definition : ToolDefinition) (hasHandler : Bool)
  | enableToolsSchemaValidation
  | start
  | close

section Calls

variable {V : Type} (compile : JsonValue → Except SchemaErrorCode V) (maxRegistrations : UInt64)
  (state : RegistrationState V)

/-- `AddResource`. -/
def addResource (definition : ResourceDefinition) (hasHandler : Bool) :
    Except Error Unit × RegistrationState V :=
  match firstRefusal (resourceChecks state definition hasHandler) with
  | .error error => (.error error, state)
  | .ok () =>
    if maxRegistrations.toNat ≤ state.tables.resources.size + state.tables.prompts.size then
      (.error capacityError, state)
    else
      (.ok (), { state with tables :=
        { state.tables with resources := state.tables.resources.emplace definition } })

/-- `AddPrompt`. -/
def addPrompt (definition : PromptDefinition) (hasHandler : Bool) :
    Except Error Unit × RegistrationState V :=
  match firstRefusal (promptChecks state definition hasHandler) with
  | .error error => (.error error, state)
  | .ok () =>
    if maxRegistrations.toNat ≤ state.tables.resources.size + state.tables.prompts.size then
      (.error capacityError, state)
    else
      (.ok (), { state with tables :=
        { state.tables with prompts := state.tables.prompts.emplace definition } })

/-- `compile` of the hooks. -/
def compileTool (tables : RegistryTables V) (definition : ToolDefinition) :
    Except Error Unit × RegistryTables V :=
  match compile definition.inputSchema with
  | .error code => (.error (schemaError "tool input schema" code), tables)
  | .ok input =>
    let compiled := { tables with
      inputValidators := Function.update tables.inputValidators definition.name (some input) }
    match definition.outputSchema with
    | none => (.ok (), compiled)
    | some schema =>
      match compile schema with
      | .error code =>
        (.error (schemaError "tool output schema" code), { compiled with
          inputValidators := Function.update compiled.inputValidators definition.name none })
      | .ok output =>
        (.ok (), { compiled with
          outputValidators :=
            Function.update compiled.outputValidators definition.name (some output) })

/-- `AddTool`. -/
def addTool (definition : ToolDefinition) (hasHandler : Bool) :
    Except Error Unit × RegistrationState V :=
  match firstRefusal (toolChecks state definition hasHandler) with
  | .error error => (.error error, state)
  | .ok () =>
    if maxRegistrations.toNat ≤ state.tables.total then (.error capacityError, state)
    else
      match compileTool compile state.tables definition with
      | (.error error, tables) => (.error error, { state with tables })
      | (.ok (), tables) =>
        (.ok (), { state with tables := { tables with tools := tables.tools.emplace definition } })

/-- `EnableToolsSchemaValidation`. -/
def enableToolsSchemaValidation : Except Error Unit × RegistrationState V :=
  match firstRefusal
      [(state.closed, domainError .closed "mcp.server.closed" "server is closed"),
        (state.started,
          domainError .invalidContext "mcp.tools.frozen" "registration snapshot is frozen"),
        (state.hooksSet, domainError .invalidContext "mcp.tools.already_enabled"
          "tools schema validation already enabled")] with
  | .error error => (.error error, state)
  | .ok () =>
    (.ok (), { state with
      hooksSet := true
      tables := { state.tables with
        inputValidators := fun _ => none
        outputValidators := fun _ => none } })

/-- `Start`. -/
def startServer : Except Error Unit × RegistrationState V :=
  match firstRefusal
      [(state.closed, domainError .closed "mcp.server.closed" "server is closed"),
        (state.started,
          domainError .invalidContext "mcp.server.started" "server already started")] with
  | .error error => (.error error, state)
  | .ok () => (.ok (), { state with frozen := true, started := true })

/-- What a call returns and leaves. -/
def RegistrationState.call : RegistrationCall → Except Error Unit × RegistrationState V
  | .addResource definition hasHandler => addResource maxRegistrations state definition hasHandler
  | .addPrompt definition hasHandler => addPrompt maxRegistrations state definition hasHandler
  | .addTool definition hasHandler => addTool compile maxRegistrations state definition hasHandler
  | .enableToolsSchemaValidation => enableToolsSchemaValidation state
  | .start => startServer state
  | .close => (.ok (), { state with closed := true })

end Calls

/-- A server under the calls of its owner, from its creation on. -/
def registration {V : Type} (compile : JsonValue → Except SchemaErrorCode V)
    (maxRegistrations : UInt64) : Machine (RegistrationState V) RegistrationCall where
  start state := state = {}
  step state call := some (state.call compile maxRegistrations call).2

end BbtInfra.Mcp
