import BbtInfra.Mcp.Capabilities

/-!
# The registered primitives and the methods of the server

The dispatch of one request up to the first thing that it shares with other threads: a callback, a
subscription or the state of its session. The registry is frozen before any request is admitted.
What a callback returns is turned into an answer here, too.
-/
namespace BbtInfra.Mcp

/-- The fields of `ServerOptions` that a request meets. -/
structure ServerOptions where
  serverName : Bytes := text "bbt-infra-mcp"
  serverVersion : Bytes := text "0.1.0"
  instructions : Option Bytes := none
  maxMessageBytes : Nat := 1 <<< 20
  maxDepth : Nat := 32
  maxInflightRequests : Nat := 64
  pageSize : UInt64 := 50

/-- The limits for the parser. -/
def ServerOptions.limits (options : ServerOptions) : ProtocolLimits where
  maxMessageBytes := options.maxMessageBytes
  maxDepth := options.maxDepth

/-- `m_advertised`. -/
def advertised : List Bytes := [protocolVersion2026, protocolVersion2025]

/-- `ResourceDefinition`. -/
structure ResourceDefinition where
  uri : Bytes
  name : Bytes
  description : Bytes := []
  mimeType : Bytes := []

/-- `PromptArgument`. -/
structure PromptArgument where
  name : Bytes
  description : Bytes := []
  required : Bool := false

/-- `PromptDefinition`. -/
structure PromptDefinition where
  name : Bytes
  description : Bytes := []
  arguments : List PromptArgument := []

/-- `ToolDefinition`. -/
structure ToolDefinition where
  name : Bytes
  title : Bytes := []
  description : Bytes := []
  inputSchema : JsonValue
  outputSchema : Option JsonValue := none

/-- `ToolsSchemaHooks`, when they are set. -/
structure ToolsSchemaHooks where
  validateInput : Bytes → JsonValue → Bool
  validateOutput : Bytes → JsonValue → Bool

/-- The frozen registry, each table in the order of its keys. -/
structure Registry where
  resources : List ResourceDefinition := []
  prompts : List PromptDefinition := []
  tools : List ToolDefinition := []
  toolsHooks : Option ToolsSchemaHooks := none

/-- `ResourceContents`. -/
structure ResourceContents where
  uri : Bytes
  mimeType : Bytes
  data : Bytes
  isText : Bool

/-- `PromptRole`. -/
inductive PromptRole
  | user | assistant
  deriving DecidableEq, Repr

/-- `PromptResult`, with the messages as their role and their text. -/
structure PromptResult where
  description : Bytes
  messages : List (PromptRole × Bytes)

/-- `ToolResult`, with the texts of its content. -/
structure ToolResult where
  content : List Bytes
  structuredContent : Option JsonValue
  isError : Bool

/-- What a callback does. -/
inductive HandlerReply
  | threw
  | failed
  | resource (contents : List ResourceContents)
  | prompt (result : PromptResult)
  | tool (result : ToolResult)
  | inputRequired (required : InputRequired)

/-- `result<DispatchOutcome>`: an error of the core, no answer, or an answer. -/
abbrev Outcome := Except Error (Option JsonValue)

/-- `SuccessOutcome`. -/
def successOutcome (id : RequestId) (result : JsonValue) : Outcome :=
  .ok (some (makeSuccessResponse id result))

/-- `ErrorOutcome`. -/
def errorOutcome (id : Option RequestId) (failure : ProtocolFailure) : Outcome :=
  .ok (some (makeErrorResponse id failure))

/-- A member that is left out when its text is empty. -/
def optionalMember (key : String) (value : Bytes) : List (Bytes × JsonValue) :=
  if value.isEmpty then [] else [(text key, .string value)]

/-- `BuildResourceJson`. -/
def buildResourceJson (definition : ResourceDefinition) : JsonValue :=
  .object ([(text "uri", .string definition.uri), (text "name", .string definition.name)] ++
    optionalMember "description" definition.description ++
    optionalMember "mimeType" definition.mimeType)

/-- An argument of a prompt. -/
def buildArgumentJson (argument : PromptArgument) : JsonValue :=
  .object ([(text "name", .string argument.name)] ++
    optionalMember "description" argument.description ++
    if argument.required then [(text "required", .bool true)] else [])

/-- `BuildPromptJson`. -/
def buildPromptJson (definition : PromptDefinition) : JsonValue :=
  .object ([(text "name", .string definition.name)] ++
    optionalMember "description" definition.description ++
    if definition.arguments.isEmpty then []
    else [(text "arguments", .array (definition.arguments.map buildArgumentJson))])

/-- `BuildToolsJson`. -/
def buildToolsJson (definition : ToolDefinition) : JsonValue :=
  .object ([(text "name", .string definition.name)] ++ optionalMember "title" definition.title ++
    optionalMember "description" definition.description ++
    [(text "inputSchema", definition.inputSchema)] ++
    (definition.outputSchema.map fun schema => (text "outputSchema", schema)).toList)

/-- `BuildCapabilities`. -/
def buildCapabilities (registry : Registry) : JsonValue :=
  .object ((if registry.resources.isEmpty then [] else [(text "resources", .empty)]) ++
    (if registry.prompts.isEmpty then [] else [(text "prompts", .empty)]) ++
    if registry.tools.isEmpty then [] else [(text "tools", .empty)])

/-- `MethodFamily`. -/
inductive MethodFamily
  | none' | resources | prompts | tools
  deriving DecidableEq, Repr

/-- `FamilyOf`. -/
def familyOf (method : Bytes) : MethodFamily :=
  if method = text "resources/list" ∨ method = text "resources/read" ∨
      method = text "resources/templates/list" then .resources
  else if method = text "prompts/list" ∨ method = text "prompts/get" then .prompts
  else if method = text "tools/list" ∨ method = text "tools/call" then .tools
  else .none'

/-- `MethodAvailable`. -/
def methodAvailable (registry : Registry) (method : Bytes) : Bool :=
  match familyOf method with
  | .none' => false
  | .resources => !registry.resources.isEmpty
  | .prompts => !registry.prompts.isEmpty
  | .tools => !registry.tools.isEmpty

/-- The number that a text of digits spells. -/
def decimalValue (digits : Bytes) : Nat :=
  digits.foldl (fun value c => value * 10 + (c.toNat - 0x30)) 0

/-- `ParseCursor`. -/
def parseCursor (params : Option JsonValue) (total : Nat) : Except Error Nat :=
  let wrong := domainError .invalidArgument "mcp.params" "cursor is not a valid position"
  match params with
  | none => .ok 0
  | some params =>
    if !params.isObject then
      .error (domainError .invalidArgument "mcp.params" "params must be an object")
    else
      match params.find (text "cursor") with
      | none => .ok 0
      | some cursor =>
        match cursor.asString with
        | none => .error (domainError .invalidArgument "mcp.params" "cursor must be a string")
        | some digits =>
          if digits.isEmpty ∨ 20 < digits.length then .error wrong
          else if !digits.all isAsciiDigit ∨ 2 ^ 64 ≤ decimalValue digits ∨
              (1 < digits.length ∧ digits.head? = some 0x30) ∨ total < decimalValue digits then
            .error wrong
          else .ok (decimalValue digits)

/-- `StampServerInfo`. -/
def stampServerInfo (target : JsonValue) (options : ServerOptions) : Except Error JsonValue :=
  let existing := (target.find (text "_meta")).filter JsonValue.isObject
  let envelope := existing.getD .empty
  if (envelope.find metaKeyServerInfo).isSome then .ok target
  else do
    let stamped ← envelope.set metaKeyServerInfo
      (.object [(text "name", .string options.serverName),
        (text "version", .string options.serverVersion)])
    target.set (text "_meta") stamped

/-- A callback that the dispatch has come to. -/
inductive CallbackKind
  | resource (uri : Bytes)
  | prompt (name : Bytes)
  | tool (name : Bytes) (hasOutputSchema : Bool)

/-- The callback with what the end of the dispatch needs. -/
structure Callback where
  kind : CallbackKind
  id : RequestId
  modern : Bool
  clientCapabilities : JsonValue

/-- Where a dispatch comes to. -/
inductive Dispatched
  | done (outcome : Outcome)
  /-- `HandleInitialize` has passed its checks. -/
  | initialize' (version : Bytes) (capabilities : JsonValue) (outcome : Outcome)
  /-- `HandleSubscriptionsListen` knows the uris that it accepts. -/
  | listen (id : RequestId) (uris : List Bytes)
  | callback (callback : Callback)

section Dispatch

variable (options : ServerOptions) (registry : Registry)

/-- `finish` of `DispatchBusiness`. -/
def finishBusiness (id : RequestId) (modern cacheable : Bool) (result : JsonValue) : Outcome :=
  if modern then do
    let typed ← applyModernResultType result
    let cached ← (if cacheable then applyPrivateCacheHints typed else .ok typed)
    let stamped ← stampServerInfo cached options
    successOutcome id stamped
  else successOutcome id result

/-- `invalid` of `DispatchBusiness`. -/
def invalidOutcome (id : RequestId) (detail : String) : Outcome :=
  errorOutcome (some id) (failure .invalidParams detail)

/-- `internal` of `DispatchBusiness`. -/
def internalOutcome (id : RequestId) : Outcome :=
  errorOutcome (some id) (failure .internalError "Internal error")

/-- The end of a page: the `min` comes first, so that no page size makes the sum wrap. -/
def pageEnd (pageSize first size : UInt64) : UInt64 := first + min pageSize (size - first)

/-- The sum does not wrap. -/
theorem pageEnd_toNat (pageSize : UInt64) {first size : Nat} (within : first ≤ size)
    (small : size < 2 ^ 64) :
    (pageEnd pageSize (.ofNat first) (.ofNat size)).toNat =
      first + min pageSize.toNat (size - first) := by
  have first' : (UInt64.ofNat first).toNat = first := UInt64.toNat_ofNat_of_lt' (within.trans_lt small)
  have size' : (UInt64.ofNat size).toNat = size := UInt64.toNat_ofNat_of_lt' small
  have left : (UInt64.ofNat size - UInt64.ofNat first).toNat = size - first := by
    rw [UInt64.toNat_sub_of_le, first', size']
    rw [UInt64.le_iff_toNat_le, first', size']
    exact within
  have least : (min pageSize (UInt64.ofNat size - UInt64.ofNat first)).toNat =
      min pageSize.toNat (size - first) := by
    have picked : min pageSize (UInt64.ofNat size - UInt64.ofNat first) =
        if pageSize ≤ UInt64.ofNat size - UInt64.ofNat first then pageSize
        else UInt64.ofNat size - UInt64.ofNat first := rfl
    rw [picked, min_def, apply_ite UInt64.toNat, left]
    simp only [UInt64.le_iff_toNat_le, left]
  rw [pageEnd, UInt64.toNat_add, first', least]
  exact Nat.mod_eq_of_lt (by omega)

/-- A page of a list. -/
def listPage (request : JsonRpcRequest) (modern : Bool) (key : String)
    (snapshot : List JsonValue) : Outcome :=
  match parseCursor request.params snapshot.length with
  | .error _ => invalidOutcome request.id "Invalid params: cursor is not a valid position"
  | .ok first =>
    let last := (pageEnd options.pageSize (.ofNat first) (.ofNat snapshot.length)).toNat
    finishBusiness options request.id modern true
      (.object ([(text key, .array ((snapshot.drop first).take (last - first)))] ++
        if last < snapshot.length then [(text "nextCursor", .string (text last.repr))] else []))

/-- `resources/read` up to its callback. -/
def dispatchRead (request : JsonRpcRequest) (modern : Bool) (capabilities : JsonValue) :
    Dispatched :=
  match (request.params.bind (·.find (text "uri"))).bind JsonValue.asString with
  | none => .done (invalidOutcome request.id "Invalid params: uri must be a string")
  | some wanted =>
    if registry.resources.any fun definition => definition.uri = wanted then
      .callback { kind := .resource wanted, id := request.id, modern
                  clientCapabilities := capabilities }
    else .done (invalidOutcome request.id "Invalid params: unknown resource uri")

/-- The `arguments` of a request, an empty object when it has none. -/
def requestArguments (request : JsonRpcRequest) : JsonValue :=
  (request.params.bind (·.find (text "arguments"))).getD .empty

/-- `tools/call` up to its callback. -/
def dispatchTool (request : JsonRpcRequest) (modern : Bool) (capabilities : JsonValue) :
    Dispatched :=
  match (request.params.bind (·.find (text "name"))).bind JsonValue.asString with
  | none => .done (invalidOutcome request.id "Invalid params: name must be a string")
  | some wanted =>
    match registry.tools.find? fun definition => definition.name = wanted with
    | none => .done (invalidOutcome request.id "Invalid params: unknown tool name")
    | some definition =>
      let arguments := requestArguments request
      if !arguments.isObject then
        .done (invalidOutcome request.id "Invalid params: arguments must be an object")
      else if registry.toolsHooks.any fun hooks => !hooks.validateInput wanted arguments then
        .done (invalidOutcome request.id "Invalid params: arguments do not match input schema")
      else
        .callback { kind := .tool wanted definition.outputSchema.isSome, id := request.id, modern
                    clientCapabilities := capabilities }

/-- The first declared argument that speaks against the arguments. -/
def argumentFault (arguments : JsonValue) : List PromptArgument → Option String
  | [] => none
  | argument :: rest =>
    match arguments.find argument.name with
    | none =>
      if argument.required then some "Invalid params: missing required argument"
      else argumentFault arguments rest
    | some value =>
      if value.isString then argumentFault arguments rest
      else some "Invalid params: argument must be a string"

/-- `prompts/get` up to its callback. -/
def dispatchPrompt (request : JsonRpcRequest) (modern : Bool) (capabilities : JsonValue) :
    Dispatched :=
  match (request.params.bind (·.find (text "name"))).bind JsonValue.asString with
  | none => .done (invalidOutcome request.id "Invalid params: name must be a string")
  | some wanted =>
    match registry.prompts.find? fun definition => definition.name = wanted with
    | none => .done (invalidOutcome request.id "Invalid params: unknown prompt name")
    | some definition =>
      let arguments := requestArguments request
      match arguments.keys with
      | none => .done (invalidOutcome request.id "Invalid params: arguments must be an object")
      | some keys =>
        if keys.any fun key => !(arguments.find key).any JsonValue.isString then
          .done (invalidOutcome request.id "Invalid params: argument must be a string")
        else
          match argumentFault arguments definition.arguments with
          | some detail => .done (invalidOutcome request.id detail)
          | none =>
            .callback { kind := .prompt wanted, id := request.id, modern
                        clientCapabilities := capabilities }

/-- `DispatchBusiness` up to its callback. -/
def dispatchBusiness (request : JsonRpcRequest) (modern : Bool) (capabilities : JsonValue) :
    Dispatched :=
  let method := request.method
  if request.params.any fun params => !params.isObject then
    .done (invalidOutcome request.id "Invalid params: params must be an object")
  else if method = text "resources/list" then
    .done (listPage options request modern "resources"
      (registry.resources.map buildResourceJson))
  else if method = text "resources/templates/list" then
    .done (listPage options request modern "resourceTemplates" [])
  else if method = text "resources/read" then
    dispatchRead registry request modern capabilities
  else if method = text "prompts/list" then
    .done (listPage options request modern "prompts" (registry.prompts.map buildPromptJson))
  else if method = text "tools/list" then
    .done (listPage options request modern "tools" (registry.tools.map buildToolsJson))
  else if method = text "tools/call" then
    dispatchTool registry request modern capabilities
  else if method = text "prompts/get" then
    dispatchPrompt registry request modern capabilities
  else .done (errorOutcome (some request.id) (failure .methodNotFound "Method not found"))

/-- `HandleSubscriptionsListen` up to its first look at the table. -/
def dispatchListen (request : JsonRpcRequest) : Dispatched :=
  match request.params.bind (·.find (text "notifications")) with
  | none =>
    .done (invalidOutcome request.id "Invalid params: notifications filter is required")
  | some notifications =>
    if !notifications.isObject then
      .done (invalidOutcome request.id "Invalid params: notifications filter is required")
    else
      match parseSubscriptionFilter notifications with
      | .error failure => .done (errorOutcome (some request.id) failure)
      | .ok requested =>
        .listen request.id (requested.resourceUris.filter fun uri =>
          registry.resources.any fun definition => definition.uri = uri)

/-- `DispatchModern` behind the checks of the envelope. -/
def dispatchAccepted (request : JsonRpcRequest) (accepted : ModernMeta) : Dispatched :=
  if request.method = text "server/discover" then
    .done (do
      let discovered ← makeDiscoverResult advertised (buildCapabilities registry)
        options.instructions
      let stamped ← stampServerInfo discovered options
      successOutcome request.id stamped)
  else if request.method = text "subscriptions/listen" then dispatchListen registry request
  else
    match (request.params.map parseMrtrRetryInputs).getD (.ok {}) with
    | .error failure => .done (errorOutcome (some request.id) failure)
    | .ok _ =>
      if methodAvailable registry request.method then
        dispatchBusiness options registry request true accepted.clientCapabilities
      else .done (errorOutcome (some request.id) (failure .methodNotFound "Method not found"))

/-- `DispatchModern`. -/
def dispatchModern (request : JsonRpcRequest) : Dispatched :=
  match validateModernMeta request.params advertised with
  | .error failure => .done (errorOutcome (some request.id) failure)
  | .ok accepted => dispatchAccepted options registry request accepted

/-- The answer of a successful `HandleInitialize`. -/
def initializeResult (negotiated : Bytes) : JsonValue :=
  .object ([(text "protocolVersion", .string negotiated),
    (text "capabilities", buildCapabilities registry),
    (text "serverInfo", .object [(text "name", .string options.serverName),
      (text "version", .string options.serverVersion)])] ++
      (options.instructions.map fun value => (text "instructions", JsonValue.string value)).toList)

/-- `HandleInitialize` up to the state of its session. Whatever version is requested, the legacy
one is negotiated. -/
def handleInitialize (request : JsonRpcRequest) : Dispatched :=
  let invalid := fun detail => Dispatched.done (invalidOutcome request.id detail)
  match request.params with
  | some (.object members) =>
    let params : JsonValue := .object members
    match (params.find (text "capabilities")).filter JsonValue.isObject,
        (params.find (text "clientInfo")).filter JsonValue.isObject with
    | none, _ => invalid "Invalid params: initialize params.capabilities must be an object"
    | some _, none => invalid "Invalid params: initialize params.clientInfo must be an object"
    | some capabilities, some info =>
      if !(info.find (text "name")).any JsonValue.isString then
        invalid "Invalid params: initialize params.clientInfo.name must be a string"
      else if !(info.find (text "version")).any JsonValue.isString then
        invalid "Invalid params: initialize params.clientInfo.version must be a string"
      else
        match params.find (text "protocolVersion") with
        | none => invalid "Invalid params: initialize params.protocolVersion is required"
        | some version =>
          if !version.isString then
            invalid "Invalid params: initialize params.protocolVersion must be a string"
          else
            match validateClientCapabilities capabilities .legacy2025 with
            | .error failure => .done (errorOutcome (some request.id) failure)
            | .ok accepted =>
              .initialize' protocolVersion2025 accepted
                (successOutcome request.id
                  (initializeResult options registry protocolVersion2025))
  | _ => invalid "Invalid params: initialize params must be an object"

/-- `DispatchLegacy`, with what it reads of its session. -/
def dispatchLegacy (request : JsonRpcRequest) (initializeAccepted : Bool)
    (clientCapabilities : JsonValue) : Dispatched :=
  if request.method = text "initialize" then handleInitialize options registry request
  else if request.method = text "ping" then .done (successOutcome request.id .empty)
  else if !methodAvailable registry request.method then
    .done (errorOutcome (some request.id) (failure .methodNotFound "Method not found"))
  else if !initializeAccepted then
    .done (errorOutcome (some request.id) (failure .invalidParams "Invalid request parameters"))
  else dispatchBusiness options registry request false clientCapabilities

/-- What `resources/read` makes of the contents. -/
def finishResource (callback : Callback) (contents : List ResourceContents) : Outcome :=
  if contents.isEmpty then internalOutcome callback.id
  else
    finishBusiness options callback.id callback.modern true
      (.object [(text "contents", .array (contents.map fun content =>
        .object ([(text "uri", .string content.uri)] ++
          optionalMember "mimeType" content.mimeType ++
          [(text (if content.isText then "text" else "blob"), .string content.data)])))])

/-- A text block of the content. -/
def textBlock (value : Bytes) : JsonValue :=
  .object [(text "type", .literal "text"), (text "text", .string value)]

/-- What `prompts/get` makes of its result. -/
def finishPrompt (callback : Callback) (result : PromptResult) : Outcome :=
  if result.messages.isEmpty then internalOutcome callback.id
  else if !result.description.isEmpty && !isValidUtf8 result.description then
    internalOutcome callback.id
  else
    finishBusiness options callback.id callback.modern false
      (.object ([(text "messages", .array (result.messages.map fun message =>
        .object [(text "role", .literal (if message.1 = .user then "user" else "assistant")),
          (text "content", textBlock message.2)]))] ++
        optionalMember "description" result.description))

/-- What `tools/call` makes of its result. -/
def finishTool (callback : Callback) (name : Bytes) (hasOutputSchema : Bool)
    (result : ToolResult) : Outcome :=
  if result.structuredContent.isSome && !hasOutputSchema then internalOutcome callback.id
  else if result.structuredContent.any fun structured =>
      registry.toolsHooks.any fun hooks => !hooks.validateOutput name structured then
    internalOutcome callback.id
  else
    finishBusiness options callback.id callback.modern false
      (.object ([(text "content", .array (result.content.map textBlock))] ++
        (if result.isError then [(text "isError", .bool true)] else []) ++
        (result.structuredContent.map fun value => (text "structuredContent", value)).toList))

/-- `finish_deferred`, in the `try` of `tools/call`. -/
def finishDeferred (callback : Callback) (required : InputRequired) : Outcome :=
  if !callback.modern then internalOutcome callback.id
  else
    match checkInputRequestCapabilities callback.clientCapabilities required.inputRequests with
    | some failure => errorOutcome (some callback.id) failure
    | none =>
      match makeInputRequiredResult required with
      | none => internalOutcome callback.id
      | some (.error error) => .error error
      | some (.ok wire) => successOutcome callback.id wire

/-- The end of the dispatch behind a callback; none for a reply of another type. -/
def finishCallback (callback : Callback) : HandlerReply → Option Outcome
  | .threw | .failed => some (internalOutcome callback.id)
  | .resource contents =>
    match callback.kind with
    | .resource _ => some (finishResource options callback contents)
    | _ => none
  | .prompt result =>
    match callback.kind with
    | .prompt _ => some (finishPrompt options callback result)
    | _ => none
  | .tool result =>
    match callback.kind with
    | .tool name hasOutputSchema =>
      some (finishTool options registry callback name hasOutputSchema result)
    | _ => none
  | .inputRequired required =>
    match callback.kind with
    | .tool _ _ => some (finishDeferred callback required)
    | _ => none

end Dispatch

end BbtInfra.Mcp
