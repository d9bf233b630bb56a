import BbtInfra.Mcp.Protocol

/-!
# The envelope of a modern request

What Protocol.cc checks in `params._meta`, in the capabilities that a client declares and in the
parameters of a subscription or of a retry.
-/
namespace BbtInfra.Mcp

/-- `kProtocolVersion2026_07_28`. -/
def protocolVersion2026 : Bytes := text "2026-07-28"
/-- `kProtocolVersion2025_11_25`. -/
def protocolVersion2025 : Bytes := text "2025-11-25"
/-- `kMetaKeyProtocolVersion`. -/
def metaKeyProtocolVersion : Bytes := text "io.modelcontextprotocol/protocolVersion"
/-- `kMetaKeyClientCapabilities`. -/
def metaKeyClientCapabilities : Bytes := text "io.modelcontextprotocol/clientCapabilities"
/-- `kMetaKeySubscriptionId`. -/
def metaKeySubscriptionId : Bytes := text "io.modelcontextprotocol/subscriptionId"
/-- `kMetaKeyServerInfo`. -/
def metaKeyServerInfo : Bytes := text "io.modelcontextprotocol/serverInfo"

/-- `IsAsciiAlpha`. -/
def isAsciiAlpha (c : UInt8) : Bool :=
  (0x61 ≤ c && c ≤ 0x7A) || (0x41 ≤ c && c ≤ 0x5A)

/-- `IsAsciiDigit`. -/
def isAsciiDigit (c : UInt8) : Bool := 0x30 ≤ c && c ≤ 0x39

/-- `IsAsciiAlnum`. -/
def isAsciiAlnum (c : UInt8) : Bool := isAsciiAlpha c || isAsciiDigit c

/-- `IsValidMetaLabel`. -/
def isValidMetaLabel (label : Bytes) : Bool :=
  label.head?.any isAsciiAlpha && label.getLast?.any isAsciiAlnum &&
    label.all fun c => isAsciiAlnum c || c == 0x2D

/-- The parts of a text between the dots. -/
def dotted : Bytes → List Bytes
  | [] => [[]]
  | c :: rest =>
    if c = 0x2E then [] :: dotted rest
    else
      match dotted rest with
      | [] => [[c]]
      | label :: labels => (c :: label) :: labels

/-- `IsValidMetaPrefix`. -/
def isValidMetaPrefix (value : Bytes) : Bool := (dotted value).all isValidMetaLabel

/-- `IsValidMetaName`. -/
def isValidMetaName (name : Bytes) : Bool :=
  name.isEmpty ||
    (name.head?.any isAsciiAlnum && name.getLast?.any isAsciiAlnum &&
      name.all fun c => isAsciiAlnum c || c == 0x2D || c == 0x5F || c == 0x2E)

/-- `IsValidExtensionKey`. -/
def isValidExtensionKey (key : Bytes) : Bool :=
  key.contains 0x2F && isValidMetaPrefix (key.takeWhile (· != 0x2F)) &&
    isValidMetaName ((key.dropWhile (· != 0x2F)).drop 1)

/-- `ObjectIfPresent`. -/
def objectIfPresent (parent : JsonValue) (field : String) : Bool :=
  (parent.find (text field)).all JsonValue.isObject

/-- `BoolIfPresent`. -/
def boolIfPresent (parent : JsonValue) (field : String) : Bool :=
  (parent.find (text field)).all JsonValue.isBool

/-- `IsObjectMap`. -/
def isObjectMap (value : JsonValue) : Bool :=
  value.keys.any fun keys => keys.all fun key => (value.find key).any JsonValue.isObject

/-- `ExperimentalOk`. -/
def experimentalOk (capabilities : JsonValue) : Bool :=
  objectIfPresent capabilities "experimental" &&
    (capabilities.find (text "experimental")).all isObjectMap

/-- `RootsOk`. -/
def rootsOk (capabilities : JsonValue) (legacy : Bool) : Bool :=
  objectIfPresent capabilities "roots" &&
    (!legacy || (capabilities.find (text "roots")).all (boolIfPresent · "listChanged"))

/-- `ObjectSubfieldsOk`. -/
def objectSubfieldsOk (capabilities : JsonValue) (field : String) (subfields : List String) :
    Bool :=
  objectIfPresent capabilities field &&
    (capabilities.find (text field)).all fun parent => subfields.all (objectIfPresent parent)

/-- `ExtensionsOk`. -/
def extensionsOk (capabilities : JsonValue) : Bool :=
  objectIfPresent capabilities "extensions" &&
    (capabilities.find (text "extensions")).all fun extensions =>
      isObjectMap extensions && extensions.keys.any fun keys => keys.all isValidExtensionKey

/-- `TasksOk`. -/
def tasksOk (capabilities : JsonValue) : Bool :=
  objectIfPresent capabilities "tasks" &&
    (capabilities.find (text "tasks")).all fun tasks =>
      (["list", "cancel", "requests"].all (objectIfPresent tasks)) &&
        (tasks.find (text "requests")).all fun requests =>
          objectSubfieldsOk requests "sampling" ["createMessage"] &&
            objectSubfieldsOk requests "elicitation" ["create"]

/-- `CapabilitiesRevision`. -/
inductive CapabilitiesRevision
  | modern2026 | legacy2025
  deriving DecidableEq, Repr

/-- `ValidateClientCapabilities`. -/
def validateClientCapabilities (capabilities : JsonValue) (revision : CapabilitiesRevision) :
    Except ProtocolFailure JsonValue :=
  if !capabilities.isObject then
    .error (invalidParams "Invalid params: clientCapabilities must be an object")
  else if !experimentalOk capabilities then
    .error (invalidParams
      "Invalid params: clientCapabilities.experimental must map strings to objects")
  else if !rootsOk capabilities (decide (revision ≠ .modern2026)) then
    .error (invalidParams "Invalid params: clientCapabilities.roots has an invalid shape")
  else if !objectIfPresent capabilities "sampling" then
    .error (invalidParams "Invalid params: clientCapabilities.sampling must be an object")
  else if !objectIfPresent capabilities "elicitation" then
    .error (invalidParams "Invalid params: clientCapabilities.elicitation must be an object")
  else if !(objectSubfieldsOk capabilities "sampling" ["context", "tools"] &&
      objectSubfieldsOk capabilities "elicitation" ["form", "url"]) then
    .error (invalidParams
      "Invalid params: clientCapabilities.sampling/elicitation has an invalid shape")
  else if revision = .modern2026 ∧ !extensionsOk capabilities then
    .error (invalidParams ("Invalid params: clientCapabilities.extensions keys must carry a " ++
      "valid _meta prefix and map strings to objects"))
  else if revision = .legacy2025 ∧ !tasksOk capabilities then
    .error (invalidParams "Invalid params: clientCapabilities.tasks has an invalid shape")
  else .ok capabilities

/-- `ModernMeta`. -/
structure ModernMeta where
  protocolVersion : Bytes
  clientCapabilities : JsonValue

/-- `ValidateModernMeta`. -/
def validateModernMeta (params : Option JsonValue) (advertised : List Bytes) :
    Except ProtocolFailure ModernMeta :=
  match params with
  | some (.object members) =>
    match (JsonValue.object members).find (text "_meta") with
    | some (.object fields) =>
      let envelope : JsonValue := .object fields
      match envelope.find metaKeyProtocolVersion with
      | none =>
        .error (invalidParams
          "Invalid params: params._meta.io.modelcontextprotocol/protocolVersion is required")
      | some version =>
        match version.asString with
        | none =>
          .error (invalidParams ("Invalid params: " ++
            "params._meta.io.modelcontextprotocol/protocolVersion must be a string"))
        | some requested =>
          match envelope.find metaKeyClientCapabilities with
          | none =>
            .error (invalidParams ("Invalid params: " ++
              "params._meta.io.modelcontextprotocol/clientCapabilities is required"))
          | some capabilities =>
            if !capabilities.isObject then
              .error (invalidParams ("Invalid params: " ++
                "params._meta.io.modelcontextprotocol/clientCapabilities must be an object"))
            else if requested ≠ protocolVersion2026 then
              .error
                { failure .unsupportedProtocolVersion "Unsupported protocol version" with
                  data := some (.object [(text "requested", .string requested),
                    (text "supported", .array (advertised.map .string))]) }
            else
              match validateClientCapabilities capabilities .modern2026 with
              | .error failure => .error failure
              | .ok clientCapabilities =>
                .ok { protocolVersion := requested, clientCapabilities }
    | _ => .error (invalidParams "Invalid params: params._meta object is required")
  | _ => .error (invalidParams "Invalid params: params object with _meta is required")

/-- `HasModernEnvelope`. -/
def hasModernEnvelope (params : Option JsonValue) : Bool :=
  ((params.bind (·.find (text "_meta"))).bind (·.find metaKeyProtocolVersion)).isSome

/-- `SubscriptionFilter`. -/
structure SubscriptionFilter where
  toolsListChanged : Bool := false
  promptsListChanged : Bool := false
  resourcesListChanged : Bool := false
  resourceUris : List Bytes := []

/-- A flag of the filter. -/
def filterFlag (notifications : JsonValue) (key : String) : Except ProtocolFailure Bool :=
  match notifications.find (text key) with
  | none => .ok false
  | some (.bool value) => .ok value
  | some _ =>
    .error (invalidParams "Invalid params: notifications filter flags must be boolean")

/-- The texts of an array, each once, in the order of their first appearance. -/
def distinctTexts : List JsonValue → List Bytes → Option (List Bytes)
  | [], found => some found
  | .string uri :: rest, found =>
    distinctTexts rest (if found.contains uri then found else found ++ [uri])
  | _ :: _, _ => none

/-- `ParseSubscriptionFilter`. -/
def parseSubscriptionFilter (notifications : JsonValue) :
    Except ProtocolFailure SubscriptionFilter := do
  if !notifications.isObject then
    throw (invalidParams "Invalid params: notifications filter must be an object")
  let toolsListChanged ← filterFlag notifications "toolsListChanged"
  let promptsListChanged ← filterFlag notifications "promptsListChanged"
  let resourcesListChanged ← filterFlag notifications "resourcesListChanged"
  let wrong :=
    invalidParams "Invalid params: resourceSubscriptions must be an array of strings"
  match notifications.find (text "resourceSubscriptions") with
  | none => pure { toolsListChanged, promptsListChanged, resourcesListChanged }
  | some (.array items) =>
    match distinctTexts items [] with
    | none => throw wrong
    | some resourceUris =>
      pure { toolsListChanged, promptsListChanged, resourcesListChanged, resourceUris }
  | some _ => throw wrong

/-- `MakeSubscriptionFilterJson`. -/
def makeSubscriptionFilterJson (filter : SubscriptionFilter) : JsonValue :=
  .object ((if filter.toolsListChanged then [(text "toolsListChanged", .bool true)] else []) ++
    (if filter.promptsListChanged then [(text "promptsListChanged", .bool true)] else []) ++
    (if filter.resourcesListChanged then [(text "resourcesListChanged", .bool true)] else []) ++
    if filter.resourceUris.isEmpty then []
    else [(text "resourceSubscriptions", .array (filter.resourceUris.map .string))])

/-- `MakeSubscriptionIdMeta`. -/
def makeSubscriptionIdMeta (id : RequestId) : JsonValue :=
  .object [(metaKeySubscriptionId, id.toJson)]

/-- `MrtrRetryInputs`. -/
structure MrtrRetryInputs where
  inputResponses : List (Bytes × JsonValue) := []
  requestState : Option Bytes := none

/-- The members of `inputResponses` that are taken over. -/
def retryResponses (responses : JsonValue) :
    List Bytes → Except ProtocolFailure (List (Bytes × JsonValue))
  | [] => .ok []
  | key :: rest =>
    if key.isEmpty then
      .error (invalidParams "Invalid params: inputResponses keys must be non-empty")
    else
      match responses.find key with
      | some (.object members) =>
        (retryResponses responses rest).map ((key, .object members) :: ·)
      | _ => .error (invalidParams "Invalid params: inputResponses entries must be objects")

/-- `ParseMrtrRetryInputs`. -/
def parseMrtrRetryInputs (params : JsonValue) : Except ProtocolFailure MrtrRetryInputs := do
  let inputResponses ←
    match params.find (text "inputResponses") with
    | none => pure []
    | some responses =>
      match responses.keys with
      | none => throw (invalidParams "Invalid params: inputResponses must be an object")
      | some keys => retryResponses responses keys
  match params.find (text "requestState") with
  | none => pure { inputResponses }
  | some (.string state) => pure { inputResponses, requestState := some state }
  | some _ => throw (invalidParams "Invalid params: requestState must be a string")

/-- `ClientInputRequest`. -/
structure ClientInputRequest where
  method : Bytes
  params : JsonValue

/-- `InputRequired`. -/
structure InputRequired where
  inputRequests : List (Bytes × ClientInputRequest)
  requestState : Option Bytes

/-- The capability that an input request needs. -/
def requiredCapability (method : Bytes) : Option Bytes :=
  if method = text "sampling/createMessage" then some (text "sampling")
  else if method = text "elicitation/create" then some (text "elicitation")
  else if method = text "roots/list" then some (text "roots")
  else none

/-- The capabilities that are missing, or none behind an unknown method. -/
def missingCapabilities (capabilities : JsonValue) :
    List (Bytes × ClientInputRequest) → List (Bytes × JsonValue) →
      Option (List (Bytes × JsonValue))
  | [], missing => some missing
  | (_, request) :: rest, missing =>
    match requiredCapability request.method with
    | none => none
    | some capability =>
      if (capabilities.find capability).any JsonValue.isObject then
        missingCapabilities capabilities rest missing
      else
        missingCapabilities capabilities rest
          (JsonValue.setMember capability .empty missing)

/-- `CheckInputRequestCapabilities`. -/
def checkInputRequestCapabilities (capabilities : JsonValue)
    (requests : List (Bytes × ClientInputRequest)) : Option ProtocolFailure :=
  match missingCapabilities capabilities requests [] with
  | none => some (invalidParams "Invalid params: unknown input request method")
  | some [] => none
  | some missing =>
    some
      { failure .missingRequiredClientCapability "Missing required client capability" with
        data := some (.object [(text "requiredCapabilities", .object missing)]) }

/-- The object of the input requests. It is none where a constructor throws. -/
def inputRequestMembers :
    List (Bytes × ClientInputRequest) → JsonValue → Option (Except Error JsonValue)
  | [], members => some (.ok members)
  | (key, request) :: rest, members =>
    (JsonValue.ofText request.method).bind fun method =>
      match members.set key (.object [(text "method", method), (text "params", request.params)]) with
      | .error error => some (.error error)
      | .ok members => inputRequestMembers rest members

/-- `MakeInputRequiredResult`. It is none where a constructor throws. -/
def makeInputRequiredResult (required : InputRequired) : Option (Except Error JsonValue) :=
  if required.inputRequests.isEmpty ∧ required.requestState = none then
    some (.error (domainError .invalidArgument "mcp.mrtr.empty"
      "input_required requires inputRequests or requestState"))
  else
    let kind := [(text "resultType", JsonValue.literal "input_required")]
    let requests : Option (Except Error (List (Bytes × JsonValue))) :=
      if required.inputRequests.isEmpty then some (.ok [])
      else
        (inputRequestMembers required.inputRequests .empty).map fun built =>
          built.map fun members => [(text "inputRequests", members)]
    requests.bind fun built =>
      match built, required.requestState with
      | .error error, _ => some (.error error)
      | .ok requests, none => some (.ok (.object (kind ++ requests)))
      | .ok requests, some state =>
        (JsonValue.ofText state).map fun state =>
          .ok (.object (kind ++ requests ++ [(text "requestState", state)]))

/-- `ApplyModernResultType`. -/
def applyModernResultType (target : JsonValue) : Except Error JsonValue :=
  if !target.isObject then
    .error (domainError .invalidArgument "mcp.result.not_object" "result must be a JSON object")
  else target.set (text "resultType") (.literal "complete")

/-- `ApplyPrivateCacheHints`. -/
def applyPrivateCacheHints (target : JsonValue) : Except Error JsonValue :=
  if !target.isObject then
    .error (domainError .invalidArgument "mcp.result.not_object" "result must be a JSON object")
  else do
    let timed ← target.set (text "ttlMs") (.int64 0)
    timed.set (text "cacheScope") (.literal "private")

/-- `MakeDiscoverResult`. -/
def makeDiscoverResult (versions : List Bytes) (capabilities : JsonValue)
    (instructions : Option Bytes) : Except Error JsonValue :=
  if !capabilities.isObject then
    .error (domainError .invalidArgument "mcp.discover.capabilities"
      "capabilities must be a JSON object")
  else if versions.isEmpty then
    .error (domainError .invalidArgument "mcp.discover.versions"
      "at least one supported version is required")
  else do
    let typed ← applyModernResultType (.object ([
      (text "supportedVersions", .array (versions.map .string)),
      (text "capabilities", capabilities)] ++
        (instructions.map fun value => (text "instructions", JsonValue.string value)).toList))
    applyPrivateCacheHints typed

end BbtInfra.Mcp
