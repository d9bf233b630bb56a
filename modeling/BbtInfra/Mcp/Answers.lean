import BbtInfra.Mcp.Server

/-!
# Every dispatch answers under the id of its request

The peek and the dispatch parse the same bytes with the same function, so they agree. Whatever the
dispatch of a request comes to, an answer has the id of the request, and only an open subscription
leaves it without an answer.
-/
namespace BbtInfra.Mcp

open Lib Dispatched ParsedFrame

/-- The id that an answer must have: the one that was determined, or null. -/
def answerId (id : Option RequestId) : JsonValue := (id.map RequestId.toJson).getD .null

/-- An error of the core, or an answer under the id. -/
def Outcome.Answers (id : Option RequestId) (outcome : Outcome) : Prop :=
  (∃ error, outcome = .error error) ∨
    ∃ response, outcome = .ok (some response) ∧ responseId response = some (answerId id)

/-- The same, or silence where it is allowed. -/
def Outcome.Fits (id : Option RequestId) (silent : Prop) (outcome : Outcome) : Prop :=
  outcome.Answers id ∨ (outcome = .ok none ∧ silent)

/-- What a dispatch comes to speaks for its request. -/
def Dispatched.Speaks (id : RequestId) : Dispatched → Prop
  | .done outcome | .initialize' _ _ outcome => outcome.Answers (some id)
  | .listen listenId _ => listenId = id
  | .callback pending => pending.id = id

variable {options : ServerOptions} {registry : Registry} {request : JsonRpcRequest}
  {id : RequestId}

/-- An error is no answer of its own. -/
theorem Outcome.answers_error (id : Option RequestId) (error : Error) :
    Outcome.Answers id (.error error) := .inl ⟨error, rfl⟩

/-- `ErrorOutcome` answers under its id. -/
theorem errorOutcome_answers (id : Option RequestId) (failure : ProtocolFailure) :
    (errorOutcome id failure).Answers id := .inr ⟨_, rfl, rfl⟩

/-- `SuccessOutcome` answers under its id. -/
theorem successOutcome_answers (id : RequestId) (result : JsonValue) :
    (successOutcome id result).Answers (some id) := .inr ⟨_, rfl, rfl⟩

/-- A computation in front of an outcome fails or leaves it to answer. -/
theorem Outcome.answers_bind {α : Type} {id : Option RequestId} (before : Except Error α)
    {after : α → Outcome} (answers : ∀ value, (after value).Answers id) :
    Outcome.Answers id (before >>= after) := by
  cases before with
  | error error => exact .inl ⟨error, rfl⟩
  | ok value => exact answers value

/-- `finish` of `DispatchBusiness` answers. -/
theorem finishBusiness_answers (modern cacheable : Bool) (result : JsonValue) :
    (finishBusiness options id modern cacheable result).Answers (some id) := by
  unfold finishBusiness
  split
  · apply Outcome.answers_bind
    intro typed
    apply Outcome.answers_bind
    intro cached
    apply Outcome.answers_bind
    intro stamped
    exact successOutcome_answers id stamped
  · exact successOutcome_answers id result

/-- Every exit of a list answers. -/
theorem listPage_answers (modern : Bool) (key : String) (snapshot : List JsonValue) :
    (listPage options request modern key snapshot).Answers (some request.id) := by
  unfold listPage
  split
  · exact errorOutcome_answers _ _
  · exact finishBusiness_answers _ _ _

/-- The outcome of a dispatch that is done answers. -/
theorem Dispatched.speaks_done {outcome : Outcome} (answers : outcome.Answers (some id)) :
    (done outcome).Speaks id := answers

/-- `invalid` answers. -/
theorem Dispatched.speaks_invalid (id : RequestId) (detail : String) :
    (done (invalidOutcome id detail)).Speaks id := errorOutcome_answers _ _

/-- An error answers. -/
theorem Dispatched.speaks_error (id : RequestId) (failure : ProtocolFailure) :
    (done (errorOutcome (some id) failure)).Speaks id := errorOutcome_answers _ _

section

variable (modern : Bool) (capabilities : JsonValue)

/-- `resources/read` up to its callback. -/
theorem dispatchRead_speaks :
    (dispatchRead registry request modern capabilities).Speaks request.id := by
  unfold dispatchRead
  split
  · exact speaks_invalid _ _
  · split
    · rfl
    · exact speaks_invalid _ _

/-- `tools/call` up to its callback. -/
theorem dispatchTool_speaks :
    (dispatchTool registry request modern capabilities).Speaks request.id := by
  unfold dispatchTool
  split
  · exact speaks_invalid _ _
  · split
    · exact speaks_invalid _ _
    · dsimp only
      split
      · exact speaks_invalid _ _
      · split
        · exact speaks_invalid _ _
        · rfl

/-- `prompts/get` up to its callback. -/
theorem dispatchPrompt_speaks :
    (dispatchPrompt registry request modern capabilities).Speaks request.id := by
  unfold dispatchPrompt
  split
  · exact speaks_invalid _ _
  · split
    · exact speaks_invalid _ _
    · dsimp only
      split
      · exact speaks_invalid _ _
      · split
        · exact speaks_invalid _ _
        · split
          · exact speaks_invalid _ _
          · rfl

/-- Every exit of `DispatchBusiness` speaks for its request. -/
theorem dispatchBusiness_speaks :
    (dispatchBusiness options registry request modern capabilities).Speaks request.id := by
  unfold dispatchBusiness
  dsimp only
  split
  · exact speaks_invalid _ _
  split
  · exact speaks_done (listPage_answers _ _ _)
  split
  · exact speaks_done (listPage_answers _ _ _)
  split
  · exact dispatchRead_speaks modern capabilities
  split
  · exact speaks_done (listPage_answers _ _ _)
  split
  · exact speaks_done (listPage_answers _ _ _)
  split
  · exact dispatchTool_speaks modern capabilities
  split
  · exact dispatchPrompt_speaks modern capabilities
  · exact speaks_error _ _

end

/-- `HandleSubscriptionsListen` up to the table. -/
theorem dispatchListen_speaks : (dispatchListen registry request).Speaks request.id := by
  unfold dispatchListen
  split
  · exact speaks_invalid _ _
  · split
    · exact speaks_invalid _ _
    · split
      · exact speaks_error _ _
      · rfl

/-- Every exit of `DispatchModern` speaks for its request. -/
theorem dispatchModern_speaks : (dispatchModern options registry request).Speaks request.id := by
  unfold dispatchModern
  split
  · exact speaks_error _ _
  · unfold dispatchAccepted
    split
    · apply speaks_done
      apply Outcome.answers_bind
      intro discovered
      apply Outcome.answers_bind
      intro stamped
      exact successOutcome_answers _ _
    split
    · exact dispatchListen_speaks
    split
    · exact speaks_error _ _
    · split
      · exact dispatchBusiness_speaks _ _
      · exact speaks_error _ _

/-- `HandleInitialize` up to the state of its session. -/
theorem handleInitialize_speaks :
    (handleInitialize options registry request).Speaks request.id := by
  unfold handleInitialize
  dsimp only
  split
  · split
    · exact speaks_invalid _ _
    · exact speaks_invalid _ _
    · split
      · exact speaks_invalid _ _
      split
      · exact speaks_invalid _ _
      split
      · exact speaks_invalid _ _
      split
      · exact speaks_invalid _ _
      split
      · exact speaks_error _ _
      · exact successOutcome_answers _ _
  · exact speaks_invalid _ _

/-- Every exit of `DispatchLegacy` speaks for its request. -/
theorem dispatchLegacy_speaks (accepted : Bool) (capabilities : JsonValue) :
    (dispatchLegacy options registry request accepted capabilities).Speaks request.id := by
  unfold dispatchLegacy
  split
  · exact handleInitialize_speaks
  split
  · exact speaks_done (successOutcome_answers _ _)
  split
  · exact speaks_error _ _
  split
  · exact speaks_error _ _
  · exact dispatchBusiness_speaks _ _

/-- Whatever a callback returns, the dispatch answers under the id of its request. -/
theorem finishCallback_answers {callback : Callback} {reply : HandlerReply} {outcome : Outcome}
    (finished : finishCallback options registry callback reply = some outcome) :
    outcome.Answers (some callback.id) := by
  have internal : (internalOutcome callback.id).Answers (some callback.id) :=
    errorOutcome_answers _ _
  unfold finishCallback at finished
  split at finished
  · cases finished
    exact internal
  · cases finished
    exact internal
  · split at finished
    · cases finished
      unfold finishResource
      split
      · exact internal
      · exact finishBusiness_answers _ _ _
    · cases finished
  · split at finished
    · cases finished
      unfold finishPrompt
      split
      · exact internal
      split
      · exact internal
      · exact finishBusiness_answers _ _ _
    · cases finished
  · split at finished
    · cases finished
      unfold finishTool
      split
      · exact internal
      split
      · exact internal
      · exact finishBusiness_answers _ _ _
    · cases finished
  · split at finished
    · cases finished
      unfold finishDeferred
      split
      · exact internal
      split
      · exact errorOutcome_answers _ _
      · split
        · exact internal
        · exact Outcome.answers_error _ _
        · exact successOutcome_answers _ _
    · cases finished

/-- What a parsed frame says of itself: the id that was determined, no id for a notification that is
recognised, and a request that was parsed under the same reading. -/
structure ParsedFrame.Sound (parsed : ParsedFrame) (id : Option RequestId) : Prop where
  detected : parsed.detectedId = id
  unnamed : parsed.notificationRecognized = true → id = none
  request : ∀ request, parsed.outcome = .ok request →
    request.notification = parsed.notificationRecognized ∧
      (request.notification = false → id = some request.id)

/-- A frame that fails as a request. -/
theorem ParsedFrame.sound_error (error : Error) (id : Option RequestId) :
    ParsedFrame.Sound { outcome := .error error, detectedId := id } id where
  detected := rfl
  unnamed h := by cases h
  request _ parsed := by cases parsed

/-- Behind the id, a frame is a notification exactly when it has no id. -/
theorem parseBody_sound (frame : JsonValue) (id : Option RequestId) :
    (parseBody frame id).Sound id := by
  have absent : id.isNone = true → id = none := Option.isNone_iff_eq_none.mp
  have known : id.isNone = false → id = some (id.getD .default') := by
    cases id with
    | none => intro impossible; cases impossible
    | some value => exact fun _ => rfl
  unfold parseBody
  split
  · exact sound_error _ id
  split
  · exact sound_error _ id
  · exact sound_error _ id
  · dsimp only
    split
    · exact ⟨rfl, absent, fun request parsed => by cases parsed; exact ⟨rfl, known⟩⟩
    split
    · exact ⟨rfl, absent, fun request parsed => by cases parsed; exact ⟨rfl, known⟩⟩
    · exact ⟨rfl, absent, fun request parsed => by cases parsed⟩

/-- The id of a frame: of an object with the version of JSON-RPC, its id when that is a text or an
integer. -/
def frameId (boost : Bytes → Nat → Except JsonFault JsonValue) (options : ServerOptions)
    (raw : Bytes) : Option RequestId :=
  match parseJson boost raw options.maxMessageBytes options.maxDepth with
  | .error _ => none
  | .ok frame =>
    if (frame.find (text "jsonrpc")).bind JsonValue.asString = some (text "2.0") then
      (frame.find (text "id")).bind readId
    else none

/-- `ParseRequestFrame` determines the id of the frame. -/
theorem parseRequestFrame_sound (boost : Bytes → Nat → Except JsonFault JsonValue)
    (options : ServerOptions) (raw : Bytes) :
    (parseRequestFrame boost raw options.limits).Sound (frameId boost options raw) := by
  unfold parseRequestFrame frameId
  simp only [ServerOptions.limits]
  cases parseJson boost raw options.maxMessageBytes options.maxDepth with
  | error error => exact sound_error _ none
  | ok frame =>
    dsimp only
    unfold parseEnvelope
    split
    · cases named : frame.find (text "id") with
      | none => exact parseBody_sound frame none
      | some value =>
        dsimp only [Option.bind_some]
        cases read : readId value with
        | none => exact sound_error _ none
        | some id => exact parseBody_sound frame (some id)
    · exact sound_error _ none

end BbtInfra.Mcp
