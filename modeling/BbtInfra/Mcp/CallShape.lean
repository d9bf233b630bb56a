import BbtInfra.Lib.Census
import BbtInfra.Mcp.CallSteps

/-!
# What the place of a call says of it

A notification has no owner and never an answer. A request has its owner from its registration on,
every answer on its way has the id of the frame, and only a request that has opened a subscription
is silent. This holds of a call by itself, whatever the other threads do.
-/
namespace BbtInfra.Mcp

open Lib McpServer

/-- The places of a notification. -/
def CallPc.OfNotice : CallPc → Prop
  | .dispatch | .cancelEnd _ | .cancelEmit _ | .cancelReturn _ | .cancelOwners _ | .cancelFlip _ =>
    True
  | .settle outcome | .returned outcome => outcome = .ok none
  | _ => False

/-- What the place of a request says of its id and of its subscription. -/
def CallPc.OfRequest (id : Option RequestId) (opened : Bool) : CallPc → Prop
  | .admit' | .register | .dispatch => opened = false
  | .initialize' _ _ outcome => outcome.Answers id ∧ opened = false
  | .callback pending | .running pending => id = some pending.id ∧ opened = false
  | .listenCheck listenId _ | .listenAdmit listenId _ | .listenInsert listenId _ =>
    id = some listenId ∧ opened = false
  | .acknowledge _ listenId _ => id = some listenId ∧ opened = true
  | .mark _ => opened = true
  | .settle outcome => outcome.Fits id (opened = true)
  | .judge response => responseId response = some (answerId id)
  | .cancelEnd _ | .cancelEmit _ | .cancelReturn _ | .cancelOwners _ | .cancelFlip _ | .crashed =>
    False
  | .shut | .retire _ | .release _ | .returned _ => True

/-- The places between the registration of the owner and its end. -/
def CallPc.owned : CallPc → Bool
  | .admit' | .register | .release _ | .returned _ | .crashed => false
  | _ => true

/-- The places before the registration of the owner. -/
def CallPc.unregistered : CallPc → Bool
  | .admit' | .register => true
  | _ => false

/-- What a call knows of its frame, and what its place says of it. -/
structure Call.Shaped (boost : Bytes → Nat → Except JsonFault JsonValue) (options : ServerOptions)
    (call : Call) : Prop where
  detected : call.detectedId = frameId boost options call.raw
  classified :
    call.recognized = (parseRequestFrame boost call.raw options.limits).notificationRecognized
  notice : call.recognized = true → call.owner = none ∧ call.pc.OfNotice
  request : call.recognized = false → call.pc.OfRequest call.detectedId call.opened
  owned : call.recognized = false → call.pc.owned = true → call.owner.isSome = true
  fresh : call.pc.unregistered = true → call.owner = none

namespace Call.Shaped

variable {boost : Bytes → Nat → Except JsonFault JsonValue} {options : ServerOptions}
  {registry : Registry} {s s' : McpServer} {i : Nat} {call : Call} {late : Bool}

section

variable (shaped : call.Shaped boost options)

include shaped

/-- A request goes on to another place. -/
theorem goRequest (asked : call.recognized = false)
    {pc : CallPc} (request : pc.OfRequest call.detectedId call.opened)
    (owned : pc.owned = true → call.owner.isSome = true) (fresh : pc.unregistered = false) :
    Call.Shaped boost options { call with pc } where
  detected := shaped.detected
  classified := shaped.classified
  notice told := by
    rw [show call.recognized = true from told] at asked
    cases asked
  request _ := request
  owned _ := owned
  fresh there := by
    rw [show pc.unregistered = true from there] at fresh
    cases fresh

/-- A notification goes on to another place. -/
theorem goNotice (told : call.recognized = true) {pc : CallPc}
    (notice : pc.OfNotice) : Call.Shaped boost options { call with pc } where
  detected := shaped.detected
  classified := shaped.classified
  notice _ := ⟨(shaped.notice told).1, notice⟩
  request asked := by
    rw [show call.recognized = false from asked] at told
    cases told
  owned asked := by
    rw [show call.recognized = false from asked] at told
    cases told
  fresh _ := (shaped.notice told).1

/-- What a cancel saw is no part of its shape. -/
theorem sees (seen : List Nat) : Call.Shaped boost options { call with seen } :=
  ⟨shaped.detected, shaped.classified, shaped.notice, shaped.request, shaped.owned, shaped.fresh⟩

/-- A place that no notification reaches belongs to a request. -/
theorem asked (place : ¬call.pc.OfNotice) : call.recognized = false := by
  cases recognized : call.recognized with
  | false => rfl
  | true => exact absurd (shaped.notice recognized).2 place

/-- A place that no request reaches belongs to a notification. -/
theorem told (place : ¬call.pc.OfRequest call.detectedId call.opened) : call.recognized = true := by
  cases recognized : call.recognized with
  | true => rfl
  | false => exact absurd (shaped.request recognized) place

/-- `Dispatch` treats a frame as the peek did, so a notification comes to no answer. -/
theorem dispatched_notice (recognized : call.recognized = true)
    {pc : CallPc} (dispatched : McpServer.Dispatches boost options registry s call pc) :
    pc.OfNotice := by
  have sound := parseRequestFrame_sound boost options call.raw
  cases dispatched with
  | dropped => rfl
  | malformed error unrecognized =>
    rw [shaped.classified, unrecognized] at recognized
    cases recognized
  | applied => rfl
  | cancels => trivial
  | asked request dispatched parsed asked =>
    have same := (sound.request request parsed).1
    rw [← shaped.classified, recognized, asked] at same
    cases same

end

/-- What a dispatch that speaks for its request comes to. -/
theorem ofRequest_pc {id : RequestId} {dispatched : Dispatched} (speaks : dispatched.Speaks id) :
    dispatched.pc.OfRequest (some id) false := by
  cases dispatched with
  | done outcome => exact .inl speaks
  | initialize' version capabilities outcome => exact ⟨speaks, rfl⟩
  | listen | callback => exact ⟨congrArg some speaks.symm, rfl⟩

section

variable (shaped : call.Shaped boost options)

include shaped

/-- `Dispatch` treats a frame as the peek did, so a request comes to an answer under its id, or to
a place on the way to it. -/
theorem dispatched_request (recognized : call.recognized = false) (unopened : call.opened = false)
    {pc : CallPc} (dispatched : McpServer.Dispatches boost options registry s call pc) :
    pc.OfRequest call.detectedId call.opened ∧ pc.unregistered = false := by
  have sound := parseRequestFrame_sound boost options call.raw
  cases dispatched with
  | dropped h =>
    rw [shaped.classified, h] at recognized
    cases recognized
  | malformed error _ =>
    rw [shaped.detected, ← sound.detected]
    exact ⟨.inl (errorOutcome_answers _ _), rfl⟩
  | applied request parsed told | cancels request id parsed told =>
    have same := (sound.request request parsed).1
    rw [← shaped.classified, recognized, told] at same
    cases same
  | asked request dispatched parsed asked which =>
    have known := (sound.request request parsed).2 asked
    have speaks : dispatched.Speaks request.id := by
      rcases which with modern | ⟨accepted, capabilities, legacy⟩
      · rw [modern]
        exact dispatchModern_speaks
      · rw [legacy]
        exact dispatchLegacy_speaks _ _
    rw [shaped.detected, known, unopened]
    constructor
    · exact ofRequest_pc speaks
    · cases dispatched <;> rfl

/-- The owner of a request between its registration and its end. -/
theorem owner_isSome (asked : call.recognized = false)
    {pc : CallPc} (place : call.pc = pc) (owned : pc.owned = true) : call.owner.isSome = true :=
  shaped.owned asked (by rw [place]; exact owned)

/-- A call keeps its shape over a move of its own. -/
theorem moves {before pc : CallPc} (place : call.pc = before)
    (moves : McpServer.Moves boost options registry s call before pc) :
    Call.Shaped boost options { call with pc } := by
  have request (asked : call.recognized = false) : before.OfRequest call.detectedId call.opened :=
    place ▸ shaped.request asked
  have asked (place' : ¬before.OfNotice) : call.recognized = false :=
    shaped.asked (by rw [place]; exact place')
  have owned (asked : call.recognized = false) (there : before.owned = true) :
      call.owner.isSome = true := shaped.owner_isSome asked place there
  cases moves with
  | refused error =>
    exact shaped.goRequest (asked id) trivial (fun impossible => by cases impossible) rfl
  | duplicate id detected =>
    exact shaped.goRequest (asked (fun h => h)) trivial (fun impossible => by cases impossible) rfl
  | dispatched pc dispatched =>
    rcases Bool.eq_false_or_eq_true call.recognized with told | asked
    · exact shaped.goNotice told (shaped.dispatched_notice told dispatched)
    · have spoken := shaped.dispatched_request asked (request asked) dispatched
      exact shaped.goRequest asked spoken.1 (fun _ => owned asked rfl) spoken.2
  | barred pending =>
    have asked := asked id
    exact shaped.goRequest asked (.inl (Outcome.answers_error _ _)) (fun _ => owned asked rfl) rfl
  | entered pending =>
    have asked := asked id
    exact shaped.goRequest asked (request asked) (fun _ => owned asked rfl) rfl
  | replied pending reply outcome finished =>
    have asked := asked id
    apply shaped.goRequest asked _ (fun _ => owned asked rfl) rfl
    rw [(request asked).1]
    exact .inl (finishCallback_answers finished)
  | taken id uris =>
    have asked := asked fun h => h
    apply shaped.goRequest asked _ (fun _ => owned asked rfl) rfl
    rw [(request asked).1]
    exact .inl (errorOutcome_answers _ _)
  | free id uris =>
    have asked := asked fun h => h
    exact shaped.goRequest asked (request asked) (fun _ => owned asked rfl) rfl
  | excluded id uris error =>
    have asked := asked fun h => h
    exact shaped.goRequest asked (.inl (Outcome.answers_error _ _)) (fun _ => owned asked rfl) rfl
  | flipped =>
    exact shaped.goNotice (shaped.told (by rw [place]; exact id)) rfl
  | sealed' response =>
    have asked := asked (by rintro ⟨⟩)
    exact shaped.goRequest asked trivial (fun _ => owned asked rfl) rfl
  | passed response =>
    have asked := asked (by rintro ⟨⟩)
    apply shaped.goRequest asked _ (fun _ => owned asked rfl) rfl
    rcases request asked with (⟨error, impossible⟩ | ⟨answer, same, named⟩) | ⟨impossible, _⟩
    · cases impossible
    · cases same
      exact named
    · cases impossible
  | ownerless outcome ownerless silent =>
    rcases Bool.eq_false_or_eq_true call.recognized with told | asked
    · have silent : (CallPc.settle outcome).OfNotice := place ▸ (shaped.notice told).2
      exact shaped.goNotice told silent
    · have present := owned asked rfl
      rw [ownerless] at present
      cases present
  | bare response ownerless | crashed ownerless =>
    have present := owned (asked id) rfl
    rw [ownerless] at present
    cases present
  | silenced response owner =>
    have asked := asked id
    exact shaped.goRequest asked trivial (fun _ => owned asked rfl) rfl

/-- A call keeps its shape and its session over every step of its own. -/
theorem acts {before : CallPc} (place : call.pc = before)
    (acts : McpServer.Acts boost options registry s i call late before s') :
    ∃ call', s'.calls = s.calls.set i call' ∧ call'.Shaped boost options ∧
      call'.session = call.session := by
  have request (asked : call.recognized = false) : before.OfRequest call.detectedId call.opened :=
    place ▸ shaped.request asked
  have asked (place' : ¬before.OfNotice) : call.recognized = false :=
    shaped.asked (by rw [place]; exact place')
  have told (place' : ¬before.OfRequest call.detectedId call.opened) : call.recognized = true :=
    shaped.told (by rw [place]; exact place')
  have owned (asked : call.recognized = false) (there : before.owned = true) :
      call.owner.isSome = true := shaped.owner_isSome asked place there
  -- A request or a notification whose place changes alone.
  have onward (pc : CallPc) (asked : call.recognized = false) (there : before.owned = true)
      (request : pc.OfRequest call.detectedId call.opened) (fresh : pc.unregistered = false)
      (same : s'.calls = s.calls.set i { call with pc }) :
      ∃ call', s'.calls = s.calls.set i call' ∧ call'.Shaped boost options ∧
        call'.session = call.session :=
    ⟨_, same, shaped.goRequest asked request (fun _ => owned asked there) fresh, rfl⟩
  have downward (pc : CallPc) (place' : ¬before.OfRequest call.detectedId call.opened)
      (notice : pc.OfNotice) (same : s'.calls = s.calls.set i { call with pc }) :
      ∃ call', s'.calls = s.calls.set i call' ∧ call'.Shaped boost options ∧
        call'.session = call.session :=
    ⟨_, same, shaped.goNotice (told place') notice, rfl⟩
  have delivered (delivery : Delivery) : (s.deliver delivery).calls = s.calls := by
    unfold deliver
    split <;> rfl
  cases acts with
  | moved before pc moves => exact ⟨_, rfl, shaped.moves place moves, rfl⟩
  | admitted =>
    have fresh := shaped.fresh (by rw [place]; rfl)
    have asked := asked id
    exact ⟨_, rfl,
      { shaped with
        notice := fun told => by
          rw [show call.recognized = true from told] at asked
          cases asked
        request := fun _ => request asked
        owned := fun _ impossible => by cases impossible
        fresh := fun _ => fresh }, rfl⟩
  | registered free =>
    have asked := asked fun h => h
    exact ⟨_, rfl,
      { shaped with
        notice := fun told => by
          rw [show call.recognized = true from told] at asked
          cases asked
        request := fun _ => request asked
        owned := fun _ _ => rfl
        fresh := fun impossible => by cases impossible }, rfl⟩
  | stated before outcome sessions origin =>
    rcases origin with ⟨rfl, rfl, frame, parsed, notice⟩ | ⟨version, capabilities, rfl⟩
    · have told : call.recognized = true := by
        rw [shaped.classified, ← ((parseRequestFrame_sound boost options call.raw).request frame
          parsed).1, notice]
      exact ⟨_, rfl, shaped.goNotice told rfl, rfl⟩
    · have asked := asked id
      exact onward (.settle outcome) asked rfl (.inl (request asked).1) rfl rfl
  | reserved id uris =>
    have asked := asked fun h => h
    exact onward (.listenInsert id uris) asked rfl (request asked) rfl rfl
  | inserted id uris =>
    have asked := asked fun h => h
    exact ⟨_, rfl,
      { shaped with
        notice := fun told => by
          rw [show call.recognized = true from told] at asked
          cases asked
        request := fun _ => ⟨(request asked).1, rfl⟩
        owned := fun _ _ => owned asked rfl
        fresh := fun impossible => by cases impossible }, rfl⟩
  | acknowledged token id uris =>
    have asked := asked fun h => h
    apply onward (.mark token) asked rfl (request asked).2 rfl
    rw [← delivered]
    rfl
  | marked token =>
    have asked := asked id
    exact onward (.settle (.ok none)) asked rfl (.inr ⟨rfl, request asked⟩) rfl rfl
  | looked id =>
    have notice : (CallPc.cancelOwners id).OfNotice := trivial
    exact ⟨_, rfl, (shaped.sees (s.registered call.session id)).goNotice (told fun h => h) notice,
      rfl⟩
  | ended id entry =>
    have notice : (CallPc.cancelEmit entry).OfNotice := trivial
    exact ⟨_, rfl, (shaped.sees (s.registered call.session id)).goNotice (told fun h => h) notice,
      rfl⟩
  | announced entry =>
    apply downward (.cancelReturn entry.listenId) id trivial
    rw [← delivered]
    rfl
  | givenBack id => exact downward (.cancelOwners id) (fun h => h) trivial rfl
  | erased id =>
    exact downward (.cancelFlip (s.requestOwners.filter (s.ownedBy call.session id))) (fun h => h)
      trivial rfl
  | flips victim rest => exact downward (.cancelFlip rest) id trivial rfl
  | completed outcome owner present silent =>
    have asked : call.recognized = false := by
      by_contra told
      have absent := (shaped.notice (by simpa using told)).1
      rw [present] at absent
      cases absent
    exact onward (.retire outcome) asked rfl trivial rfl rfl
  | closes owner => exact onward (.retire (.error closedCoreError)) (asked id) rfl trivial rfl rfl
  | expired response owner =>
    exact onward _ (asked id) rfl (show CallPc.OfRequest _ _ (.retire _) from trivial) rfl rfl
  | answered response owner =>
    exact onward (.retire (.ok (some response))) (asked id) rfl trivial rfl rfl
  | retired | left =>
    exact ⟨_, rfl, shaped.goRequest (asked id) trivial (fun impossible => by cases impossible) rfl,
      rfl⟩

end

/-- A new call has the shape of its peek. -/
theorem newCall (session : Nat) (raw : Bytes) :
    (McpServer.newCall boost options session raw).Shaped boost options := by
  have sound := parseRequestFrame_sound boost options raw
  rcases Bool.eq_false_or_eq_true
    (parseRequestFrame boost raw options.limits).notificationRecognized with told | asked
  · refine ⟨sound.detected, rfl, fun _ => ⟨rfl, ?_⟩, fun _ => ?_, fun recognized => ?_, fun _ => rfl⟩
    · simp only [McpServer.newCall, told, if_true]
      trivial
    · simp only [McpServer.newCall, told, if_true]
      rfl
    · rw [show (parseRequestFrame boost raw options.limits).notificationRecognized = false from
        recognized] at told
      cases told
  · refine ⟨sound.detected, rfl, fun recognized => ?_, fun _ => ?_, fun _ there => ?_, fun _ => rfl⟩
    · rw [show (parseRequestFrame boost raw options.limits).notificationRecognized = true from
        recognized] at asked
      cases asked
    · simp only [McpServer.newCall, asked]
      rfl
    · simp only [McpServer.newCall, asked] at there
      cases there

end Call.Shaped

/-- Every call is in a session and has its shape. -/
def McpServer.Shaped (boost : Bytes → Nat → Except JsonFault JsonValue) (options : ServerOptions)
    (s : McpServer) : Prop :=
  ∀ (i : Nat) (call : Call), s.calls[i]? = some call →
    call.session < s.sessions.length ∧ call.Shaped boost options

section Runs

variable {boost : Bytes → Nat → Except JsonFault JsonValue} {options : ServerOptions}
  {registry : Registry} {s s' : McpServer} {i : Nat} {call : Call} {late : Bool}

/-- A server without calls. -/
theorem McpServer.shaped_start : McpServer.Shaped boost options {} := by
  intro i call found
  cases found

/-- Every step keeps the calls in their sessions and in their shape. -/
theorem McpServer.Steps.shaped {label : Label} (shaped : s.Shaped boost options)
    (steps : McpServer.Steps boost options registry s label s') : s'.Shaped boost options := by
  have unchanged (same : s'.calls = s.calls) (grows : s.sessions.length ≤ s'.sessions.length) :
      s'.Shaped boost options := by
    intro i call found
    rw [same] at found
    exact ⟨Nat.lt_of_lt_of_le (shaped i call found).1 grows, (shaped i call found).2⟩
  have grows := steps.sessions_length
  cases steps with
  | acted i call late label next found origin acts =>
    obtain ⟨known, shape⟩ := shaped i call found
    obtain ⟨call', same, shape', session⟩ := shape.acts rfl acts
    intro j other found'
    rw [same] at found'
    rcases List.getElem?_set_cases found' with ⟨_, rfl⟩ | old
    · exact ⟨by rw [session]; omega, shape'⟩
    · exact ⟨Nat.lt_of_lt_of_le (shaped j other old).1 grows, (shaped j other old).2⟩
  | begun session raw known =>
    intro j other found'
    rcases List.getElem?_push_cases found' with ⟨_, rfl⟩ | old
    · exact ⟨known, Call.Shaped.newCall session raw⟩
    · exact shaped j other old
  | sent | emitted => exact unchanged (deliver_calls _) grows
  | _ => exact unchanged rfl grows

/-- The calls of a reachable server are in their sessions and in their shape. -/
theorem McpServer.shaped_of_reachable (reachable : (mcpMachine boost options registry).Reachable s) :
    s.Shaped boost options := by
  apply reachable.invariant
  · intro s begun
    subst begun
    exact shaped_start
  · intro s label next shaped stepped
    exact (step_steps (fun i call found => (shaped i call found).1) stepped).shaped shaped

/-- Every step of a reachable server is one of the list. -/
theorem McpServer.steps_of_reachable {label : Label}
    (reachable : (mcpMachine boost options registry).Reachable s)
    (stepped : (mcpMachine boost options registry).step s label = some s') :
    McpServer.Steps boost options registry s label s' :=
  step_steps (fun i call found => (shaped_of_reachable reachable i call found).1)
    stepped

end Runs

end BbtInfra.Mcp
