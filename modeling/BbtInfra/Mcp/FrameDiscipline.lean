import BbtInfra.Mcp.Owners

/-!
# One answer for one frame

What `HandleFrame` returns for a frame, whatever the other calls, the cancels and a close do in the
meantime. A notification is never answered. Another frame is answered once, under its own id, or it
is silent because it was stopped or has opened a subscription.
-/
namespace BbtInfra.Mcp

open Lib

namespace McpServer

/-- What may be returned for a frame that is no notification: an error of the core, one answer under
the id of the frame, or nothing when the frame was cancelled or closed or opened a subscription. -/
def Settled (s : McpServer) (call : Call) (outcome : Outcome) : Prop :=
  (∃ error, outcome = .error error) ∨
    (∃ response, outcome = .ok (some response) ∧
      responseId response = some (answerId call.detectedId)) ∨
    (outcome = .ok none ∧ (call.opened = true ∨
      ∃ owner, call.owner = some owner ∧ (s.terminalOf owner).Forced))

/-- The places at which the outcome of a request stands. -/
def concluded : CallPc → Bool
  | .retire _ | .release _ | .returned _ => true
  | _ => false

/-- The outcome of a frame, as soon as it stands. -/
def Judged (s : McpServer) (call : Call) : Prop :=
  match call.pc with
  | .retire outcome | .release outcome | .returned outcome => s.Settled call outcome
  | _ => ∀ owner, call.owner = some owner →
      s.terminalOf owner = .none' ∨ (s.terminalOf owner).Forced

/-- A frame without an id does not come to the gate behind its deadline while it may still be
answered. -/
def Timely (s : McpServer) (label : Label) : Prop :=
  ∀ (i : Nat) (call : Call) (response : JsonValue) (owner : Nat), label = .act i true →
    s.calls[i]? = some call → call.pc = .judge response → call.owner = some owner →
    s.terminalOf owner = .none' → call.detectedId ≠ none

variable {boost : Bytes → Nat → Except JsonFault JsonValue} {options : ServerOptions}
  {registry : Registry} {s s' : McpServer} {i : Nat} {call : Call} {late : Bool}

/-- The terminal state of an owner that is known. -/
theorem terminalOf_eq {owner : Nat} {record : RequestOwner} (found : s.owners[owner]? = some record) :
    s.terminalOf owner = record.terminal := by
  rw [terminalOf, found]
  rfl

/-- An outcome that stands keeps standing, for a terminal state is final. -/
theorem Settled.keep {outcome : Outcome} (settled : s.Settled call outcome)
    (final : ∀ owner, call.owner = some owner → (s.terminalOf owner).Forced →
      (s'.terminalOf owner).Forced) : s'.Settled call outcome := by
  rcases settled with failed | answered | ⟨silent, reason⟩
  · exact .inl failed
  · exact .inr (.inl answered)
  · rcases reason with opened | ⟨owner, present, forced⟩
    · exact .inr (.inr ⟨silent, .inl opened⟩)
    · exact .inr (.inr ⟨silent, .inr ⟨owner, present, final owner present forced⟩⟩)

/-- A terminal state that is not none is final. -/
theorem keeps_terminal {own : Prop} {owner : Nat} {record record' : RequestOwner}
    (found : s.owners[owner]? = some record) (found' : s'.owners[owner]? = some record')
    (keeps : record.Keeps record' own) (set : s.terminalOf owner ≠ .none') :
    s'.terminalOf owner = s.terminalOf owner := by
  rw [terminalOf_eq found] at set ⊢
  rw [terminalOf_eq found']
  rcases keeps.terminal with same | ⟨unset, _⟩
  · exact same
  · exact absurd unset set

/-- What stands of another call keeps standing. -/
theorem Judged.keep (judged : s.Judged call)
    (others : ∀ owner, call.owner = some owner → ∃ record record', s.owners[owner]? = some record ∧
      s'.owners[owner]? = some record' ∧ record.Keeps record' False) : s'.Judged call := by
  have final (owner : Nat) (present : call.owner = some owner)
      (forced : (s.terminalOf owner).Forced) : (s'.terminalOf owner).Forced := by
    obtain ⟨record, record', found, found', keeps⟩ := others owner present
    rw [keeps_terminal found found' keeps (by rcases forced with h | h <;> rw [h] <;> decide)]
    exact forced
  have running (ready : ∀ owner, call.owner = some owner →
      s.terminalOf owner = .none' ∨ (s.terminalOf owner).Forced) :
      ∀ owner, call.owner = some owner →
        s'.terminalOf owner = .none' ∨ (s'.terminalOf owner).Forced := by
    intro owner present
    obtain ⟨record, record', found, found', keeps⟩ := others owner present
    rcases ready owner present with unset | forced
    · rw [terminalOf_eq found']
      rcases keeps.terminal with same | ⟨_, forced | impossible⟩
      · left
        rw [same, ← terminalOf_eq found]
        exact unset
      · exact .inr forced
      · exact impossible.elim
    · exact .inr (final owner present forced)
  unfold Judged at judged ⊢
  split at judged
  · exact Settled.keep judged final
  · exact Settled.keep judged final
  · exact Settled.keep judged final
  · exact running judged

/-- Before its outcome stands, an owner was stopped or has no terminal state. -/
theorem judged_early (early : concluded call.pc = false) :
    s.Judged call ↔ ∀ owner, call.owner = some owner →
      s.terminalOf owner = .none' ∨ (s.terminalOf owner).Forced := by
  unfold Judged
  split
  next place => rw [place] at early; cases early
  next place => rw [place] at early; cases early
  next place => rw [place] at early; cases early
  · rfl

/-- `Dispatch` leads to a place before the end of the owner. -/
theorem dispatches_early {pc : CallPc} (dispatched : Dispatches boost options registry s call pc) :
    concluded pc = false := by
  cases dispatched with
  | asked request dispatched => cases dispatched <;> rfl
  | _ => rfl

/-- A request is judged over a move of its own. -/
theorem moves_judged (judged : s.Judged call) (shaped : call.Shaped boost options)
    (asked : call.recognized = false) {before pc : CallPc} (place : call.pc = before)
    (moves : Moves boost options registry s call before pc) : s.Judged { call with pc } := by
  -- Both places are before the end of the owner, which the move leaves alone.
  have onward (early : concluded before = false) (early' : concluded pc = false) :
      s.Judged { call with pc } := by
    have standing : concluded call.pc = false := by rw [place]; exact early
    have running := (judged_early standing).mp judged
    rw [judged_early early']
    exact running
  have owned (there : before.owned = true) (ownerless : call.owner = none) : False := by
    have present := shaped.owner_isSome asked place there
    rw [ownerless] at present
    cases present
  cases moves with
  | refused error => exact .inl ⟨error, rfl⟩
  | duplicate id detected =>
    refine .inr (.inl ⟨_, rfl, ?_⟩)
    rw [responseId_error, answerId, detected]
  | dispatched pc dispatched => exact onward rfl (dispatches_early dispatched)
  | ownerless outcome ownerless | bare response ownerless | crashed ownerless =>
    exact (owned rfl ownerless).elim
  | silenced response owner present set =>
    have standing : concluded call.pc = false := by rw [place]; rfl
    have running := (judged_early standing).mp judged
    rcases running owner present with unset | forced
    · exact absurd unset set
    · exact .inr (.inr ⟨rfl, .inr ⟨owner, present, forced⟩⟩)
  | _ => exact onward rfl rfl

/-- A request is judged over every step of its own, when the step is timely. -/
theorem Acts.judged (judged : s.Judged call) (links : s.OwnerLinks)
    (shaped : call.Shaped boost options) (asked : call.recognized = false)
    (found : s.calls[i]? = some call) {before : CallPc} (place : call.pc = before)
    (timely : ∀ response owner, before = .judge response → late = true →
      call.owner = some owner → s.terminalOf owner = .none' → call.detectedId ≠ none)
    (acts : Acts boost options registry s i call late before s') :
    ∃ call', s'.calls = s.calls.set i call' ∧ s'.Judged call' := by
  have request : before.OfRequest call.detectedId call.opened := place ▸ shaped.request asked
  -- A step between two places before the end of the owner, which it leaves alone.
  have onward (call' : Call) (calls : s'.calls = s.calls.set i call') (mine : call'.owner = call.owner)
      (owners : s'.owners = s.owners) (early : concluded before = false)
      (early' : concluded call'.pc = false) :
      ∃ call', s'.calls = s.calls.set i call' ∧ s'.Judged call' := by
    refine ⟨call', calls, ?_⟩
    rw [judged_early early', mine]
    unfold terminalOf
    rw [owners]
    exact (judged_early (place ▸ early)).mp judged
  cases acts with
  | moved before pc moves => exact ⟨_, rfl, moves_judged judged shaped asked place moves⟩
  | admitted => exact onward { call with pc := .register } rfl rfl rfl rfl rfl
  | registered free =>
    refine ⟨_, rfl, ?_⟩
    intro owner present
    cases present
    left
    have newest : (s.owners ++ [{ requestId := call.detectedId.getD .default'
                                  session := call.session }])[s.owners.length]? =
        some { requestId := call.detectedId.getD .default', session := call.session } :=
      List.getElem?_concat_length
    unfold terminalOf
    rw [newest]
    rfl
  | stated before outcome sessions origin =>
    rcases origin with ⟨rfl, rfl, frame, parsed, notice⟩ | ⟨version, capabilities, rfl⟩
    · have told := ((parseRequestFrame_sound boost options call.raw).request frame parsed).1
      rw [notice, ← shaped.classified, asked] at told
      cases told
    · exact onward { call with pc := .settle outcome } rfl rfl rfl rfl rfl
  | reserved id uris => exact onward { call with pc := .listenInsert id uris } rfl rfl rfl rfl rfl
  | inserted id uris =>
    exact onward { call with pc := .acknowledge s.nextToken id uris, opened := true } rfl rfl rfl rfl
      rfl
  | acknowledged token =>
    exact onward { call with pc := .mark token } (congrArg (List.set · i _) (deliver_calls _)) rfl
      (deliver_owners _) rfl rfl
  | marked token => exact onward { call with pc := .settle (.ok none) } rfl rfl rfl rfl rfl
  | completed outcome owner present silent =>
    refine ⟨_, rfl, ?_⟩
    rcases request with (⟨error, failed⟩ | ⟨response, answered, _⟩) | ⟨silent', opened⟩
    · exact .inl ⟨error, failed⟩
    · exact absurd answered (silent response)
    · exact .inr (.inr ⟨silent', .inl opened⟩)
  | closes owner => exact ⟨_, rfl, .inl ⟨_, rfl⟩⟩
  | expired response owner present unset passed =>
    obtain ⟨record, stored, id, _⟩ := links.linked i call owner found present
    refine ⟨_, rfl, .inr (.inl ⟨_, rfl, ?_⟩)⟩
    have known := timely response owner rfl passed present unset
    obtain ⟨value, detected⟩ := Option.ne_none_iff_exists'.mp known
    rw [stored, Option.map_some, id, responseId_error, answerId, detected]
    rfl
  | answered response owner => exact ⟨_, rfl, .inr (.inl ⟨response, rfl, request⟩)⟩
  | retired outcome | left outcome =>
    refine ⟨_, rfl, ?_⟩
    have settled : s.Settled call outcome := by
      unfold Judged at judged
      rw [place] at judged
      exact judged
    exact settled
  | _ => exact request.elim

/-- Every request is judged. -/
def AllJudged (s : McpServer) : Prop :=
  ∀ (i : Nat) (call : Call), s.calls[i]? = some call → call.recognized = false → s.Judged call

/-- Every timely step keeps the requests judged. -/
theorem Steps.judged (judged : s.AllJudged) (links : s.OwnerLinks) (shaped : s.Shaped boost options)
    {label : Label} (timely : s.Timely label)
    (steps : Steps boost options registry s label s') : s'.AllJudged := by
  -- A call whose step it is not: its owner may only be stopped.
  have bystander (j : Nat) (other : Call) (stored : s.calls[j]? = some other)
      (asked : other.recognized = false) (apart : actor label ≠ some j) : s'.Judged other := by
    apply (judged j other stored asked).keep
    intro owner present
    obtain ⟨record, found, _⟩ := links.linked j other owner stored present
    obtain ⟨record', found', keeps⟩ := steps.owners found
    refine ⟨record, record', found, found', keeps.requestId, keeps.session, ?_⟩
    rcases keeps.terminal with same | ⟨unset, forced | ⟨i, call, acts, present', owns⟩⟩
    · exact .inl same
    · exact .inr ⟨unset, .inl forced⟩
    · have same := links.separate i j call other owner present' stored owns present
      exact absurd (same ▸ acts) apart
  have unchanged (calls : s'.calls = s.calls) (idle : actor label = none) : s'.AllJudged := by
    intro j other stored asked
    rw [calls] at stored
    apply bystander j other stored asked
    rw [idle]
    intro impossible
    cases impossible
  cases steps with
  | acted i call late label next found origin acts =>
    have actor := actor_of_origin origin
    obtain ⟨call', calls, _, _, _, recognized⟩ := acts.frame
    intro j other stored asked
    rw [calls] at stored
    by_cases mine : j = i
    · subst mine
      rw [List.getElem?_set_found found] at stored
      cases stored
      have asked' : call.recognized = false := recognized ▸ asked
      obtain ⟨call'', calls', judged'⟩ := acts.judged (judged j call found asked') links
        (shaped j call found).2 asked' found rfl (by
          intro response owner place behind
          rcases origin with rfl | ⟨soon, _⟩
          · subst behind
            exact timely j call response owner rfl found place
          · rw [soon] at behind
            cases behind)
      have same : some call' = some call'' := by
        rw [← List.getElem?_set_found found, ← calls, calls', List.getElem?_set_found found]
      cases same
      exact judged'
    · rw [List.getElem?_set_ne (Ne.symm mine)] at stored
      apply bystander j other stored asked
      rw [actor]
      intro same
      cases same
      exact mine rfl
  | begun session raw known =>
    intro j other stored asked
    rcases List.getElem?_push_cases stored with ⟨_, rfl⟩ | old
    · have early : concluded (newCall boost options session raw).pc = false := by
        unfold newCall
        dsimp only
        split <;> rfl
      rw [judged_early early]
      intro owner present
      cases present
    · apply bystander j other old asked
      intro impossible
      cases impossible
  | sent | emitted => exact unchanged (deliver_calls _) rfl
  | _ => exact unchanged rfl rfl

/-- The places at which `Dispatch` has answered. -/
def producing : CallPc → Bool
  | .settle (.ok (some _)) | .shut | .judge _ => true
  | _ => false

/-- What holds of one frame: the peek classified it and found its id, an owner is there when
`Dispatch` has answered, and what is returned fits. -/
structure FrameDisciplined (boost : Bytes → Nat → Except JsonFault JsonValue)
    (options : ServerOptions) (s : McpServer) (call : Call) : Prop where
  classified :
    call.recognized = (parseRequestFrame boost call.raw options.limits).notificationRecognized
  detected : call.detectedId = frameId boost options call.raw
  owned : producing call.pc = true → call.owner.isSome = true
  safe : call.pc ≠ .crashed
  silent : ∀ outcome, call.pc = .returned outcome → call.recognized = true → outcome = .ok none
  settled : ∀ outcome, call.pc = .returned outcome → call.recognized = false →
    s.Settled call outcome

/-- Every frame is treated so, and the table of the owners is empty when no frame is running. -/
def Disciplined (boost : Bytes → Nat → Except JsonFault JsonValue) (options : ServerOptions)
    (s : McpServer) : Prop :=
  (∀ (i : Nat) (call : Call), s.calls[i]? = some call →
    s.FrameDisciplined boost options call) ∧
  ((∀ call ∈ s.calls, ∃ outcome, call.pc = .returned outcome) → s.requestOwners = [])

/-- A request at which `Dispatch` has answered has its owner. -/
theorem owner_of_producing (shaped : call.Shaped boost options) (produces : producing call.pc = true) :
    call.owner.isSome = true := by
  have asked : call.recognized = false := by
    apply shaped.asked
    intro notice
    unfold producing at produces
    split at produces
    next place => rw [place] at notice; cases notice
    next place => rw [place] at notice; exact notice
    next place => rw [place] at notice; exact notice
    · cases produces
  apply shaped.owned asked
  unfold producing at produces
  split at produces
  next place => rw [place]; rfl
  next place => rw [place]; rfl
  next place => rw [place]; rfl
  · cases produces

/-- For every configuration, every frame and every interleaving in which no frame without an id comes
to the gate behind its deadline while it may still be answered: a notification gets no answer,
another frame gets an error of the core, silence with a reason or one answer under its id or null,
peek and dispatch agree on it, and no owner is left behind. -/
theorem frame_discipline {labels : List Label}
    (run : (mcpMachine boost options registry).GuardedRun Timely labels s) :
    s.Disciplined boost options := by
  have shaped := shaped_of_reachable run.reachable
  have judged : s.AllJudged := by
    apply run.reachableInvariant
    · intro s begun
      subst begun
      intro i call found
      cases found
    · intro s label next reachable judged timely stepped
      exact (steps_of_reachable reachable stepped).judged judged (links_of_reachable reachable)
        (shaped_of_reachable reachable) timely
  constructor
  · intro i call found
    have shape := (shaped i call found).2
    refine ⟨shape.classified, shape.detected, owner_of_producing shape, ?_, ?_, ?_⟩
    · intro place
      rcases Bool.eq_false_or_eq_true call.recognized with told | asked
      · have notice := (shape.notice told).2
        rw [place] at notice
        exact notice
      · have request := shape.request asked
        rw [place] at request
        exact request
    · intro outcome place told
      have notice := (shape.notice told).2
      rw [place] at notice
      exact notice
    · intro outcome place asked
      have settled := judged i call found asked
      unfold Judged at settled
      rw [place] at settled
      exact settled
  · exact (links_of_reachable run.reachable).empty

/-- A step of a call in front of its deadline, or of another thread. -/
def punctual : Label → Bool
  | .act _ late => !late
  | _ => true

/-- A `ping` that is answered. -/
theorem frame_discipline_ping : ∃ s labels, sampleMachine.GuardedRun Timely labels s ∧
    s.calls.length = 1 ∧ s.Disciplined (tableParser frameDocuments) {} := by
  have begun : sampleMachine.start {} := rfl
  obtain ⟨s, run, answered⟩ := Machine.exists_guardedRun
    [.start, .session true, .frame 0 pingFrame, .act 0 false, .act 0 false, .act 0 false,
      .act 0 false, .act 0 false, .act 0 false, .act 0 false]
    (fun _ label => punctual label)
    (fun s : McpServer => decide (s.calls.length = 1) && s.calls.all fun call =>
      ((call.pc.outcome.bind Except.toOption).join).isSome) begun (by decide +kernel)
  have timely : sampleMachine.GuardedRun Timely _ s := run.mono (by
    intro s label early i call response owner same
    subst same
    cases early)
  have one := (Bool.and_eq_true_iff.mp answered).1
  exact ⟨s, _, timely, of_decide_eq_true one, frame_discipline timely⟩

/-- A frame that is no JSON and passes its deadline is answered with the id of an empty text where
its id is null. -/
theorem frame_discipline_fails :
    ∃ s, sampleMachine.Reachable s ∧ ¬s.Disciplined (tableParser frameDocuments) {} := by
  have begun : sampleMachine.start {} := rfl
  obtain ⟨s, reachable, answered⟩ := Machine.exists_reachable
    [.start, .session true, .frame 0 (text "oops"), .act 0 false, .act 0 false, .act 0 false,
      .act 0 false, .act 0 true, .act 0 false, .act 0 false]
    (fun s : McpServer => s.calls.any fun call =>
      !call.recognized && call.detectedId.isNone &&
        decide (((call.pc.outcome.bind Except.toOption).join.bind responseId).bind
          JsonValue.asString = some [])) begun (by decide +kernel)
  refine ⟨s, reachable, fun disciplined => ?_⟩
  obtain ⟨call, member, wrong⟩ := List.any_eq_true.mp answered
  obtain ⟨i, found⟩ := List.mem_iff_getElem?.mp member
  simp only [Bool.and_eq_true, Bool.not_eq_true', Option.isNone_iff_eq_none] at wrong
  obtain ⟨⟨asked, unnamed⟩, named⟩ := wrong
  obtain ⟨id, named, empty⟩ := Option.bind_eq_some_iff.mp (of_decide_eq_true named)
  obtain ⟨response, answered, named⟩ := Option.bind_eq_some_iff.mp named
  obtain ⟨outcome, place, same⟩ := Option.bind_eq_some_iff.mp (Option.join_eq_some_iff.mp answered)
  rcases (disciplined.1 i call found).settled outcome (CallPc.of_outcome place) asked with
    ⟨error, failed⟩ | ⟨response', answer, right⟩ | ⟨silent, _⟩
  · rw [failed] at same
    cases same
  · rw [answer] at same
    cases same
    rw [unnamed] at right
    rw [right] at named
    cases named
    cases empty
  · rw [silent] at same
    cases same

end McpServer

end BbtInfra.Mcp
